import Tikblog.Consumer.Partition
import Tikblog.Consumer.Outcomes

/-!
# Progress of the queue

One pass over a record, while Kafka works and the HTTP client keeps to its outcomes: it
returns, or raises `TransientError` or `PermanentRejection`. The pass should commit the
record whatever its bytes are and however the calls come out. It does so but for three kinds
of inputs (`iteration_commits_iff`): a record without a value, on which `messages` raises; a
pause that the host does not take; and an error whose text `park` cannot encode.
-/

namespace Tikblog.Consumer

open Python Contracts Kafka Program

/-- The outcomes of `UnsubscribeMeClient.unsubscribe` that `deliver` is written for. -/
def documentedCall : ClientCall := fun _ result answered =>
  ∃ outcome : Outcome, result = outcome.answer ∧ (answered ↔ ∃ returned, outcome = .success returned)

/-- What a pass meets: what bytes decode to, how the calls of the client come out one after
the other, and the pauses that the host takes. -/
structure Surroundings where
  decode : Bytes → Except PyStr UnsubscribeEvent
  outcomes : Nat → Outcome
  limit : SleepLimit

/-- The calls of the client that a call is. -/
def attemptsIn : Op → Nat
  | .unsubscribe _ => 1
  | _ => 0

/-- The answers in surroundings in which Kafka works: the record `m` is handed out,
dead-letter copies are accepted and confirmed, and commits go through. The number is that of
the calls of the client so far. -/
def AnswersIn (around : Surroundings) (m : Message) : Program.Exec Op Ans (World × Nat) := fun o s a t =>
  match o, a with
  | .poll _, a => a = some m
  | .fromBytes payload, a => a = around.decode payload
  | .unsubscribe _, a => a = (around.outcomes s.2).answer
  | .sleep seconds, a => around.limit.Answers seconds a
  | .produce _, a => a = .ok ()
  | .flush _, _ => s.1.queue ⊆ t.1.confirmed
  | .commit _, a => a = .ok ()
  | _, _ => True

/-- The calls of a pass over `m`. -/
structure PassExec (log : PartitionLog) (m : Message) (around : Surroundings) (o : Op) (s : World × Nat)
    (a : Ans o) (t : World × Nat) : Prop where
  step : Exec log documentedCall o s.1 a t.1
  count : t.2 = s.2 + attemptsIn o
  answers : AnswersIn around m o s a t

/-- What a record is to meet for the pass over it to get by: it has a value, and the event in
it can be delivered, or the text of the error with which it does not decode can be encoded. -/
def GetsBy (settings : Settings) (around : Surroundings) (m : Message) : Prop :=
  ∃ payload, m.value = some payload ∧
    match around.decode payload with
    | .ok _ => Deliverable settings around.limit around.outcomes
    | .error text => PyStr.HasUtf8 ((errorOrUnknown (some text)).take 500)

/-- The record is committed and the position stands behind it. -/
def Committed (m : Message) (s : World) : Prop :=
  s.committed = m.offset + 1 ∧ s.position = m.offset + 1

/-- Returning at the position `n`. -/
def ReturnsAt (n : Nat) (r : Except PyException Unit) (s : World × Nat) : Prop :=
  r = .ok () ∧ s.1.position = n

section

variable {settings : Settings} {log : PartitionLog} {m : Message} {around : Surroundings} {s : World × Nat}
  {n : Nat}

theorem PassExec.position {o : Op} {a : Ans o} {t : World × Nat} (h : PassExec log m around o s a t)
    (quiet : Quiet o) (at_n : s.1.position = n) : t.1.position = n :=
  (h.step.frame quiet).2.1.trans at_n

/-- A flush may confirm the whole queue in every state. -/
theorem flush_possible (timeout : Seconds) (s : World × Nat) :
    PassExec log m around (.flush timeout) s 0 (s.1.flushed s.1.queue [] [], s.2) where
  step := @Exec.flushed _ _ _ _ s.1.queue [] [] (by simp)
  count := rfl
  answers := List.subset_append_right _ _

/-- The call of the client comes out as its turn is. -/
theorem unsubscribe_possible (event : UnsubscribeEvent) (s : World × Nat) :
    ∃ a t, PassExec log m around (.unsubscribe event) s a t := by
  by_cases answered : ∃ returned, around.outcomes s.2 = .success returned
  · exact ⟨_, (s.1.answer, s.2 + 1), .answered (p := True) ⟨_, rfl, by simpa using answered⟩ trivial, rfl, rfl⟩
  · exact ⟨_, (s.1, s.2 + 1), .unanswered (p := False) ⟨_, rfl, by simpa using answered⟩ id, rfl, rfl⟩

/-- `park` returns if the error can be encoded, and raises if not. -/
theorem park_ends_iff (h : s.1.position = n) (reason : String) (error : PyStr) (attempts : Nat) :
    Prog.Ends (PassExec log m around) (ReturnsAt n) (park settings m reason error attempts) s ↔
      PyStr.HasUtf8 (error.take 500) := by
  rw [← dlqError_ok_iff]
  unfold park
  cases encoded : dlqError error with
  | error e =>
    constructor
    · intro ends
      cases ends.1
    · rintro ⟨bytes, impossible⟩
      cases impossible
  | ok bytes =>
    simp only [Except.ok.injEq, exists_eq', iff_true]
    refine ⟨⟨"", s, .now, rfl, trivial⟩, fun failedAt s₁ now => ?_⟩
    have position := now.position trivial h
    refine ⟨⟨.ok (), (s₁.1.enqueue _, s₁.2), .produced, rfl, rfl⟩, fun produced s₂ handed => ?_⟩
    have position := handed.position trivial position
    obtain rfl : produced = .ok () := handed.answers
    exact ⟨⟨_, _, flush_possible _ _⟩, fun remaining s₃ flushed => ⟨rfl, flushed.position trivial position⟩⟩

/-- The loop over the attempts from the one after `made` calls on returns exactly if its
pauses are taken and what it parks can be encoded. -/
theorem deliverLoop_ends_iff (event : UnsubscribeEvent) {left made : Nat} {delay : Seconds}
    (budget : made + 1 + left = settings.maxAttempts) (h : s.1.position = n) (soFar : s.2 = made) :
    Prog.Ends (PassExec log m around) (ReturnsAt n)
        (deliverLoop settings event m (List.range' (made + 1) (left + 1)) delay) s ↔
      GetsThrough settings around.limit around.outcomes left made delay := by
  induction left generalizing made delay s with
  | zero =>
    refine Prog.Ends.op_iff (unsubscribe_possible event s) fun answer t called => ?_
    have position := called.position trivial h
    have answered : answer = (around.outcomes s.2).answer := called.answers
    rw [soFar] at answered
    subst answered
    rw [GetsThrough]
    cases outcome : around.outcomes made with
    | success returned => exact iff_of_true ⟨rfl, position⟩ trivial
    | permanentRejection text => exact park_ends_iff position ..
    | transientError text =>
      simp only [Outcome.answer, Prog.bind_ok]
      rw [if_pos (by omega)]
      exact park_ends_iff position ..
  | succ left ih =>
    refine Prog.Ends.op_iff (unsubscribe_possible event s) fun answer t called => ?_
    have position := called.position trivial h
    have answered : answer = (around.outcomes s.2).answer := called.answers
    have counted : t.2 = made + 1 := called.count.trans (by rw [soFar]; rfl)
    rw [soFar] at answered
    subst answered
    rw [GetsThrough]
    cases outcome : around.outcomes made with
    | success returned => exact iff_of_true ⟨rfl, position⟩ trivial
    | permanentRejection text => exact park_ends_iff position ..
    | transientError text =>
      simp only [Outcome.answer, Prog.bind_ok, Outcome.isTransient, if_true]
      rw [if_neg (by omega)]
      by_cases short : delay ≤ around.limit.longest
      · rw [and_iff_right short]
        refine Prog.Ends.op_iff ⟨_, t, .slept (SleepLimit.slept short).1, rfl, SleepLimit.slept short⟩
          fun slept u paused => ?_
        obtain rfl : slept = .ok () := paused.answers.2 short
        exact ih (by omega) (paused.position trivial position) (paused.count.trans counted)
      · -- the host may refuse the pause, and the exception leaves `deliver`
        refine iff_of_false (fun ends => ?_) fun passes => short passes.1
        obtain ⟨e, refused⟩ := SleepLimit.refused short
        cases (ends.2 (.error e) t ⟨.slept refused.1, rfl, refused⟩).1

theorem deliver_ends_iff (event : UnsubscribeEvent) (h : s.1.position = n) (soFar : s.2 = 0) :
    Prog.Ends (PassExec log m around) (ReturnsAt n) (deliver settings event m) s ↔
      Deliverable settings around.limit around.outcomes := by
  obtain ⟨left, budget, -, loop⟩ := deliver_eq_loop settings event m
  rw [loop, deliverable_iff budget]
  exact deliverLoop_ends_iff event budget h soFar

/-- A program that leaves the position alone, followed by the commit of the record. -/
theorem commits_iff {p : ConsumerM Unit} (quiet : p.Uses Quiet) (h : s.1.position = m.offset + 1) :
    Prog.Ends (PassExec log m around) (fun r t => r = .ok () ∧ Committed m t.1) (p >>= fun _ => commit m) s ↔
      Prog.Ends (PassExec log m around) (ReturnsAt (m.offset + 1)) p s := by
  induction p generalizing s with
  | done r =>
    cases r with
    | error e => exact iff_of_false (fun ends => by cases ends.1) fun ends => by cases ends.1
    | ok _ =>
      refine iff_of_true ?_ ⟨rfl, h⟩
      refine ⟨⟨.ok (), (s.1.commit m, s.2), .committed, rfl, rfl⟩, fun result ⟨t, made⟩ committed => ?_⟩
      obtain rfl : result = .ok () := committed.answers
      have here : Committed m t := by
        cases committed.step with
        | committed => exact ⟨rfl, h⟩
      refine ⟨⟨(), (t.count .processed, made), .counted, rfl, trivial⟩, fun _ u counted => ⟨rfl, ?_⟩⟩
      obtain ⟨offset, position, -⟩ := counted.step.frame trivial
      exact ⟨offset.trans here.1, position.trans here.2⟩
  | op o k ih =>
    constructor
    · intro ends
      exact ⟨ends.1, fun a t step => (ih a (quiet.2 a) (step.position quiet.1 h)).1 (ends.2 a t step)⟩
    · intro ends
      exact ⟨ends.1, fun a t step => (ih a (quiet.2 a) (step.position quiet.1 h)).2 (ends.2 a t step)⟩

end

/-- **When a pass over a record gets by.** While Kafka works, for every record of the
partition, whatever its bytes decode to and however the calls come out one after the other,
one pass over the record commits it and returns exactly when `GetsBy` holds. -/
theorem iteration_commits_iff (settings : Settings) (around : Surroundings) {log : PartitionLog} {m : Message}
    {s : World} (next : log.next s.position = some m) :
    Prog.Ends (PassExec log m around) (fun r t => r = .ok () ∧ Committed m t.1) (iteration settings) (s, 0) ↔
      GetsBy settings around m := by
  have noError : ¬ m.error.isSome := by simp [log.noError m (PartitionLog.next_mem next)]
  refine Prog.Ends.op_iff ⟨some m, (s.deliverNext m, 0), .record next, rfl, rfl⟩ fun answer ⟨t, made⟩ polled => ?_
  obtain rfl : answer = some m := polled.answers
  have position : t.position = m.offset + 1 := by
    cases polled.step with
    | clientError failed => exact absurd failed noError
    | record _ => rfl
  have made : made = 0 := polled.count
  simp only [Prog.bind_ok, if_neg noError]
  refine Prog.Ends.op_iff ⟨(), (t.count .received, _), .counted, rfl, trivial⟩ fun _ u counted => ?_
  have position := counted.position trivial position
  have made := counted.count.trans made
  rw [GetsBy]
  cases value : m.value with
  | none =>
    refine iff_of_false (fun ends => ?_) fun ⟨payload, impossible, _⟩ => by cases impossible
    cases ends.1
  | some payload =>
    simp only [Option.some.injEq, exists_eq_left']
    refine Prog.Ends.op_iff ⟨around.decode payload, u, .decode, rfl, rfl⟩ fun decoded v read => ?_
    obtain rfl : decoded = around.decode payload := read.answers
    have position := read.position trivial position
    have made := read.count.trans made
    cases decoded : around.decode payload with
    | ok event => exact (commits_iff (deliverLoop_quiet ..) position).trans (deliver_ends_iff event position made)
    | error text =>
      refine Prog.Ends.op_iff ⟨(), (v.1.count .failed, v.2), .counted, rfl, trivial⟩ fun _ w counted => ?_
      have position := counted.position trivial position
      exact (commits_iff (park_quiet ..) position).trans (park_ends_iff position ..)

/-- A partition whose only record is a tombstone. -/
def nullLog : PartitionLog where
  records := [⟨"unsubscribe-priority", 0, 0, some [114, 58, 119], none, none⟩]
  ordered := by simp
  noError := by simp

/-- Bytes are events, and the service is down. -/
def downAround : Surroundings where
  decode _ := .ok sampleEvent
  outcomes _ := .transientError (PyStr.ofString "HTTP 503")
  limit := centuryLimit

theorem iteration_commits_down :
    poisonLog.next 0 = some ⟨"unsubscribe-priority", 0, 0, none, some [0], none⟩ ∧
    Prog.Ends (PassExec poisonLog ⟨"unsubscribe-priority", 0, 0, none, some [0], none⟩ downAround)
      (fun r t => r = .ok () ∧ Committed ⟨"unsubscribe-priority", 0, 0, none, some [0], none⟩ t.1)
      (iteration Settings.defaults) (World.fresh, 0) :=
  ⟨rfl, (iteration_commits_iff Settings.defaults downAround (s := World.fresh) rfl).2
    ⟨[0], rfl, ⟨by decide +kernel, by decide⟩⟩⟩

/-- **A record without a value stops the queue.** The pass over it raises. -/
theorem null_record_stalls :
    nullLog.next 0 = some ⟨"unsubscribe-priority", 0, 0, some [114, 58, 119], none, none⟩ ∧
    ¬ Prog.Ends (PassExec nullLog ⟨"unsubscribe-priority", 0, 0, some [114, 58, 119], none, none⟩ downAround)
      (fun r t => r = .ok () ∧
        Committed ⟨"unsubscribe-priority", 0, 0, some [114, 58, 119], none, none⟩ t.1)
      (iteration Settings.defaults) (World.fresh, 0) := by
  refine ⟨rfl, fun ends => ?_⟩
  have raised := (ends.2 (some _) (_, 0) ⟨.record rfl, rfl, rfl⟩).2 () (_, 0) ⟨.counted, rfl, trivial⟩
  cases raised.1

end Tikblog.Consumer
