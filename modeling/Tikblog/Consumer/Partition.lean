import Tikblog.Program.Sessions
import Tikblog.Consumer.Service

/-!
# One partition of the consumer, over whole runs

The world of the consumer: the committed offset, the memory of the process (its position
and the local queue of the dead-letter producer), and what was confirmed to it so far. A
session is a start of `main`, which resumes at the committed offset with an empty queue and
may stop at any point.

A record is handed off once UnsubscribeMe has answered it with a 2xx status or Kafka has
confirmed its dead-letter copy. `park` does not look at what `flush` reports, so a record
can be committed without being handed off (`parked_record_lost`). In every run where each
`flush` confirms the copy `park` has just queued, none is (`no_record_lost`).
-/

namespace Tikblog.Consumer

open Python Contracts Kafka Program

/-- The state around one partition. `answered` holds the offsets of the records answered
2xx, `confirmed` the dead-letter records Kafka has confirmed, and `parking` the copy that
has been queued but not flushed yet. -/
structure World where
  committed : Nat
  position : Nat
  inFlight : Option Message
  queue : List DlqRecord
  parking : Option DlqRecord
  answered : List Nat
  confirmed : List DlqRecord
  receivedCount : Nat
  processedCount : Nat
  failedCount : Nat
  dlqSentCount : Nat
  dlqFailedCount : Nat

/-- A group that has committed nothing, and a process that has not started. -/
def World.fresh : World := ⟨0, 0, none, [], none, [], [], 0, 0, 0, 0, 0⟩

/-- A process starts at the committed offset and without any memory. -/
def World.restart (s : World) : World :=
  { World.fresh with
    committed := s.committed, position := s.committed, answered := s.answered, confirmed := s.confirmed }

def World.deliverNext (s : World) (m : Message) : World :=
  { s with position := m.offset + 1, inFlight := some m }

/-- The record in flight is answered 2xx. -/
def World.answer (s : World) : World :=
  { s with answered := (s.inFlight.map Message.offset).toList ++ s.answered }

def World.enqueue (s : World) (record : DlqRecord) : World :=
  { s with queue := s.queue ++ [record], parking := some record }

/-- The callbacks of a flush: `delivered` were confirmed, `failed` reported lost. -/
def World.flushed (s : World) (delivered failed remaining : List DlqRecord) : World :=
  { s with
    queue := remaining, parking := none, confirmed := s.confirmed ++ delivered
    dlqSentCount := s.dlqSentCount + delivered.length
    dlqFailedCount := s.dlqFailedCount + failed.length }

def World.commit (s : World) (m : Message) : World := { s with committed := m.offset + 1 }

def World.count (s : World) : Counter → World
  | .received => { s with receivedCount := s.receivedCount + 1 }
  | .processed => { s with processedCount := s.processedCount + 1 }
  | .failed => { s with failedCount := s.failedCount + 1 }

/-- The dead-letter record is the copy of the message, for some reason, error and time. -/
def CopyOf (settings : Settings) (m : Message) (record : DlqRecord) : Prop :=
  ∃ reason text error attempts failedAt, dlqError text = .ok error ∧
    record = parkedCopy settings m reason error attempts failedAt

/-- Answered 2xx, or confirmed as written to the dead-letter topic. -/
def HandedOff (settings : Settings) (s : World) (m : Message) : Prop :=
  m.offset ∈ s.answered ∨ ∃ record ∈ s.confirmed, CopyOf settings m record

/-- What a call of the HTTP client may come to: its result, and whether UnsubscribeMe
answered it 2xx. -/
abbrev ClientCall := UnsubscribeEvent → Except PyException UnsubscribeOutcome → Prop → Prop

/-- The calls `UnsubscribeMeClient.unsubscribe` makes, over every reaction. -/
def httpCall (fromisoformat : String → Except String Datetime) : ClientCall := fun event result answered =>
  ∃ reaction, result = unsubscribe fromisoformat reaction event ∧ answered = Answered2xx reaction event

/-- What each call answers and does. A poll times out, reports a client error or hands out
the next record of the log; decoding may go either way at any time; a flush settles any
part of the queue; producing and committing may raise, and then change nothing. -/
inductive Exec (log : PartitionLog) (client : ClientCall) : Program.Exec Op Ans World where
  | idle {t s} : Exec log client (.poll t) s none s
  | clientError {t s m} : m.error.isSome → Exec log client (.poll t) s (some m) s
  | record {t s m} : log.next s.position = some m →
      Exec log client (.poll t) s (some m) (s.deliverNext m)
  | decode {payload s r} : Exec log client (.fromBytes payload) s r s
  | answered {event s r p} : client event r p → p →
      Exec log client (.unsubscribe event) s r s.answer
  | unanswered {event s r p} : client event r p → ¬ p →
      Exec log client (.unsubscribe event) s r s
  | slept {d s r} : SleepAnswer d r → Exec log client (.sleep d) s r s
  | now {s text} : Exec log client .nowIsoformat s text s
  | produced {record s} : Exec log client (.produce record) s (.ok ()) (s.enqueue record)
  | notProduced {record s e} : Exec log client (.produce record) s (.error e) s
  | flushed {t s delivered failed remaining} :
      (delivered ++ failed ++ remaining).Perm s.queue →
      Exec log client (.flush t) s remaining.length (s.flushed delivered failed remaining)
  | committed {m s} : Exec log client (.commit m) s (.ok ()) (s.commit m)
  | notCommitted {m s e} : Exec log client (.commit m) s (.error e) s
  | counted {c s} : Exec log client (.count c) s () (s.count c)

/-- The consumer of one partition; a session is one start of `main`. -/
def partition (settings : Settings) (log : PartitionLog) (client : ClientCall) :
    System Nat Op Ans PyException Unit World where
  init s := s = World.fresh
  begins _ s s₀ := s₀ = s.restart
  program := main settings
  exec _ := Exec log client

/-- No committed record is lost. -/
def NoRecordLost (settings : Settings) (log : PartitionLog) (s : World) : Prop :=
  ∀ m ∈ log.records, m.offset < s.committed → HandedOff settings s m

/-- A flush confirms the copy `park` has just queued, unless the record in flight was
already handed off by an earlier delivery. -/
def Confirms (settings : Settings) : Program.Exec Op Ans World := fun o s _ t =>
  match o with
  | .flush _ => ∀ record, s.parking = some record →
      record ∈ t.confirmed ∨ ∃ m, s.inFlight = some m ∧ HandedOff settings s m
  | _ => True

/-- The calls of the consumer in which every flush confirms. -/
abbrev ConfirmedExec (settings : Settings) (log : PartitionLog) (client : ClientCall) :
    Program.Exec Op Ans World :=
  fun o s a t => Exec log client o s a t ∧ Confirms settings o s a t

/-! ## What is handed off stays handed off -/

section Invariant

variable {settings : Settings} {log : PartitionLog} {client : ClientCall} {s t : World} {m : Message}

/-- Confirmations are never taken back. -/
structure World.Grows (s t : World) : Prop where
  answered : s.answered ⊆ t.answered
  confirmed : s.confirmed ⊆ t.confirmed

theorem Exec.grows {o : Op} {a : Ans o} (h : Exec log client o s a t) : s.Grows t := by
  cases h with
  | answered => exact ⟨fun _ h => List.mem_append_right _ h, fun _ h => h⟩
  | flushed => exact ⟨fun _ h => h, fun _ h => List.mem_append_left _ h⟩
  | @counted c => cases c <;> exact ⟨fun _ h => h, fun _ h => h⟩
  | _ => exact ⟨fun _ h => h, fun _ h => h⟩

theorem HandedOff.grow (h : HandedOff settings s m) (grows : s.Grows t) : HandedOff settings t m := by
  rcases h with h | ⟨record, h, copy⟩
  · exact .inl (grows.answered h)
  · exact .inr ⟨record, grows.confirmed h, copy⟩

/-- Every record of the log below `offset` is handed off. -/
def HandledBelow (settings : Settings) (log : PartitionLog) (s : World) (offset : Nat) : Prop :=
  ∀ m ∈ log.records, m.offset < offset → HandedOff settings s m

theorem HandledBelow.grow {offset : Nat} (h : HandledBelow settings log s offset)
    (grows : s.Grows t) : HandledBelow settings log t offset :=
  fun m hm lt => (h m hm lt).grow grows

theorem HandledBelow.succ (h : HandledBelow settings log s m.offset) (hm : m ∈ log.records)
    (handed : HandedOff settings s m) : HandledBelow settings log s (m.offset + 1) := by
  intro n hn lt
  rcases Nat.lt_succ_iff_lt_or_eq.1 lt with lt | same
  · exact h n hn lt
  · rw [PartitionLog.eq_of_offset hn hm same]
    exact handed

/-- Between two passes of the loop. -/
structure AtHead (settings : Settings) (log : PartitionLog) (s : World) : Prop where
  safe : NoRecordLost settings log s
  handled : HandledBelow settings log s s.position

/-- While `m` is being processed: everything before it is handed off. -/
structure Working (settings : Settings) (log : PartitionLog) (m : Message) (s : World) : Prop where
  safe : NoRecordLost settings log s
  member : m ∈ log.records
  inFlight : s.inFlight = some m
  position : s.position = m.offset + 1
  handled : HandledBelow settings log s m.offset

/-- The calls that move neither the position nor the committed offset. -/
def Quiet : Op → Prop
  | .poll _ | .commit _ => False
  | _ => True

theorem Exec.frame {o : Op} {a : Ans o} (h : Exec log client o s a t) (quiet : Quiet o) :
    t.committed = s.committed ∧ t.position = s.position ∧ t.inFlight = s.inFlight := by
  cases h with
  | @counted c => cases c <;> exact ⟨rfl, rfl, rfl⟩
  | idle | clientError | record | committed | notCommitted => exact quiet.elim
  | _ => exact ⟨rfl, rfl, rfl⟩

theorem noRecordLost_step {o : Op} {a : Ans o} (h : NoRecordLost settings log s)
    (step : Exec log client o s a t) (quiet : Quiet o) : NoRecordLost settings log t := by
  intro m hm lt
  rw [(step.frame quiet).1] at lt
  exact (h m hm lt).grow step.grows

theorem Working.step {o : Op} {a : Ans o} (h : Working settings log m s)
    (step : Exec log client o s a t) (quiet : Quiet o) : Working settings log m t := by
  obtain ⟨-, position, inFlight⟩ := step.frame quiet
  exact
    { safe := noRecordLost_step h.safe step quiet
      member := h.member
      inFlight := inFlight.trans h.inFlight
      position := position.trans h.position
      handled := h.handled.grow step.grows }

theorem Working.commit (h : Working settings log m s) (handed : HandedOff settings s m) :
    AtHead settings log (s.commit m) := by
  have below := h.handled.succ h.member handed
  refine ⟨below, ?_⟩
  have same : (s.commit m).position = m.offset + 1 := h.position
  rw [same]
  exact below

theorem AtHead.deliverNext (h : AtHead settings log s) (next : log.next s.position = some m) :
    Working settings log m (s.deliverNext m) where
  safe := h.safe
  member := PartitionLog.next_mem next
  inFlight := rfl
  position := rfl
  handled n hn lt := h.handled n hn (PartitionLog.lt_of_lt_next next hn lt)

theorem AtHead.restart (h : NoRecordLost settings log s) : AtHead settings log s.restart := ⟨h, h⟩

/-! ## One pass of the loop -/

theorem park_quiet (reason : String) (error : PyStr) (attempts : Nat) :
    (park settings m reason error attempts).Uses Quiet := by
  unfold park
  cases dlqError error with
  | error e => trivial
  | ok bytes =>
    refine ⟨trivial, fun failedAt => ⟨trivial, fun produced => ?_⟩⟩
    cases produced with
    | error e => trivial
    | ok _ => exact ⟨trivial, fun _ => trivial⟩

/-- Where `park` returns, a confirming flush has handed the message off. -/
theorem park_hands_off (h : Working settings log m s) (reason : String) (error : PyStr) (attempts : Nat) :
    Prog.Always (ConfirmedExec settings log client) (fun _ _ => True)
      (fun r t => r = .ok () → HandedOff settings t m) (park settings m reason error attempts) s := by
  unfold park
  cases encoded : dlqError error with
  | error e => exact fun impossible => by cases impossible
  | ok bytes =>
  refine ⟨trivial, fun failedAt s₁ h₁ => ⟨trivial, fun produced s₂ h₂ => ?_⟩⟩
  obtain ⟨⟨⟩, -⟩ := h₁
  cases produced with
  | error e => exact fun impossible => by cases impossible
  | ok _ =>
    obtain ⟨⟨⟩, -⟩ := h₂
    refine ⟨trivial, fun remaining s₃ h₃ _ => ?_⟩
    obtain ⟨step, confirms⟩ := h₃
    rcases confirms _ rfl with confirmed | ⟨n, same, handed⟩
    · exact .inr ⟨_, confirmed, reason, error, bytes, attempts, failedAt, encoded, rfl⟩
    · cases Option.some.inj (h.inFlight.symm.trans same)
      exact handed.grow step.grows

theorem deliverLoop_quiet (event : UnsubscribeEvent) (attempts : List Nat) (delay : Seconds) :
    (deliverLoop settings event m attempts delay).Uses Quiet := by
  induction attempts generalizing delay with
  | nil => trivial
  | cons attempt later ih =>
    refine ⟨trivial, fun result => ?_⟩
    cases result with
    | ok outcome => trivial
    | error e =>
      cases e with
      | permanentRejection error => exact park_quiet ..
      | transientError error =>
        simp only [Prog.bind_ok]
        split
        · exact park_quiet ..
        · refine ⟨trivial, fun slept => ?_⟩
          cases slept with
          | error e => trivial
          | ok _ => exact ih _
      | _ => trivial

/-- A call that returns was answered 2xx. -/
def ReturnsAnswered (client : ClientCall) : Prop :=
  ∀ event outcome p, client event (.ok outcome) p → p

/-- A call that returns hands the message in flight off. -/
theorem answer_hands_off (returns : ReturnsAnswered client) (h : Working settings log m s)
    {event : UnsubscribeEvent} {outcome : UnsubscribeOutcome}
    (step : Exec log client (.unsubscribe event) s (.ok outcome) t) : HandedOff settings t m := by
  cases step with
  | answered call _ => exact .inl (by simp [World.answer, h.inFlight])
  | unanswered call no => exact (no (returns _ _ _ call)).elim

/-- Where the loop over the attempts `attempt, .., maxAttempts` returns, the message is
handed off. The last attempt never falls through. -/
theorem deliverLoop_hands_off (returns : ReturnsAnswered client) (event : UnsubscribeEvent)
    {left attempt : Nat} {delay : Seconds} (last : attempt + left = settings.maxAttempts)
    (h : Working settings log m s) :
    Prog.Always (ConfirmedExec settings log client) (fun _ _ => True)
      (fun r t => r = .ok () → HandedOff settings t m)
      (deliverLoop settings event m (List.range' attempt (left + 1)) delay) s := by
  induction left generalizing attempt delay s with
  | zero =>
    refine ⟨trivial, fun result t ht => ?_⟩
    have working := h.step ht.1 trivial
    cases result with
    | ok outcome => exact fun _ => answer_hands_off returns h ht.1
    | error e =>
      cases e with
      | permanentRejection error => exact park_hands_off working ..
      | transientError error =>
        simp only [Prog.bind_ok]
        rw [if_pos (by omega)]
        exact park_hands_off working ..
      | _ => exact fun impossible => by cases impossible
  | succ left ih =>
    refine ⟨trivial, fun result t ht => ?_⟩
    have working := h.step ht.1 trivial
    cases result with
    | ok outcome => exact fun _ => answer_hands_off returns h ht.1
    | error e =>
      cases e with
      | permanentRejection error => exact park_hands_off working ..
      | transientError error =>
        simp only [Prog.bind_ok]
        rw [if_neg (by omega)]
        refine ⟨trivial, fun slept u hu => ?_⟩
        cases slept with
        | error e => exact fun impossible => by cases impossible
        | ok _ => exact ih (by omega) (working.step hu.1 trivial)
      | _ => exact fun impossible => by cases impossible

/-- What one pass keeps: the invariant throughout, and the head of the loop where it
returns. -/
abbrev Pass (settings : Settings) (log : PartitionLog) (client : ClientCall) (p : ConsumerM Unit)
    (s : World) : Prop :=
  Prog.Always (ConfirmedExec settings log client) (fun _ => NoRecordLost settings log)
    (fun r t => match r with
      | .ok _ => AtHead settings log t
      | .error _ => NoRecordLost settings log t) p s

/-- A confined program that hands its message off may be followed by the commit. -/
theorem pass_of_quiet {p : ConsumerM Unit} (quiet : p.Uses Quiet) (h : Working settings log m s)
    (hands_off : Prog.Always (ConfirmedExec settings log client) (fun _ _ => True)
      (fun r t => r = .ok () → HandedOff settings t m) p s) :
    Pass settings log client (p >>= fun _ => commit m) s := by
  have working : Prog.Always (ConfirmedExec settings log client) (fun _ => NoRecordLost settings log)
      (fun _ => Working settings log m) p s :=
    Prog.Always.of_uses (fun o ho s a t hs step => hs.step step.1 ho) (fun _ _ _ hs => hs.safe) quiet h
  refine Prog.Always.bind ((working.and hands_off).mono (fun _ _ g => g.1) ?_)
  intro r t ended
  obtain ⟨ht, handed⟩ := ended
  cases r with
  | error e => exact ht.safe
  | ok _ =>
  refine ⟨ht.safe, fun result u hu => ?_⟩
  cases hu.1 with
  | notCommitted => exact ht.safe
  | committed =>
    have head := ht.commit (handed rfl)
    refine ⟨head.safe, fun _ v hv => ?_⟩
    cases hv.1
    exact ⟨head.safe, head.handled⟩

theorem handleRecord_pass (returns : ReturnsAnswered client) (h : Working settings log m s)
    (event : Option UnsubscribeEvent) (error : Option PyStr) :
    Pass settings log client (handleRecord settings ⟨m, event, error⟩) s := by
  cases event with
  | none => exact pass_of_quiet (park_quiet ..) h (park_hands_off h ..)
  | some event =>
    refine pass_of_quiet (deliverLoop_quiet ..) h ?_
    obtain ⟨left, attempts⟩ := Nat.exists_eq_add_of_le' settings.maxAttempts_pos
    rw [deliver, attempts]
    exact deliverLoop_hands_off returns event (by omega) h

theorem iteration_pass (returns : ReturnsAnswered client) (h : AtHead settings log s) :
    Pass settings log client (iteration settings) s := by
  refine ⟨h.safe, fun polled t ht => ?_⟩
  cases ht.1 with
  | idle => exact h
  | clientError failed => simpa [failed, Prog.pure_eq] using h
  | record next =>
    rename_i m
    have working := h.deliverNext next
    have noError : ¬ m.error.isSome := by simp [log.noError m (PartitionLog.next_mem next)]
    simp only [Prog.bind_ok, if_neg noError]
    refine ⟨working.safe, fun _ u hu => ?_⟩
    have working := working.step hu.1 trivial
    cases m.value with
    | none => exact working.safe
    | some value =>
      refine ⟨working.safe, fun decoded v hv => ?_⟩
      have working := working.step hv.1 trivial
      cases decoded with
      | ok event => exact handleRecord_pass returns working (some event) none
      | error exc =>
        refine ⟨working.safe, fun _ w hw => ?_⟩
        exact handleRecord_pass returns (working.step hw.1 trivial) none (some exc)

theorem loop_pass (returns : ReturnsAnswered client) (passes : Nat) (h : AtHead settings log s) :
    Pass settings log client (loop settings passes) s := by
  induction passes generalizing s with
  | zero => exact h
  | succ passes ih =>
    apply Prog.Always.seq (iteration_pass returns h)
    intro r t ht
    cases r with
    | error e => exact ht
    | ok _ => exact ih ht

theorem main_keeps (returns : ReturnsAnswered client) (passes : Nat) (h : AtHead settings log s) :
    Prog.Always (ConfirmedExec settings log client) (fun _ => NoRecordLost settings log)
      (fun _ => NoRecordLost settings log) (main settings passes) s := by
  refine Prog.Always.finally' ((loop_pass returns passes h).mono (fun _ _ g => g) ?_)
  intro r t ht
  have safe : NoRecordLost settings log t := by
    cases r with
    | ok _ => exact ht.safe
    | error _ => exact ht
  exact ⟨safe, fun _ _ hu => noRecordLost_step safe hu.1 trivial⟩

end Invariant

/-- A result is returned only for a 2xx response. -/
theorem returnsAnswered_httpCall (fromisoformat : String → Except String Datetime) :
    ReturnsAnswered (httpCall fromisoformat) := by
  rintro event outcome p ⟨reaction, result, rfl⟩
  simp only [unsubscribe] at result
  split at result
  · next response sent => exact ⟨response, sent, (readResponse_ok result.symm).1⟩
  · cases result
  · cases result

/-- **No record is lost while flushes confirm.** In every run of the consumer, over any log,
reactions, failures and restarts, in which every flush confirms the copy `park` has just
queued, each committed record is answered 2xx or confirmed on the dead-letter topic. -/
theorem no_record_lost (settings : Settings) (log : PartitionLog)
    (fromisoformat : String → Except String Datetime) {s : World}
    (h : ((partition settings log (httpCall fromisoformat)).restrict
      fun _ => Confirms settings).Reachable s) :
    NoRecordLost settings log s := by
  apply h.invariant
  · rintro _ rfl m _ lt
    exact absurd lt (Nat.not_lt_zero _)
  · rintro passes s _ safe rfl
    exact main_keeps (returnsAnswered_httpCall fromisoformat) passes (AtHead.restart safe)

/-- A partition with one record, whose bytes are no event. -/
def poisonLog : PartitionLog where
  records := [⟨"unsubscribe-priority", 0, 0, none, some [0], none⟩]
  ordered := by simp
  noError := by simp

/-- Every call succeeds except decoding and HTTP; flushes confirm the whole queue, or time
out with the whole queue still there. -/
def poisonCalls (confirm : Bool) : (o : Op) → World → Ans o × World
  | .poll _, s =>
    match poisonLog.next s.position with
    | some m => (some m, s.deliverNext m)
    | none => (none, s)
  | .fromBytes _, s => (.error (PyStr.ofString "Unexpected magic byte 0"), s)
  | .unsubscribe event, s => (unsubscribe (fun _ => .error "") (.httpError "refused") event, s)
  | .sleep d, s =>
    if d ≤ sleepMax then (.ok (), s)
    else (.error (.overflowError "timestamp too large to convert to C _PyTime_t"), s)
  | .nowIsoformat, s => ("2026-01-01T00:00:00+00:00", s)
  | .produce record, s => (.ok (), s.enqueue record)
  | .flush _, s =>
    if confirm then (0, s.flushed s.queue [] []) else (s.queue.length, s.flushed [] [] s.queue)
  | .commit m, s => (.ok (), s.commit m)
  | .count c, s => ((), s.count c)

theorem poisonCalls_sound (confirm : Bool) (o : Op) (s : World) :
    Exec poisonLog (httpCall fun _ => .error "") o s (poisonCalls confirm o s).1 (poisonCalls confirm o s).2 := by
  cases o with
  | poll t =>
    cases next : poisonLog.next s.position <;> simp only [poisonCalls, next]
    · exact .idle
    · exact .record next
  | fromBytes payload => exact .decode
  | unsubscribe event =>
    refine .unanswered ⟨.httpError "refused", rfl, rfl⟩ ?_
    rintro ⟨response, sent, -⟩
    rw [post_unsubscribeRequest] at sent
    split at sent <;> cases sent
  | sleep d =>
    by_cases short : d ≤ sleepMax <;> simp only [poisonCalls, short, if_true, if_false]
    · exact .slept (.slept short)
    · exact .slept (.tooLong (not_le.1 short))
  | nowIsoformat => exact .now
  | produce record => exact .produced
  | flush t =>
    cases confirm
    · exact .flushed (by simp)
    · exact @Exec.flushed _ _ _ _ s.queue [] [] (by simp)
  | commit m => exact .committed
  | count c => exact .counted

/-- The copy being parked is in the queue. -/
def ParkingQueued (s : World) : Prop := ∀ record, s.parking = some record → record ∈ s.queue

theorem poisonCalls_confirms (o : Op) (s : World) (h : ParkingQueued s) :
    (Exec poisonLog (httpCall fun _ => .error "") o s (poisonCalls true o s).1 (poisonCalls true o s).2 ∧
      Confirms Settings.defaults o s (poisonCalls true o s).1 (poisonCalls true o s).2) ∧
    ParkingQueued (poisonCalls true o s).2 := by
  refine ⟨⟨poisonCalls_sound true o s, ?_⟩, ?_⟩
  · cases o with
    | flush t =>
      intro record parking
      exact .inl (List.mem_append_right _ (h record parking))
    | _ => trivial
  · cases o with
    | poll t =>
      simp only [poisonCalls]
      split <;> exact h
    | produce record => intro r hr; cases hr; simp [poisonCalls, World.enqueue]
    | flush t => intro r hr; cases hr
    | sleep d =>
      simp only [poisonCalls]
      split <;> exact h
    | count c => cases c <;> exact h
    | _ => exact h

/-- The state after one start of `main` that makes one pass over `poisonLog`. -/
def poisonEnd (confirm : Bool) : World :=
  (Prog.evalSteps (poisonCalls confirm) 20 (main Settings.defaults 1, World.fresh.restart)).2

theorem no_record_lost_poison :
    (poisonEnd true).committed = 1 ∧ NoRecordLost Settings.defaults poisonLog (poisonEnd true) :=
  ⟨rfl, no_record_lost Settings.defaults poisonLog (fun _ => .error "")
    ((System.Reachable.init rfl).evalSteps rfl poisonCalls_confirms (fun _ h => by cases h) 20).1⟩

/-- **A record can be lost.** The dead-letter copy of an undecodable record is still queued
when the flush times out; `park` returns, the record is committed, and the process ends. -/
theorem parked_record_lost :
    ∃ s, (partition Settings.defaults poisonLog (httpCall fun _ => .error "")).Reachable s ∧
      ¬ NoRecordLost Settings.defaults poisonLog s := by
  have reached : (partition Settings.defaults poisonLog (httpCall fun _ => .error "")).Reachable
      (poisonEnd false) :=
    ((System.Reachable.init rfl).evalSteps (k := 1) (J := fun _ => True) rfl
      (fun o s _ => ⟨poisonCalls_sound false o s, trivial⟩) trivial 20).1
  refine ⟨poisonEnd false, reached, fun safe => ?_⟩
  have answered : (poisonEnd false).answered = [] := rfl
  have confirmed : (poisonEnd false).confirmed = [] := rfl
  have handed := safe ⟨"unsubscribe-priority", 0, 0, none, some [0], none⟩ (by simp [poisonLog])
    (show 0 < (poisonEnd false).committed by decide)
  simp [HandedOff, answered, confirmed] at handed

end Tikblog.Consumer
