import Tikblog.Contracts.RoundTrip
import Tikblog.Operational.Rely

/-!
# What has become of the committed records

A committed record has been applied, that is, the table holds its pair unsubscribed by the
time of its event, or a copy of it was handed to the dead-letter producer
(`committed_accounted`). A process knows that everything below its positions is settled
(`Idle`), except for the one record in its hands (`Working`). Its HTTP call is first taken
as one operation (`Amid`), which the exchange then implements; a thread replies only where
the table meets the request (`serve_knows`).
-/

namespace Tikblog.Operational

open Python Contracts Kafka Program
open Consumer (HttpRequest Response Reaction UnsubscribeOutcome HoldsOutcome CopyOf Quiet Seconds park
  deliverLoop deliver handleRecord iteration nextRecord)
open Unsubscribeme (UnsubscribeRequest UnsubscribeResponse HTTPException Database ApiOp ApiAns ApiExec
  Truthful Progress UnsubscribedBy)

variable {δ π : Type} {w : Platform δ π} {s t u : State δ π} {p : π} {m : Message} {k : Nat}

/-! ## A process, its HTTP calls taken as single operations -/

/-- Between two passes of the loop. -/
def Idle (w : Platform δ π) (p : π) (s : State δ π) : Prop :=
  ∀ k offset, s.position p k = some offset → SettledBelow w (w.group p) s k offset

/-- `m` of partition `k` is being processed. -/
structure Working (w : Platform δ π) (p : π) (k : Nat) (m : Message) (s : State δ π) : Prop where
  recorded : Recorded w (w.group p) k m
  below : SettledBelow w (w.group p) s k m.offset
  positions : ∀ k' offset, s.position p k' = some offset →
    k' = k ∧ offset = m.offset + 1 ∨ SettledBelow w (w.group p) s k' offset

theorem Idle.rely (h : Idle w p s) (moved : Rely (.inl p) s t) : Idle w p t := by
  intro k offset at_k
  rw [moved.2 p rfl] at at_k
  exact (h k offset at_k).grow moved.1

theorem Working.rely (h : Working w p k m s) (moved : Rely (.inl p) s t) : Working w p k m t where
  recorded := h.recorded
  below := h.below.grow moved.1
  positions k' offset at_k := by
    rw [moved.2 p rfl] at at_k
    exact (h.positions k' offset at_k).imp_right fun settled => settled.grow moved.1

/-- A record of the topic that carries an event. -/
theorem Working.sourced (h : Working w p k m s) {event : UnsubscribeEvent} (carries : Carries w.avro m event) :
    Sourced w event :=
  ⟨_, k, m, h.recorded, carries⟩

/-- Everything up to the record is settled, once it is. -/
theorem Working.settled (h : Working w p k m s) (settled : Settled w (w.group p) s m) :
    SettledBelow w (w.group p) s m.partition (m.offset + 1) := by
  rw [((w.deployment (w.group p)).topic.located k m h.recorded).2]
  exact h.below.succ h.recorded settled

/-- Where the record is settled, the process has nothing left to do for it. -/
theorem Working.done (h : Working w p k m s) (settled : Settled w (w.group p) s m) : Idle w p s := by
  intro k' offset at_k
  obtain ⟨rfl, rfl⟩ | below := h.positions k' offset at_k
  · exact h.below.succ h.recorded settled
  · exact below

/-- What was settled at the old positions is settled at the new ones. -/
theorem Idle.rebalanced {position : Nat → Option Nat} (h : Idle w p s) (sound : Sound w s)
    (rebalanced : s.Rebalanced (w.group p) p position) {offset : Nat} (at_k : position k = some offset) :
    SettledBelow w (w.group p) s k offset := by
  obtain before | rfl := rebalanced k offset at_k
  · exact h k offset before
  · exact sound.settled _ k

theorem idle_assign [DecidableEq π] {position : Nat → Option Nat}
    (settled : ∀ k offset, position k = some offset → SettledBelow w (w.group p) s k offset) :
    Idle w p (s.assign p position) := by
  intro k offset at_k
  rw [position_assign] at at_k
  exact settled k offset at_k

/-- An event was applied where the client returns from the response to it. -/
theorem Replied.applied {n : Nat} {response : Response} {outcome : UnsubscribeOutcome} {event : UnsubscribeEvent}
    (h : Replied w s n response) (sound : Sound w s) (reads : ReadsTime w.web event)
    (asked : s.requests[n]? = some (Consumer.unsubscribeRequest event))
    (read : Consumer.readResponse w.web.fromisoformat response = .ok outcome) : Applied event s.db := by
  obtain ⟨success, holds⟩ := Consumer.readResponse_ok read
  cases h with
  | unprocessable found invalid same => exact absurd (same ▸ success) (unprocessable_fails _)
  | @answered _ payload found valid answered =>
    cases found.symm.trans asked
    have own : payload.request = requestOf event := validate_request reads valid
    cases answered with
    | raised raises sent => exact absurd holds (raised_holds_none sent)
    | returned answers =>
      obtain ⟨write, member, keys, early, -⟩ := answers.supplied
      obtain ⟨row, time, found, at_row, before⟩ := sound.timely write member
      rw [own] at keys early
      rw [keys] at found
      exact ⟨row, time, found, at_row, before.trans early⟩

variable [DecidableEq δ] [DecidableEq π]

/-- The calls of a process while the others go on. An exchange that ends with an outcome
leaves the event applied. -/
inductive Amid (w : Platform δ π) (p : π) : Program.Exec Consumer.Op Consumer.Ans (State δ π) where
  | call {o s u a t} : Sound w u → Rely (.inl p) s u → ConsumerExec w p o u a t → Amid w p o s a t
  | exchange {event s a t} : Rely (.inl p) s t → (∀ outcome, a = .ok outcome → Applied event t.db) →
      Amid w p (.unsubscribe event) s a t

/-- What the process knows at a call. -/
def Minds (w : Platform δ π) (p : π) : Consumer.Op → State δ π → Prop
  | .commit m, s => SettledBelow w (w.group p) s m.partition (m.offset + 1)
  | .unsubscribe event, _ => Sourced w event
  | .produce record, _ => Parked w record
  | _, _ => True

theorem Amid.rely {o : Consumer.Op} {a : Consumer.Ans o} (step : Amid w p o s a t) (stays : Stays o) :
    Rely (.inl p) s t := by
  cases step with
  | call sound moved step =>
    refine moved.trans ⟨step.grows, ?_⟩
    intro p' same
    cases same
    exact step.position (.inr stays)
  | exchange moved => exact moved

/-- What a poll leaves: no record, or one to work on. -/
theorem Amid.poll {timeout : Seconds} {a : Option Message} (h : Idle w p s) (step : Amid w p (.poll timeout) s a t) :
    ((∀ m, a = some m → m.error.isSome) ∧ Idle w p t) ∨ ∃ m k, a = some m ∧ Working w p k m t := by
  cases step with
  | call sound moved step =>
  have h := h.rely moved
  cases step with
  | idle rebalanced =>
    refine .inl ⟨?_, idle_assign fun k offset at_k => h.rebalanced sound rebalanced at_k⟩
    intro m impossible
    cases impossible
  | clientError rebalanced failed =>
    refine .inl ⟨?_, idle_assign fun k offset at_k => h.rebalanced sound rebalanced at_k⟩
    intro m same
    cases same
    exact failed
  | @record _ u position k start m rebalanced at_k next =>
    refine .inr ⟨m, k, rfl, PartitionLog.next_mem next, ?_, ?_⟩
    · intro n recorded before
      exact h.rebalanced sound rebalanced at_k n recorded (PartitionLog.lt_of_lt_next next recorded before)
    · intro k' offset now
      rw [position_assign] at now
      by_cases here : k' = k
      · subst here
        rw [Function.update_self] at now
        cases now
        exact .inl ⟨rfl, rfl⟩
      · rw [Function.update_of_ne here] at now
        exact .inr (h.rebalanced sound rebalanced now)

/-! ## One record -/

/-- The record in hand, which is settled where the program returns. -/
abbrev Settles (w : Platform δ π) (p : π) (k : Nat) (m : Message) (q : Consumer.ConsumerM Unit)
    (s : State δ π) : Prop :=
  Prog.Always (Amid w p) (Minds w p)
    (fun r t => Working w p k m t ∧ (r = .ok () → Settled w (w.group p) t m)) q s

/-- Where `park` returns, the producer has its copy of the message. -/
theorem park_settles (h : Working w p k m s) (reason : String) (text : PyStr) (attempts : Nat) :
    Settles w p k m (park (w.deployment (w.group p)).settings m reason text attempts) s := by
  unfold park
  cases encoded : Consumer.dlqError text with
  | error e =>
    refine ⟨h, ?_⟩
    intro impossible
    cases impossible
  | ok error =>
  have copy : ∀ failedAt, CopyOf (w.deployment (w.group p)).settings m
      (Consumer.parkedCopy (w.deployment (w.group p)).settings m reason error attempts failedAt) :=
    fun failedAt => ⟨reason, text, error, attempts, failedAt, encoded, rfl⟩
  refine ⟨trivial, fun failedAt s₁ h₁ =>
    ⟨⟨_, k, m, h.recorded, copy failedAt⟩, fun produced s₂ h₂ => ?_⟩⟩
  have working := (h.rely (h₁.rely trivial)).rely (h₂.rely trivial)
  cases produced with
  | error e =>
    refine ⟨working, ?_⟩
    intro impossible
    cases impossible
  | ok _ =>
    have settled : Settled w (w.group p) s₂ m := by
      cases h₂ with
      | call _ _ step =>
      cases step with
      | produced => exact .inr ⟨_, copy failedAt, copied_enqueue ..⟩
    refine ⟨trivial, fun remaining s₃ h₃ => ?_⟩
    have moved := h₃.rely trivial
    exact ⟨working.rely moved, fun _ => settled.grow moved.1⟩

/-- Where the loop over the attempts `attempt, .., maxAttempts` returns, the message is
settled. The last attempt never falls through. -/
theorem deliverLoop_settles {event : UnsubscribeEvent} (carries : Carries w.avro m event) {left attempt : Nat}
    {delay : Seconds} (last : attempt + left = (w.deployment (w.group p)).settings.maxAttempts)
    (h : Working w p k m s) :
    Settles w p k m
      (deliverLoop (w.deployment (w.group p)).settings event m (List.range' attempt (left + 1)) delay) s := by
  induction left generalizing attempt delay s with
  | zero =>
    refine ⟨h.sourced carries, fun result t ht => ?_⟩
    have working := h.rely (ht.rely trivial)
    cases result with
    | ok outcome =>
      cases ht with
      | exchange _ applied => exact ⟨working, fun _ => .inl ⟨event, carries, applied outcome rfl⟩⟩
      | call _ _ step => cases step
    | error e =>
      cases e with
      | permanentRejection error => exact park_settles working ..
      | transientError error =>
        simp only [Prog.bind_ok]
        rw [if_pos (by omega)]
        exact park_settles working ..
      | _ => exact ⟨working, fun impossible => by cases impossible⟩
  | succ left ih =>
    refine ⟨h.sourced carries, fun result t ht => ?_⟩
    have working := h.rely (ht.rely trivial)
    cases result with
    | ok outcome =>
      cases ht with
      | exchange _ applied => exact ⟨working, fun _ => .inl ⟨event, carries, applied outcome rfl⟩⟩
      | call _ _ step => cases step
    | error e =>
      cases e with
      | permanentRejection error => exact park_settles working ..
      | transientError error =>
        simp only [Prog.bind_ok]
        rw [if_neg (by omega)]
        refine ⟨trivial, fun slept u hu => ?_⟩
        have working := working.rely (hu.rely trivial)
        cases slept with
        | error e => exact ⟨working, fun impossible => by cases impossible⟩
        | ok _ => exact ih (by omega) working
      | _ => exact ⟨working, fun impossible => by cases impossible⟩

/-- A pass of the loop ends idle where it returns. -/
abbrev Pass (w : Platform δ π) (p : π) (q : Consumer.ConsumerM Unit) (s : State δ π) : Prop :=
  Prog.Always (Amid w p) (Minds w p) (fun r t => r = .ok () → Idle w p t) q s

/-- A program that settles the record may be followed by its commit. -/
theorem commit_pass {q : Consumer.ConsumerM Unit} (h : Settles w p k m q s) :
    Pass w p (q >>= fun _ => Consumer.commit m) s := by
  apply Prog.Always.seq h
  intro r t ended
  obtain ⟨working, settled⟩ := ended
  cases r with
  | error e =>
    intro impossible
    cases impossible
  | ok _ =>
    refine ⟨working.settled (settled rfl), fun result u hu => ?_⟩
    have idle := (working.done (settled rfl)).rely (hu.rely trivial)
    cases result with
    | error e =>
      intro impossible
      cases impossible
    | ok _ => exact ⟨trivial, fun _ v hv _ => idle.rely (hv.rely trivial)⟩

theorem handleRecord_pass (h : Working w p k m s) {event : Option UnsubscribeEvent}
    (carries : ∀ e, event = some e → Carries w.avro m e) (error : Option PyStr) :
    Pass w p (handleRecord (w.deployment (w.group p)).settings ⟨m, event, error⟩) s := by
  cases event with
  | none => exact commit_pass (park_settles h ..)
  | some event =>
    apply commit_pass (k := k)
    obtain ⟨left, attempts⟩ := Nat.exists_eq_add_of_le' (w.deployment (w.group p)).settings.maxAttempts_pos
    rw [deliver, attempts]
    exact deliverLoop_settles (carries event rfl) (by omega) h

theorem iteration_pass (h : Idle w p s) : Pass w p (iteration (w.deployment (w.group p)).settings) s := by
  refine ⟨trivial, fun polled t ht => ?_⟩
  obtain ⟨errors, idle⟩ | ⟨m, k, rfl, working⟩ := ht.poll h
  · cases polled with
    | none => exact fun _ => idle
    | some m =>
      simp only [errors m rfl, if_true, Prog.pure_eq, Prog.bind_ok]
      exact fun _ => idle
  · have noError : ¬ m.error.isSome := by
      simp [((w.deployment (w.group p)).topic.log k).noError m working.recorded]
    simp only [Prog.bind_ok, if_neg noError]
    refine ⟨trivial, fun _ u hu => ?_⟩
    have working := working.rely (hu.rely trivial)
    cases found : m.value with
    | none =>
      intro impossible
      cases impossible
    | some value =>
      refine ⟨trivial, fun decoded v hv => ?_⟩
      have working := working.rely (hv.rely trivial)
      cases decoded with
      | ok event =>
        have carries : Carries w.avro m event := by
          cases hv with
          | call _ _ step =>
          cases step with
          | decoded read => exact ⟨value, found, read⟩
        exact handleRecord_pass working (fun _ same => Option.some.inj same ▸ carries) none
      | error exc =>
        refine ⟨trivial, fun _ x hx => ?_⟩
        have nothing : ∀ e, none = some e → Carries w.avro m e := by
          intro e impossible
          cases impossible
        exact handleRecord_pass (working.rely (hx.rely trivial)) nothing (some exc)

theorem loop_pass (passes : Nat) (h : Idle w p s) :
    Pass w p (Consumer.loop (w.deployment (w.group p)).settings passes) s := by
  induction passes generalizing s with
  | zero => exact fun _ => h
  | succ passes ih =>
    apply Prog.Always.seq (iteration_pass h)
    intro r t ended
    cases r with
    | error e =>
      intro impossible
      cases impossible
    | ok _ => exact ih (ended rfl)

theorem main_minds (passes : Nat) (h : Idle w p s) :
    Prog.Always (Amid w p) (Minds w p) (fun _ _ => True)
      (Consumer.main (w.deployment (w.group p)).settings passes) s := by
  apply Prog.Always.finally'
  apply (loop_pass passes h).mono (fun _ _ guard => guard)
  exact fun r t _ => ⟨trivial, fun _ _ _ => trivial⟩

/-! ## The exchange -/

/-- The HTTP call of the client does what the process was promised of it. -/
theorem unsubscribeCall_implements {event : UnsubscribeEvent} (reads : ReadsTime w.web event)
    (sourced : Sourced w event) :
    Prog.Implements (Amid w p) (meanwhile (Sound w) (Rely (.inl p)) (Exec w (.inl p))) (Knows w (.inl p))
      (.unsubscribe event) (unsubscribeCall w.web event) s := by
  simp only [Prog.Implements, unsubscribeCall]
  split
  · refine ⟨⟨event, sourced, rfl⟩, fun exchange t ht => ?_⟩
    obtain ⟨u, sound, moved, step⟩ := ht
    cases step
    have asked : (u.send (Consumer.unsubscribeRequest event)).requests[u.requests.length]? =
        some (Consumer.unsubscribeRequest event) := by
      simp [State.send]
    have sent : Rely (.inl p) s (u.send (Consumer.unsubscribeRequest event)) :=
      moved.trans ⟨grows_send .., fun _ _ => rfl⟩
    refine ⟨trivial, fun reaction v hv => ?_⟩
    obtain ⟨v, sound', moved', step'⟩ := hv
    have asked := moved'.1.requests _ _ asked
    have before := sent.trans moved'
    cases step' with
    | @received _ _ _ response found =>
      refine ⟨_, rfl, .exchange before fun outcome ok => ?_⟩
      obtain ⟨response', same, read⟩ := unsubscribe_ok ok
      cases same
      exact (sound'.replied _ _ found).applied sound' reads asked read
    | @refused _ _ _ response fails =>
      refine ⟨_, rfl, .exchange before fun outcome ok => ?_⟩
      obtain ⟨response', same, read⟩ := unsubscribe_ok ok
      cases same
      exact absurd (Consumer.readResponse_ok read).1 fails
    | broken =>
      refine ⟨_, rfl, .exchange before fun outcome ok => ?_⟩
      obtain ⟨response', same, -⟩ := unsubscribe_ok ok
      cases same
  · refine ⟨_, rfl, .exchange (Rely.refl _ _) fun outcome impossible => ?_⟩
    cases impossible

theorem consumerCall_implements (reads : ∀ event, Sourced w event → ReadsTime w.web event) (o : Consumer.Op)
    (s : State δ π) (minds : Minds w p o s) :
    Prog.Implements (Amid w p) (meanwhile (Sound w) (Rely (.inl p)) (Exec w (.inl p))) (Knows w (.inl p)) o
      (consumerCall w.web o) s := by
  have single : ∀ {o : Consumer.Op} {a : Consumer.Ans o} {t : State δ π},
      meanwhile (Sound w) (Rely (.inl p)) (Exec w (.inl p)) (.consumer o) s a t → Amid w p o s a t := by
    rintro o a t ⟨u, sound, moved, step⟩
    cases step with
    | consumer step => exact .call sound moved step
  cases o with
  | unsubscribe event => exact unsubscribeCall_implements (reads event minds) minds
  | commit m => exact ⟨minds, fun a t ht => ⟨a, rfl, single ht⟩⟩
  | produce record => exact ⟨minds, fun a t ht => ⟨a, rfl, single ht⟩⟩
  | _ => exact ⟨trivial, fun a t ht => ⟨a, rfl, single ht⟩⟩

/-! ## The service -/

/-- The operations of the endpoint for a payload: it upserts no other request. -/
def OwnRequest (payload : UnsubscribeRequest) : ApiOp → Prop
  | .repository (.upsert request) => request = payload.request
  | _ => True

section

variable {σ : Type} {exec : Program.Exec ApiOp ApiAns σ} {service : Unsubscribeme.Settings}
  {payload : UnsubscribeRequest}

theorem callRepository_own (x : σ) :
    Prog.Always exec (fun o _ => OwnRequest payload o) (fun r _ => ∃ attempted, r = .ok attempted)
      (Unsubscribeme.callRepository payload) x := by
  apply Prog.Always.attempt
  refine ⟨rfl, fun upserted y _ => ?_⟩
  cases upserted with
  | error error => exact ⟨_, rfl⟩
  | ok row =>
    cases row with
    | some row => exact ⟨_, rfl⟩
    | none =>
      refine ⟨trivial, fun selected z _ => ?_⟩
      cases selected with
      | error error => exact ⟨_, rfl⟩
      | ok row => cases row <;> exact ⟨_, rfl⟩

/-- The endpoint after its pause. -/
theorem respond_own (x : σ) :
    Prog.Always exec (fun o _ => OwnRequest payload o) (fun r _ => ∀ exc, r = .error exc → Raises service exc)
      (do
        Unsubscribeme.sleepBeforeCall service
        match ← Unsubscribeme.callRepository payload with
        | .error _ => throw ⟨503, "database unavailable"⟩
        | .ok result => return result.response : Unsubscribeme.ApiM UnsubscribeResponse) x := by
  have called : ∀ x, Prog.Always exec (fun o _ => OwnRequest payload o)
      (fun r _ => ∀ exc, r = .error exc → Raises service exc)
      (do
        match ← Unsubscribeme.callRepository payload with
        | .error _ => throw ⟨503, "database unavailable"⟩
        | .ok result => return result.response : Unsubscribeme.ApiM UnsubscribeResponse) x := by
    intro x
    apply Prog.Always.seq (callRepository_own x)
    rintro r y ⟨attempted, rfl⟩
    cases attempted with
    | error error =>
      intro exc raised
      cases raised
      exact .inr rfl
    | ok result =>
      intro exc impossible
      cases impossible
  rw [Unsubscribeme.sleepBeforeCall]
  split
  · exact ⟨trivial, fun _ y _ => called y⟩
  · exact called x

/-- The endpoint upserts the request of its payload, and raises what it may. -/
theorem postUnsubscribe_own (x : σ) :
    Prog.Always exec (fun o _ => OwnRequest payload o) (fun r _ => ∀ exc, r = .error exc → Raises service exc)
      (Unsubscribeme.postUnsubscribe service payload) x := by
  rw [Unsubscribeme.postUnsubscribe, Unsubscribeme.shouldFail]
  split
  · next enabled =>
    refine ⟨trivial, fun drawn y _ => ?_⟩
    by_cases unlucky : drawn < service.failureRate
    · simp only [Prog.bind_eq, Prog.pure_eq, Prog.bind_ok, unlucky, decide_true, if_true]
      intro exc raised
      cases raised
      exact .inl ⟨enabled, rfl⟩
    · simp only [Prog.bind_eq, Prog.pure_eq, Prog.bind_ok, unlucky, decide_false, Bool.false_eq_true, if_false]
      exact respond_own y
  · exact respond_own x

end

/-- What the endpoint is about to do, and how it ends, among the other programs. -/
theorem endpoint_answers (n : Nat) {payload : UnsubscribeRequest} {event : UnsubscribeEvent}
    (sourced : Sourced w event) (own : payload.request = requestOf event) :
    Prog.Always (meanwhile (Sound w) (Rely (.inr n)) (Exec w (.inr n))) (Knows w (.inr n))
      (fun r t => Grows s t ∧ ∃ attempted, r = .ok attempted ∧
        ∀ response, (match attempted with
          | .ok result => some (returned w.web result)
          | .error exc => raised w.web exc) = some response → Answered w t n payload response)
      (((Unsubscribeme.postUnsubscribe w.service payload).embed Op.endpoint fun _ a => a).attempt : PathM _) s := by
  have own_request : Prog.Always (meanwhile Truthful Progress (ApiExec n)) (fun o _ => OwnRequest payload o)
      (fun r _ => ∀ exc, r = .error exc → Raises w.service exc)
      (Unsubscribeme.postUnsubscribe w.service payload) s.db := postUnsubscribe_own s.db
  have spec := (Unsubscribeme.always_postUnsubscribe w.service n payload s.db).and own_request
  apply Prog.Always.attempt
  refine (Prog.Always.embed Op.endpoint (fun _ a => a) State.db Grows Grows.refl
    (fun _ _ _ => Grows.trans) ?_ spec).mono ?_ ?_
  · rintro o s' a t ⟨u, sound, moved, step⟩
    have grows := moved.1.trans (step.grows sound.truthful)
    cases step with
    | endpoint step => exact ⟨⟨u.db, sound.truthful, moved.1.progress, step⟩, grows⟩
  · rintro o t ⟨o', rfl, ⟨-, mine⟩, -⟩
    cases o' with
    | repository statement =>
      cases statement with
      | upsert request => exact ⟨event, sourced, mine.trans own⟩
      | select key => trivial
    | _ => trivial
  · rintro r t ⟨⟨responds, raises⟩, grows⟩
    refine ⟨grows, r, rfl, ?_⟩
    intro response sent
    cases r with
    | error exc => exact .raised (raises exc rfl) sent
    | ok result =>
      obtain ⟨found, rfl, answers⟩ := responds result rfl
      cases sent
      exact .returned answers

/-- The thread of an exchange replies what the service may. -/
theorem serve_knows (reads : ∀ event, Sourced w event → ReadsTime w.web event) (n : Nat) :
    Prog.Always (meanwhile (Sound w) (Rely (.inr n)) (Exec w (.inr n))) (Knows w (.inr n)) (fun _ _ => True)
      (serve w.service w.web n) s := by
  refine ⟨trivial, fun request t ht => ?_⟩
  obtain ⟨u, sound, -, step⟩ := ht
  cases step with
  | accepted found =>
  obtain ⟨event, sourced, rfl⟩ := sound.sourced request (List.mem_of_getElem? found)
  simp only [Prog.bind_ok, respond]
  cases valid : validate w.web (Consumer.unsubscribeRequest event).json with
  | none => exact ⟨.unprocessable found valid rfl, fun _ _ _ => trivial⟩
  | some payload =>
    have own : payload.request = requestOf event := validate_request (reads event sourced) valid
    have answer : Prog.Always (meanwhile (Sound w) (Rely (.inr n)) (Exec w (.inr n))) (Knows w (.inr n))
        (fun r t => ∀ response, r = .ok (some response) → Replied w t n response)
        (do
          match ← ((Unsubscribeme.postUnsubscribe w.service payload).embed Op.endpoint fun _ a => a).attempt with
          | .ok response => return some (returned w.web response)
          | .error exc => return raised w.web exc : PathM (Option Response)) t := by
      apply Prog.Always.seq (endpoint_answers n sourced own)
      rintro r v ⟨grows, attempted, rfl, answered⟩
      have found := grows.requests _ _ found
      cases attempted with
      | ok result =>
        intro response same
        cases same
        exact .answered found valid (answered _ rfl)
      | error exc =>
        intro response same
        have sent : raised w.web exc = some response := Except.ok.inj same
        exact .answered found valid (answered response sent)
    apply Prog.Always.seq answer
    intro r v replied
    cases r with
    | error e => trivial
    | ok response =>
      cases response with
      | none => trivial
      | some response => exact ⟨replied response rfl, fun _ _ _ => trivial⟩

/-! ## The whole path -/

/-- Processes and exchanges keep each other's assumptions. -/
theorem operational_cooperates (reads : ∀ event, Sourced w event → ReadsTime w.web event) :
    (operational w).Cooperation (Sound w) Rely (Knows w) (fun _ _ _ => True) where
  refl := Rely.refl
  trans _ _ _ _ := Rely.trans
  init s start := by
    cases start
    exact Sound.fresh
  program i s start := by
    cases start
    cases i with
    | inl p =>
      apply Prog.Always.interpret (consumerCall_implements reads)
      apply main_minds
      intro k offset impossible
      cases impossible
    | inr n => exact serve_knows reads n
  stable _ _ _ _ knows moved := knows.grow moved.1
  keeps _ _ _ _ _ sound knows step := step.keeps sound knows
  guarantee _ _ _ _ _ _ other sound _ step := step.rely sound.truthful other

/-- **Every committed record is accounted for.** At any point of any run of the groups and
the service, each record below a committed offset has been applied, the pair of its event
being unsubscribed no later than the event asks, or a dead-letter copy of it is written, was
reported as not written, or is in the queue of a process. -/
theorem committed_accounted (w : Platform δ π) (reads : ∀ event, Sourced w event → ReadsTime w.web event)
    {threads : π ⊕ Nat → PathM Unit} {s : State δ π} (reached : (operational w).Reachable threads s)
    (d : δ) (k : Nat) :
    ∀ m ∈ ((w.deployment d).topic.log k).records, m.offset < s.committed d k →
      (∃ event, Carries w.avro m event ∧ Applied event s.db) ∨
      ∃ record, CopyOf (w.deployment d).settings m record ∧
        (record ∈ s.deadLetters ∨ record ∈ s.undelivered ∨ ∃ p, record ∈ s.queue p) :=
  ((operational_cooperates reads).invariant reached).settled d k

/-! ## Two events of one pair, one process -/

/-- Requested on the second day. -/
def laterEvent : UnsubscribeEvent :=
  ⟨"event-1", "reader-1", "writer-1", .ui, ⟨86401000000, some 0⟩, "request-1", none, none, rfl⟩

/-- Requested on the first day. -/
def earlierEvent : UnsubscribeEvent :=
  ⟨"event-2", "reader-1", "writer-1", .ui, ⟨1000000, some 0⟩, "request-2", none, none, rfl⟩

def laterRecord : Message :=
  ⟨"unsubscribe-priority", 0, 0, some (messageKey laterEvent), some (toBytes 1 laterEvent), none⟩

def earlierRecord : Message :=
  ⟨"unsubscribe-priority", 0, 1, some (messageKey earlierEvent), some (toBytes 1 earlierEvent), none⟩

def demoMessages (k : Nat) : List Message := if k = 0 then [laterRecord, earlierRecord] else []

theorem mem_demoMessages {k : Nat} {m : Message} (member : m ∈ demoMessages k) :
    k = 0 ∧ (m = laterRecord ∨ m = earlierRecord) := by
  unfold demoMessages at member
  split at member
  · rename_i zero
    exact ⟨zero, List.mem_pair.1 member⟩
  · cases member

theorem demoMessages_ordered (k : Nat) : (demoMessages k).Pairwise fun m n => m.offset < n.offset := by
  unfold demoMessages
  split
  · exact List.pairwise_pair.2 (by decide)
  · exact .nil

theorem demoMessages_noError (k : Nat) (m : Message) (member : m ∈ demoMessages k) : m.error = none := by
  obtain ⟨-, rfl | rfl⟩ := mem_demoMessages member
  · rfl
  · rfl

theorem demoMessages_located (k : Nat) (m : Message) (member : m ∈ demoMessages k) :
    m.topic = "unsubscribe-priority" ∧ m.partition = k := by
  obtain ⟨rfl, rfl | rfl⟩ := mem_demoMessages member
  · exact ⟨rfl, rfl⟩
  · exact ⟨rfl, rfl⟩

/-- A topic with both records in its first partition, the later event first. -/
def demoTopic : Topic where
  name := "unsubscribe-priority"
  log k := ⟨demoMessages k, demoMessages_ordered k, demoMessages_noError k⟩
  located := demoMessages_located

/-- Libraries that agree on the times of the events. -/
def demoWeb : WebLibrary where
  datetime
    | .str text =>
      if text = "1970-01-01T00:00:01+00:00" then some ⟨1000000, some 0⟩
      else if text = "1970-01-02T00:00:01+00:00" then some ⟨86401000000, some 0⟩
      else none
    | _ => none
  timestamp time := if time = 1000000 then "1970-01-01T00:00:01Z" else "1970-01-02T00:00:01Z"
  fromisoformat text :=
    if text = "1970-01-01T00:00:01Z" then .ok ⟨1000000, some 0⟩
    else if text = "1970-01-02T00:00:01Z" then .ok ⟨86401000000, some 0⟩
    else .error ""
  dumps _ := ""
  validationErrors _ := .null
  sendable code := decide (100 ≤ code ∧ code ≤ 599)

/-- One process that takes two records. -/
def demoPlatform : Platform Unit Unit where
  deployment _ := ⟨Consumer.Settings.defaults, demoTopic⟩
  group _ := ()
  passes _ := 2
  service := Unsubscribeme.Settings.defaults
  web := demoWeb
  avro := demoAvro

theorem fromBytes_later : fromBytes demoAvro (toBytes 1 laterEvent) = .ok laterEvent := by
  have back := fromBytes_toBytes demoAvro laterEvent
  rw [if_pos (by decide)] at back
  exact back

theorem fromBytes_earlier : fromBytes demoAvro (toBytes 1 earlierEvent) = .ok earlierEvent := by
  have back := fromBytes_toBytes demoAvro earlierEvent
  rw [if_pos (by decide)] at back
  exact back

theorem sourced_demo {event : UnsubscribeEvent} (sourced : Sourced demoPlatform event) :
    event = laterEvent ∨ event = earlierEvent := by
  obtain ⟨_, k, m, recorded, value, found, read⟩ := sourced
  obtain ⟨-, rfl | rfl⟩ := mem_demoMessages recorded
  · cases found
    exact .inl (Except.ok.inj (read.symm.trans fromBytes_later))
  · cases found
    exact .inr (Except.ok.inj (read.symm.trans fromBytes_earlier))

section Play

variable (v : Platform Unit Unit)

/-- Everything succeeds, with the records of one partition; decoding is left to the run. -/
def demoAnswer : Unit ⊕ Nat → (o : Op) → State Unit Unit → Option (Ans o × State Unit Unit)
  | .inl _, .consumer (.poll _), s =>
    (((v.deployment ()).topic.log 0).next (s.committed () 0)).map fun m =>
      (some m, s.assign () (Function.update (fun k => if k = 0 then some (s.committed () 0) else none) 0
        (some (m.offset + 1))))
  | .inl _, .consumer (.count _), s => some ((), s)
  | .inl _, .consumer .nowIsoformat, s => some ("2026-01-01T00:00:00+00:00", s)
  | .inl _, .consumer (.produce record), s => some (.ok (), s.enqueue () record)
  | .inl _, .consumer (.flush _), s => some (0, s.flushed () (s.queue ()) [] [])
  | .inl _, .consumer (.commit m), s => some (.ok (), s.commit () m)
  | .inl _, .send request, s => some (s.requests.length, s.send request)
  | .inl _, .receive n, s => (s.responses n).map fun response => (.response response, s)
  | .inr n, .accept n', s => if n' = n then (s.requests[n]?).map fun request => (request, s) else none
  | .inr n, .endpoint o, s => (Database.answer n o s.db).map fun answered => (answered.1, { s with db := answered.2 })
  | .inr n, .reply n' response, s => if n' = n then some ((), s.reply n response) else none
  | _, _, _ => none

theorem demoAnswer_poll {timeout : Seconds} {s : State Unit Unit} {m : Message}
    (next : ((v.deployment ()).topic.log 0).next (s.committed () 0) = some m) :
    ConsumerExec v () (.poll timeout) s (some m)
      (s.assign () (Function.update (fun k => if k = 0 then some (s.committed () 0) else none) 0
        (some (m.offset + 1)))) := by
  refine ConsumerExec.record (k := 0) ?_ rfl next
  intro k offset at_k
  by_cases first : k = 0
  · subst first
    cases at_k
    exact .inr rfl
  · simp [first] at at_k

theorem demoAnswer_sound (i : Unit ⊕ Nat) (o : Op) (s : State Unit Unit) (a : Ans o) (t : State Unit Unit)
    (answer : demoAnswer v i o s = some (a, t)) : Exec v i o s a t := by
  cases i with
  | inl p =>
    cases o with
    | consumer o =>
      cases o with
      | poll timeout =>
        obtain ⟨m, next, same⟩ := Option.map_eq_some_iff.1 answer
        cases same
        exact .consumer (demoAnswer_poll v next)
      | count counter => cases answer; exact .consumer .counted
      | commit m => cases answer; exact .consumer .committed
      | nowIsoformat => cases answer; exact .consumer .now
      | produce record => cases answer; exact .consumer .produced
      | flush timeout =>
        cases answer
        exact .consumer (@ConsumerExec.flushed _ _ _ _ _ _ _ s (s.queue ()) [] [] (by simp))
      | _ => cases answer
    | send request => cases answer; exact .sent
    | receive n =>
      obtain ⟨response, found, same⟩ := Option.map_eq_some_iff.1 answer
      cases same
      exact .received found
    | _ => cases answer
  | inr n =>
    cases o with
    | accept n' =>
      simp only [demoAnswer] at answer
      split at answer
      · next same =>
        subst same
        obtain ⟨request, found, same⟩ := Option.map_eq_some_iff.1 answer
        cases same
        exact .accepted found
      · cases answer
    | endpoint o =>
      obtain ⟨⟨a', db⟩, answered, same⟩ := Option.map_eq_some_iff.1 answer
      cases same
      exact .endpoint (Unsubscribeme.apiExec_answer n o s.db a' db answered)
    | reply n' response =>
      simp only [demoAnswer] at answer
      split at answer
      · next same =>
        subst same
        cases answer
        exact .replied
      · cases answer
    | _ => cases answer

/-- The platform at a moment of the demo. -/
abbrev DemoState : Type := (Unit ⊕ Nat → PathM Unit) × State Unit Unit

/-- The process has polled and is about to decode. -/
def demoRead : DemoState := Interleaving.play (demoAnswer v) [.inl (), .inl ()] ((operational v).program, State.fresh)

/-- The process learns what the bytes decode to, and the run goes on. -/
def demoRest (decoded : Except PyStr UnsubscribeEvent) (schedule : List (Unit ⊕ Nat)) (x : DemoState) : DemoState :=
  match x.1 (.inl ()) with
  | .op (.consumer (.fromBytes _)) next =>
    Interleaving.play (demoAnswer v) schedule (Function.update x.1 (.inl ()) (next decoded), x.2)
  | _ => x

theorem demoRest_reached {x : DemoState} (reached : (operational v).Reachable x.1 x.2) {value : Bytes}
    (about : ∃ next, x.1 (.inl ()) = .op (.consumer (.fromBytes value)) next) {decoded : Except PyStr UnsubscribeEvent}
    (allowed : ConsumerExec v () (.fromBytes value) x.2 decoded x.2) (schedule : List (Unit ⊕ Nat)) :
    (operational v).Reachable (demoRest v decoded schedule x).1 (demoRest v decoded schedule x).2 := by
  obtain ⟨next, about⟩ := about
  have reached := reached.run (.step .refl about (.consumer allowed))
  have rest : demoRest v decoded schedule x =
      Interleaving.play (demoAnswer v) schedule (Function.update x.1 (.inl ()) (next decoded), x.2) := by
    rw [demoRest, about]
  rw [rest]
  exact Interleaving.Reachable.play (demoAnswer_sound v) schedule reached

theorem demoRead_reached : (operational v).Reachable (demoRead v).1 (demoRead v).2 :=
  Interleaving.Reachable.play (demoAnswer_sound v) _ ⟨_, rfl, .refl⟩

end Play

/-- An exchange of a process, and what it does afterwards. -/
def demoExchange (n : Nat) : List (Unit ⊕ Nat) := [.inl (), .inr n, .inr n, .inr n] ++ List.replicate 5 (.inl ())

/-- The later event is applied and its record committed, and the other one is read. -/
def demoBetween : DemoState := demoRest demoPlatform (.ok laterEvent) (demoExchange 0) (demoRead demoPlatform)

theorem demoBetween_reached : (operational demoPlatform).Reachable demoBetween.1 demoBetween.2 :=
  demoRest_reached _ (demoRead_reached _) ⟨_, rfl⟩ (.decoded fromBytes_later) _

/-- The earlier event is applied too. -/
def demoDone : DemoState := demoRest demoPlatform (.ok earlierEvent) (demoExchange 1) demoBetween

theorem demoDone_reached : (operational demoPlatform).Reachable demoDone.1 demoDone.2 :=
  demoRest_reached _ demoBetween_reached ⟨_, rfl⟩ (.decoded fromBytes_earlier) _

theorem demo_reads (event : UnsubscribeEvent) (sourced : Sourced demoPlatform event) : ReadsTime demoWeb event := by
  intro d read
  obtain rfl | rfl := sourced_demo sourced
  · cases read
    rfl
  · cases read
    rfl

theorem committed_accounted_demo :
    demoDone.2.committed () 0 = 2 ∧ ∀ m ∈ [laterRecord, earlierRecord],
      (∃ event, Carries demoAvro m event ∧ Applied event demoDone.2.db) ∨
      ∃ record, CopyOf Consumer.Settings.defaults m record ∧
        (record ∈ demoDone.2.deadLetters ∨ record ∈ demoDone.2.undelivered ∨ ∃ p, record ∈ demoDone.2.queue p) := by
  have committed : demoDone.2.committed () 0 = 2 := rfl
  refine ⟨committed, fun m listed => ?_⟩
  have below : m.offset < demoDone.2.committed () 0 := by
    rw [committed]
    obtain rfl | rfl := List.mem_pair.1 listed <;> decide
  exact committed_accounted demoPlatform demo_reads demoDone_reached () 0 m listed below

end Tikblog.Operational
