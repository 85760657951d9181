import Tikblog.Consumer.Outcomes

/-!
# The trace of a delivery

`deliver` run against a sequence of outcomes of `unsubscribe`: one answer of the HTTP client
for every call, in order. The state of the run is the list of the calls made so far. The
clock and the dead-letter producer answer anything, and `time.sleep` may refuse what is above
the limit of the host.

The trace should be calls and pauses in turn up to the last call, then the parked copy if
that call did not succeed (`Delivered`). It is, as long as the host takes every pause that
the outcomes lead to and the error to be parked can be encoded (`deliver_delivered_iff`).
-/

namespace Tikblog.Consumer

open Python Contracts Kafka Program

/-! ## What a trace holds -/

abbrev Trace := List Op

/-- The events given to `client.unsubscribe`. -/
def Trace.calls (trace : Trace) : List UnsubscribeEvent :=
  trace.filterMap fun
    | .unsubscribe event => some event
    | _ => none

def Trace.sleeps (trace : Trace) : List Seconds :=
  trace.filterMap fun
    | .sleep seconds => some seconds
    | _ => none

/-- The copies handed to the dead-letter producer. -/
def Trace.parked (trace : Trace) : List DlqRecord :=
  trace.filterMap fun
    | .produce record => some record
    | _ => none

@[simp] theorem calls_append (before after : Trace) :
    Trace.calls (before ++ after) = Trace.calls before ++ Trace.calls after := List.filterMap_append

@[simp] theorem sleeps_append (before after : Trace) :
    Trace.sleeps (before ++ after) = Trace.sleeps before ++ Trace.sleeps after := List.filterMap_append

@[simp] theorem parked_append (before after : Trace) :
    Trace.parked (before ++ after) = Trace.parked before ++ Trace.parked after := List.filterMap_append

/-- What a call may answer after `trace`: `outcomes` numbers the answers of the client
from 0. -/
def Answered (limit : SleepLimit) (outcomes : Nat → Outcome) (trace : Trace) : (o : Op) → Ans o → Prop
  | .unsubscribe _, a => a = (outcomes (Trace.calls trace).length).answer
  | .sleep seconds, a => limit.Answers seconds a
  | _, _ => True

/-- The calls of one delivery. -/
def DeliveryExec (limit : SleepLimit) (outcomes : Nat → Outcome) : Program.Exec Op Ans Trace :=
  fun o trace a after => after = trace ++ [o] ∧ Answered limit outcomes trace o a

/-! ## The trace -/

/-- Calls with the given pauses between them. -/
def attempts (event : UnsubscribeEvent) : List Seconds → Trace
  | [] => [.unsubscribe event]
  | pause :: pauses => .unsubscribe event :: .sleep pause :: attempts event pauses

@[simp] theorem attempts_calls (event : UnsubscribeEvent) (pauses : List Seconds) :
    Trace.calls (attempts event pauses) = List.replicate (pauses.length + 1) event := by
  induction pauses with
  | nil => rfl
  | cons pause pauses ih =>
    rw [List.length_cons, List.replicate_succ, ← ih]
    rfl

@[simp] theorem attempts_sleeps (event : UnsubscribeEvent) (pauses : List Seconds) :
    Trace.sleeps (attempts event pauses) = pauses := by
  induction pauses with
  | nil => rfl
  | cons pause pauses ih =>
    conv_rhs => rw [← ih]
    rfl

@[simp] theorem attempts_parked (event : UnsubscribeEvent) (pauses : List Seconds) :
    Trace.parked (attempts event pauses) = [] := by
  induction pauses with
  | nil => rfl
  | cons pause pauses ih => exact ih

/-- What the last call, the `k`-th, leaves to be parked. -/
def Parks (settings : Settings) (message : Message) (k : Nat) (parked : List DlqRecord) : Outcome → Prop
  | .success _ => parked = []
  | .permanentRejection text =>
    ∃ error failedAt, dlqError text = .ok error ∧
      parked = [parkedCopy settings message "permanent_rejection" error k failedAt]
  | .transientError text =>
    k = settings.maxAttempts ∧ ∃ error failedAt, dlqError text = .ok error ∧
      parked = [parkedCopy settings message "transient_exhausted" error k failedAt]

/-- The trace of a delivery that comes to an end: calls and pauses in turn, then the
parked copy. -/
structure Delivered (settings : Settings) (outcomes : Nat → Outcome) (event : UnsubscribeEvent)
    (message : Message) (trace : Trace) : Prop where
  calls : Trace.calls trace = List.replicate (lastCall outcomes settings.maxAttempts) event
  sleeps : (Trace.sleeps trace).length = lastCall outcomes settings.maxAttempts - 1
  pauses : Trace.sleeps trace <+: settings.pauses
  parked : Parks settings message (lastCall outcomes settings.maxAttempts) (Trace.parked trace)
    (outcomes (lastCall outcomes settings.maxAttempts - 1))
  afterLast : ∃ tail, trace = attempts event (Trace.sleeps trace) ++ tail ∧
    Trace.calls tail = [] ∧ Trace.sleeps tail = []

/-- What follows the calls and pauses of a delivery. -/
structure Settled (settings : Settings) (message : Message) (k : Nat) (outcome : Outcome)
    (tail : Trace) : Prop where
  calls : Trace.calls tail = []
  sleeps : Trace.sleeps tail = []
  parked : Parks settings message k (Trace.parked tail) outcome

section

variable {settings : Settings} {limit : SleepLimit} {outcomes : Nat → Outcome} {event : UnsubscribeEvent}
  {message : Message}

theorem Delivered.of_attempts {pauses : List Seconds} {tail : Trace}
    (count : pauses.length = lastCall outcomes settings.maxAttempts - 1) (fits : pauses <+: settings.pauses)
    (settled : Settled settings message (lastCall outcomes settings.maxAttempts)
      (outcomes (lastCall outcomes settings.maxAttempts - 1)) tail) :
    Delivered settings outcomes event message (attempts event pauses ++ tail) := by
  have positive : 1 ≤ lastCall outcomes settings.maxAttempts := lastCall_pos settings.maxAttempts_pos
  have sleeps : Trace.sleeps (attempts event pauses ++ tail) = pauses := by simp [settled.sleeps]
  refine ⟨?_, ?_, ?_, ?_, ⟨tail, ?_, settled.calls, settled.sleeps⟩⟩
  · rw [calls_append, settled.calls, List.append_nil, attempts_calls, count, Nat.sub_add_cancel positive]
  · rw [sleeps, count]
  · rw [sleeps]
    exact fits
  · rw [parked_append, attempts_parked, List.nil_append]
    exact settled.parked
  · rw [sleeps]

/-- Parking makes no call on the client and no pause, and hands over one copy. -/
theorem park_traced (reason : String) {text : PyStr} {error : Bytes} (encoded : dlqError text = .ok error)
    (k : Nat) (trace : Trace) :
    Prog.Ends (DeliveryExec limit outcomes)
      (fun _ t => ∃ tail failedAt, t = trace ++ tail ∧ Trace.calls tail = [] ∧ Trace.sleeps tail = [] ∧
        Trace.parked tail = [parkedCopy settings message reason error k failedAt])
      (park settings message reason text k) trace := by
  rw [park, encoded]
  refine ⟨⟨"", _, rfl, trivial⟩, fun failedAt _ now => ?_⟩
  obtain ⟨rfl, -⟩ := now
  refine ⟨⟨.ok (), _, rfl, trivial⟩, fun produced _ handed => ?_⟩
  obtain ⟨rfl, -⟩ := handed
  cases produced with
  | error e => exact ⟨[_, _], failedAt, by rw [List.append_assoc]; rfl, rfl, rfl, rfl⟩
  | ok _ =>
    refine ⟨⟨0, _, rfl, trivial⟩, fun remaining _ flushed => ?_⟩
    obtain ⟨rfl, -⟩ := flushed
    exact ⟨[_, _, _], failedAt, by rw [List.append_assoc, List.append_assoc]; rfl, rfl, rfl, rfl⟩

/-- What the loop still has to do after `made` calls: the rest of the pauses, then the tail. -/
def Goes (settings : Settings) (outcomes : Nat → Outcome) (event : UnsubscribeEvent) (message : Message)
    (pauses : List Seconds) (before : Trace) : Except PyException Unit → Trace → Prop := fun _ trace =>
  ∃ tail, trace = before ++ (attempts event pauses ++ tail) ∧
    Settled settings message (lastCall outcomes settings.maxAttempts)
      (outcomes (lastCall outcomes settings.maxAttempts - 1)) tail

/-- The last call: whatever its outcome, nothing follows but the parking. -/
theorem deliverLoop_last {made : Nat} {later : List Nat} {delay : Seconds} {trace : Trace}
    (soFar : (Trace.calls trace).length = made) (parkable : (outcomes made).Parkable)
    (last : lastCall outcomes settings.maxAttempts = made + 1) :
    Prog.Ends (DeliveryExec limit outcomes) (Goes settings outcomes event message [] trace)
      (deliverLoop settings event message ((made + 1) :: later) delay) trace := by
  refine ⟨⟨_, _, rfl, rfl⟩, fun answer t called => ?_⟩
  obtain ⟨rfl, answered⟩ := called
  rw [Answered, soFar] at answered
  have parks : ∀ reason text, PyStr.HasUtf8 (text.take 500) →
      (∀ error failedAt, dlqError text = .ok error → Parks settings message (made + 1)
        [parkedCopy settings message reason error (made + 1) failedAt] (outcomes made)) →
      Prog.Ends (DeliveryExec limit outcomes) (Goes settings outcomes event message [] trace)
        (park settings message reason text (made + 1)) (trace ++ [.unsubscribe event]) := by
    intro reason text encodable parked
    obtain ⟨error, encoded⟩ := dlqError_ok_iff.2 encodable
    apply (park_traced reason encoded (made + 1) _).mono (fun _ _ h => h)
    rintro _ _ ⟨tail, failedAt, rfl, calls, sleeps, copies⟩
    refine ⟨tail, by simp [attempts], calls, sleeps, ?_⟩
    rw [last, Nat.add_sub_cancel, copies]
    exact parked error failedAt encoded
  cases outcome : outcomes made with
  | success result =>
    rw [outcome] at answered
    subst answered
    refine ⟨[], by simp [attempts], rfl, rfl, ?_⟩
    rw [last, Nat.add_sub_cancel, outcome]
    rfl
  | permanentRejection text =>
    rw [outcome] at answered parkable
    subst answered
    apply parks _ _ parkable
    intro error failedAt encoded
    rw [outcome]
    exact ⟨error, failedAt, encoded, rfl⟩
  | transientError text =>
    rw [outcome] at answered parkable
    subst answered
    have final : made + 1 = settings.maxAttempts := by
      by_contra left
      have further := lt_lastCall_of_transient settings.maxAttempts_pos
        (show made < lastCall outcomes settings.maxAttempts by omega) (by rw [outcome]; rfl) left
      omega
    simp only [Outcome.answer, Prog.bind_ok, if_pos final]
    apply parks _ _ parkable
    intro error failedAt encoded
    rw [outcome]
    exact ⟨final, error, failedAt, encoded, rfl⟩

theorem deliverLoop_goes {left made : Nat} {delay : Seconds} {trace : Trace}
    (budget : made + 1 + left = settings.maxAttempts) (soFar : (Trace.calls trace).length = made)
    (reached : made < lastCall outcomes settings.maxAttempts)
    (short : ∀ d ∈ (pausesFrom settings left delay).take (lastCall outcomes settings.maxAttempts - 1 - made),
      d ≤ limit.longest)
    (parkable : (outcomes (lastCall outcomes settings.maxAttempts - 1)).Parkable) :
    Prog.Ends (DeliveryExec limit outcomes)
      (Goes settings outcomes event message
        ((pausesFrom settings left delay).take (lastCall outcomes settings.maxAttempts - 1 - made)) trace)
      (deliverLoop settings event message (List.range' (made + 1) (left + 1)) delay) trace := by
  induction left generalizing made delay trace with
  | zero =>
    have within : lastCall outcomes settings.maxAttempts ≤ settings.maxAttempts :=
      lastCall_le settings.maxAttempts_pos
    have last : lastCall outcomes settings.maxAttempts = made + 1 := by omega
    rw [last, Nat.add_sub_cancel] at parkable
    rw [show lastCall outcomes settings.maxAttempts - 1 - made = 0 by omega, List.take_zero]
    exact deliverLoop_last soFar parkable last
  | succ left ih =>
    by_cases last : lastCall outcomes settings.maxAttempts = made + 1
    · rw [last, Nat.add_sub_cancel] at parkable
      rw [show lastCall outcomes settings.maxAttempts - 1 - made = 0 by omega, List.take_zero]
      exact deliverLoop_last soFar parkable last
    · have step : lastCall outcomes settings.maxAttempts - 1 - made
          = lastCall outcomes settings.maxAttempts - 1 - (made + 1) + 1 := by omega
      rw [step, pausesFrom, List.take_succ_cons] at short ⊢
      rw [List.forall_mem_cons] at short
      obtain ⟨text, outcome⟩ := transient_of_lt
        (show made + 1 < lastCall outcomes settings.maxAttempts by omega)
      refine ⟨⟨_, _, rfl, rfl⟩, fun answer t called => ?_⟩
      obtain ⟨rfl, answered⟩ := called
      rw [Answered, soFar, outcome] at answered
      subst answered
      simp only [Outcome.answer, Prog.bind_ok]
      rw [if_neg (by omega)]
      refine ⟨⟨_, _, rfl, SleepLimit.slept short.1⟩, fun slept t paused => ?_⟩
      obtain ⟨rfl, answered⟩ := paused
      obtain rfl : slept = .ok () := answered.2 short.1
      apply (ih (by omega) (by simp [Trace.calls, ← soFar]) (by omega) short.2).mono (fun _ _ h => h)
      rintro _ _ ⟨tail, rfl, settled⟩
      exact ⟨tail, by simp [attempts], settled⟩

/-- A pause between the calls that is refused ends the delivery before its last call. -/
theorem short_of_deliverLoop_calls {left made : Nat} {delay : Seconds} {trace : Trace}
    (budget : made + 1 + left = settings.maxAttempts) (soFar : (Trace.calls trace).length = made)
    (reached : made < lastCall outcomes settings.maxAttempts)
    (ends : Prog.Ends (DeliveryExec limit outcomes)
      (fun _ t => (Trace.calls t).length = lastCall outcomes settings.maxAttempts)
      (deliverLoop settings event message (List.range' (made + 1) (left + 1)) delay) trace) :
    ∀ d ∈ (pausesFrom settings left delay).take (lastCall outcomes settings.maxAttempts - 1 - made),
      d ≤ limit.longest := by
  induction left generalizing made delay trace with
  | zero => simp [pausesFrom]
  | succ left ih =>
    by_cases last : lastCall outcomes settings.maxAttempts = made + 1
    · rw [show lastCall outcomes settings.maxAttempts - 1 - made = 0 by omega]
      simp
    · have step : lastCall outcomes settings.maxAttempts - 1 - made
          = lastCall outcomes settings.maxAttempts - 1 - (made + 1) + 1 := by omega
      rw [step, pausesFrom, List.take_succ_cons, List.forall_mem_cons]
      obtain ⟨text, outcome⟩ := transient_of_lt
        (show made + 1 < lastCall outcomes settings.maxAttempts by omega)
      have failed := ends.2 (.error (.transientError text)) _
        ⟨rfl, by rw [Answered, soFar, outcome]; rfl⟩
      simp only [Prog.bind_ok] at failed
      rw [if_neg (by omega)] at failed
      have counted : (Trace.calls (trace ++ [.unsubscribe event] ++ [.sleep delay])).length = made + 1 := by
        simp [Trace.calls, ← soFar]
      by_cases short : delay ≤ limit.longest
      · have paused := failed.2 (.ok ()) _ ⟨rfl, SleepLimit.slept short⟩
        exact ⟨short, ih (by omega) counted (by omega) paused⟩
      · obtain ⟨e, refused⟩ := SleepLimit.refused short
        have raised := failed.2 (.error e) _ ⟨rfl, refused⟩
        exact absurd (counted.symm.trans raised) (by omega)

/-- The delivery stops short of its last call where a pause before it may be refused. -/
theorem short_of_delivered
    (ends : Prog.Ends (DeliveryExec limit outcomes) (fun _ t => Delivered settings outcomes event message t)
      (deliver settings event message) []) :
    ∀ d ∈ settings.pauses.take (lastCall outcomes settings.maxAttempts - 1), d ≤ limit.longest := by
  obtain ⟨left, budget, pauses, loop⟩ := deliver_eq_loop settings event message
  rw [loop] at ends
  rw [pauses]
  refine short_of_deliverLoop_calls budget rfl (lastCall_pos settings.maxAttempts_pos)
    (ends.mono (fun _ _ h => h) fun _ t delivered => ?_)
  rw [delivered.calls, List.length_replicate]

/-- What is left to be parked was encoded. -/
theorem Parks.parkable {k : Nat} {parked : List DlqRecord} {outcome : Outcome}
    (h : Parks settings message k parked outcome) : outcome.Parkable := by
  cases outcome with
  | success returned => trivial
  | permanentRejection text =>
    obtain ⟨error, -, encoded, -⟩ := h
    exact dlqError_ok_iff.1 ⟨error, encoded⟩
  | transientError text =>
    obtain ⟨-, error, -, encoded, -⟩ := h
    exact dlqError_ok_iff.1 ⟨error, encoded⟩

end

/-- **When a delivery is what it should be.** For every sequence of outcomes of the client and
every host, `deliver` comes to an end and leaves the trace it should exactly when the host
takes every pause before the last call, and the error of that call, if it is one, can be
encoded. -/
theorem deliver_delivered_iff (settings : Settings) (limit : SleepLimit) (outcomes : Nat → Outcome)
    (event : UnsubscribeEvent) (message : Message) :
    Prog.Ends (DeliveryExec limit outcomes) (fun _ trace => Delivered settings outcomes event message trace)
        (deliver settings event message) [] ↔
      Deliverable settings limit outcomes := by
  constructor
  · intro ends
    obtain ⟨-, trace, delivered⟩ := ends.exists_end
    exact ⟨short_of_delivered ends, delivered.parked.parkable⟩
  rintro ⟨short, parkable⟩
  obtain ⟨left, budget, pauses, loop⟩ := deliver_eq_loop settings event message
  have within : lastCall outcomes settings.maxAttempts ≤ settings.maxAttempts :=
    lastCall_le settings.maxAttempts_pos
  have positive : 1 ≤ lastCall outcomes settings.maxAttempts := lastCall_pos settings.maxAttempts_pos
  rw [pauses] at short
  rw [loop]
  apply (deliverLoop_goes budget rfl positive short parkable).mono (fun _ _ h => h)
  rintro _ _ ⟨tail, rfl, settled⟩
  refine Delivered.of_attempts ?_ ?_ settled
  · rw [List.length_take, pausesFrom_length]
    omega
  · rw [pauses]
    exact List.take_prefix _ _

/-- Settings that the checks accept, with a first pause of three centuries. -/
def Settings.patient : Settings :=
  { Settings.defaults with
    maxAttempts := 2
    backoffInitialSeconds := (10 ^ 10 : ℚ)
    backoffMultiplier := 1
    backoffMaxSeconds := (10 ^ 10 : ℚ)
    maxAttempts_pos := by decide
    backoffInitialSeconds_pos := by decide +kernel
    backoffMultiplier_ge := by decide +kernel
    backoffMaxSeconds_pos := by decide +kernel }

/-- The service is down for the first call, and would reject the second. -/
def downThenRejected (i : Nat) : Outcome :=
  if i = 0 then .transientError (PyStr.ofString "HTTP 503") else .permanentRejection (PyStr.ofString "HTTP 422")

/-- The second call, which would have the message parked, is never made. -/
theorem deliver_patient_lost :
    ¬ Prog.Ends (DeliveryExec centuryLimit downThenRejected)
      (fun _ trace => Delivered Settings.patient downThenRejected sampleEvent
        ⟨"unsubscribe-priority", 0, 0, none, some [0], none⟩ trace)
      (deliver Settings.patient sampleEvent ⟨"unsubscribe-priority", 0, 0, none, some [0], none⟩) [] := by
  intro ends
  have short := short_of_delivered ends (10 ^ 10 : ℚ) (by decide +kernel)
  exact absurd short (by decide +kernel)

end Tikblog.Consumer
