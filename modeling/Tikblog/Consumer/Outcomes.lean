import Mathlib.Order.Bounds.Basic
import Tikblog.Consumer.Service

/-!
# What a delivery meets

The outcomes of the calls of `unsubscribe`, numbered from 0, and the pauses between them.
`deliver` stops at the first outcome that is not transient or at the last attempt, whichever
comes first (`lastCall`). It gets that far, and leaves behind what it should, if the host
takes the pauses up to there and the error of the last outcome, if it is one, can be written
into a header (`Deliverable`).
-/

namespace Tikblog.Consumer

open Python Contracts Kafka Program

/-- What `client.unsubscribe` comes to. -/
inductive Outcome where
  | success (outcome : UnsubscribeOutcome)
  | transientError (text : PyStr)
  | permanentRejection (text : PyStr)

def Outcome.isTransient : Outcome → Bool
  | .transientError _ => true
  | _ => false

def Outcome.answer : Outcome → Except PyException UnsubscribeOutcome
  | .success outcome => .ok outcome
  | .transientError text => .error (.transientError text)
  | .permanentRejection text => .error (.permanentRejection text)

theorem dlqError_ok_iff {error : PyStr} :
    (∃ bytes, dlqError error = .ok bytes) ↔ PyStr.HasUtf8 (error.take 500) := PyStr.encode_ok_iff

/-- If the outcome is an error, the part of it that the dead-letter copy takes can be
encoded. -/
def Outcome.Parkable : Outcome → Prop
  | .success _ => True
  | .transientError text | .permanentRejection text => PyStr.HasUtf8 (text.take 500)

instance : (outcome : Outcome) → Decidable outcome.Parkable
  | .success _ => inferInstanceAs (Decidable True)
  | .transientError text | .permanentRejection text =>
    inferInstanceAs (Decidable (PyStr.HasUtf8 (text.take 500)))

/-! ## The last call -/

/-- `k`: the smaller of the number of attempts and the position, from 1, of the first
outcome that is not transient. -/
def lastCall (outcomes : Nat → Outcome) (maxAttempts : Nat) : Nat :=
  match (List.range maxAttempts).find? fun i => !(outcomes i).isTransient with
  | some i => i + 1
  | none => maxAttempts

section

variable {outcomes : Nat → Outcome} {maxAttempts : Nat}

theorem lastCall_isLeast (outcomes : Nat → Outcome) (positive : 1 ≤ maxAttempts) :
    IsLeast {k | k = maxAttempts ∨ 1 ≤ k ∧ (outcomes (k - 1)).isTransient = false}
      (lastCall outcomes maxAttempts) := by
  unfold lastCall
  split
  case h_1 i found =>
    obtain ⟨settled, inRange, earlier⟩ := List.find?_range_eq_some.1 found
    refine ⟨.inr ⟨by omega, by simpa using settled⟩, ?_⟩
    rintro k (rfl | ⟨hk, other⟩)
    · have := List.mem_range.1 inRange
      omega
    · by_contra before
      have := earlier (k - 1) (by omega)
      simp [other] at this
  case h_2 none =>
    refine ⟨.inl rfl, ?_⟩
    rintro k (rfl | ⟨hk, other⟩)
    · exact le_refl _
    · by_contra before
      have := List.find?_eq_none.1 none (k - 1) (List.mem_range.2 (by omega))
      simp [other] at this

theorem lastCall_le (positive : 1 ≤ maxAttempts) : lastCall outcomes maxAttempts ≤ maxAttempts :=
  (lastCall_isLeast outcomes positive).2 (.inl rfl)

theorem lastCall_pos (positive : 1 ≤ maxAttempts) : 1 ≤ lastCall outcomes maxAttempts := by
  obtain last | ⟨last, -⟩ := (lastCall_isLeast outcomes positive).1
  · omega
  · exact last

/-- The first outcome that is not transient ends the delivery. -/
theorem lastCall_of_settled {made : Nat} (positive : 1 ≤ maxAttempts)
    (reached : made < lastCall outcomes maxAttempts) (settled : (outcomes made).isTransient = false) :
    lastCall outcomes maxAttempts = made + 1 := by
  have least : lastCall outcomes maxAttempts ≤ made + 1 :=
    (lastCall_isLeast outcomes positive).2 (.inr ⟨by omega, settled⟩)
  omega

/-- A transient outcome is followed by another call while attempts are left. -/
theorem lt_lastCall_of_transient {made : Nat} (positive : 1 ≤ maxAttempts)
    (reached : made < lastCall outcomes maxAttempts) (transient : (outcomes made).isTransient)
    (left : made + 1 ≠ maxAttempts) : made + 1 < lastCall outcomes maxAttempts := by
  obtain last | ⟨last, settled⟩ := (lastCall_isLeast outcomes positive).1
  · omega
  · rcases Nat.lt_or_ge (made + 1) (lastCall outcomes maxAttempts) with further | here
    · exact further
    · rw [show lastCall outcomes maxAttempts - 1 = made by omega, transient] at settled
      cases settled

end

/-! ## Pauses -/

/-- The pauses after `left` failed attempts, the first being `delay`. -/
def pausesFrom (settings : Settings) : Nat → Seconds → List Seconds
  | 0, _ => []
  | left + 1, delay =>
    delay :: pausesFrom settings left (min (delay * settings.backoffMultiplier) settings.backoffMaxSeconds)

/-- The pauses of a delivery whose attempts all fail. -/
def Settings.pauses (settings : Settings) : List Seconds :=
  pausesFrom settings (settings.maxAttempts - 1) settings.backoffInitialSeconds

theorem pausesFrom_length (settings : Settings) (left : Nat) (delay : Seconds) :
    (pausesFrom settings left delay).length = left := by
  induction left generalizing delay with
  | zero => rfl
  | succ left ih => rw [pausesFrom, List.length_cons, ih]

/-- What `time.sleep` may come to on a host with the limit. -/
def SleepLimit.Answers (limit : SleepLimit) (seconds : Seconds) (a : Except PyException Unit) : Prop :=
  SleepAnswer seconds a ∧ (seconds ≤ limit.longest → a = .ok ())

theorem SleepLimit.slept {limit : SleepLimit} {seconds : Seconds} (short : seconds ≤ limit.longest) :
    limit.Answers seconds (.ok ()) :=
  ⟨.slept (short.trans limit.representable), fun _ => rfl⟩

/-- A pause above the limit may be refused. -/
theorem SleepLimit.refused {limit : SleepLimit} {seconds : Seconds} (long : ¬ seconds ≤ limit.longest) :
    ∃ e, limit.Answers seconds (.error e) := by
  by_cases fits : seconds ≤ sleepMax
  · exact ⟨_, .refused fits, fun short => absurd short long⟩
  · exact ⟨_, .tooLong (not_le.1 fits), fun short => absurd short long⟩

theorem SleepLimit.exists_answer (limit : SleepLimit) (seconds : Seconds) : ∃ a, limit.Answers seconds a := by
  by_cases short : seconds ≤ limit.longest
  · exact ⟨_, slept short⟩
  · obtain ⟨e, answers⟩ := refused short
    exact ⟨_, answers⟩

/-! ## Getting through -/

/-- The pauses before the last call are taken, and what it leaves to be parked can be. -/
structure Deliverable (settings : Settings) (limit : SleepLimit) (outcomes : Nat → Outcome) : Prop where
  short : ∀ d ∈ settings.pauses.take (lastCall outcomes settings.maxAttempts - 1), d ≤ limit.longest
  parkable : (outcomes (lastCall outcomes settings.maxAttempts - 1)).Parkable

section

variable {settings : Settings} {outcomes : Nat → Outcome}

/-- A call that is not the last failed transiently. -/
theorem transient_of_lt {made : Nat} (further : made + 1 < lastCall outcomes settings.maxAttempts) :
    ∃ text, outcomes made = .transientError text := by
  cases outcome : outcomes made with
  | transientError text => exact ⟨text, rfl⟩
  | _ =>
    have last := lastCall_of_settled settings.maxAttempts_pos
      (show made < lastCall outcomes settings.maxAttempts by omega) (by rw [outcome]; rfl)
    omega

theorem deliver_eq_loop (settings : Settings) (event : UnsubscribeEvent) (message : Message) :
    ∃ left, 0 + 1 + left = settings.maxAttempts ∧
    settings.pauses = pausesFrom settings left settings.backoffInitialSeconds ∧
    deliver settings event message = deliverLoop settings event message
      (List.range' (0 + 1) (left + 1)) settings.backoffInitialSeconds := by
  obtain ⟨left, budget⟩ := Nat.exists_eq_add_of_le settings.maxAttempts_pos
  refine ⟨left, by omega, ?_, ?_⟩
  · rw [Settings.pauses, show settings.maxAttempts - 1 = left by omega]
  · rw [deliver, show settings.maxAttempts = left + 1 by omega]

/-- The same from the attempt after `made` calls on, `left` more being allowed. -/
def GetsThrough (settings : Settings) (limit : SleepLimit) (outcomes : Nat → Outcome) :
    (left made : Nat) → Seconds → Prop
  | 0, made, _ => (outcomes made).Parkable
  | left + 1, made, delay =>
    if (outcomes made).isTransient then
      delay ≤ limit.longest ∧ GetsThrough settings limit outcomes left (made + 1)
        (min (delay * settings.backoffMultiplier) settings.backoffMaxSeconds)
    else (outcomes made).Parkable

theorem getsThrough_iff {limit : SleepLimit} {left made : Nat} {delay : Seconds}
    (budget : made + 1 + left = settings.maxAttempts)
    (reached : made < lastCall outcomes settings.maxAttempts) :
    GetsThrough settings limit outcomes left made delay ↔
      (∀ d ∈ (pausesFrom settings left delay).take (lastCall outcomes settings.maxAttempts - 1 - made),
        d ≤ limit.longest) ∧
      (outcomes (lastCall outcomes settings.maxAttempts - 1)).Parkable := by
  have within : lastCall outcomes settings.maxAttempts ≤ settings.maxAttempts :=
    lastCall_le settings.maxAttempts_pos
  induction left generalizing made delay with
  | zero =>
    have last : lastCall outcomes settings.maxAttempts = made + 1 := by omega
    simp [GetsThrough, pausesFrom, last]
  | succ left ih =>
    rw [GetsThrough]
    split
    · next transient =>
      have further := lt_lastCall_of_transient settings.maxAttempts_pos reached transient (by omega)
      have step : lastCall outcomes settings.maxAttempts - 1 - made
          = lastCall outcomes settings.maxAttempts - 1 - (made + 1) + 1 := by omega
      rw [step, pausesFrom, List.take_succ_cons, List.forall_mem_cons, and_assoc]
      exact and_congr_right fun _ => ih (by omega) further
    · next settled =>
      have last := lastCall_of_settled settings.maxAttempts_pos reached (Bool.eq_false_iff.2 settled)
      simp [last]

theorem deliverable_iff {limit : SleepLimit} {left : Nat} (budget : 0 + 1 + left = settings.maxAttempts) :
    Deliverable settings limit outcomes ↔
      GetsThrough settings limit outcomes left 0 settings.backoffInitialSeconds := by
  rw [getsThrough_iff budget (lastCall_pos settings.maxAttempts_pos), Nat.sub_zero,
    show left = settings.maxAttempts - 1 by omega]
  exact ⟨fun h => ⟨h.short, h.parkable⟩, fun h => ⟨h.1, h.2⟩⟩

end

/-- An event to deliver. -/
def sampleEvent : UnsubscribeEvent :=
  ⟨"", "", "", .ui, ⟨0, some 0⟩, "", none, none, accentedEvent.aware⟩

/-- A host that sleeps for a century. -/
def centuryLimit : SleepLimit := ⟨(3155760000 : ℚ), by decide +kernel⟩

end Tikblog.Consumer
