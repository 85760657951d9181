import Mathlib.Algebra.Order.BigOperators.Group.List
import Tikblog.Consumer.Delivery

/-!
# The pauses of a delivery

The pause after a failed attempt is the one before it times `backoff_multiplier`, capped at
`backoff_max_seconds`. The cap is applied to the next pause only: the first one is
`backoff_initial_seconds` as it is, so that the pauses are what they should be (`Paced`)
once there is none or the first is within the cap (`deliver_paced_iff`).
-/

namespace Tikblog.Consumer

open Python Contracts Kafka Program

/-- The pauses grow and are capped, and so is the time slept for one message. -/
structure Paced (settings : Settings) (pauses : List Seconds) : Prop where
  growing : pauses.Pairwise (· ≤ ·)
  capped : ∀ pause ∈ pauses, pause ≤ settings.backoffMaxSeconds
  total : pauses.sum ≤ (settings.maxAttempts - 1) • settings.backoffMaxSeconds

section

variable {settings : Settings} {limit : SleepLimit} {event : UnsubscribeEvent} {message : Message}
  {outcomes : Nat → Outcome}

theorem le_mul_multiplier {delay multiplier : Seconds} (positive : 0 ≤ delay) (ge : 1 ≤ multiplier) :
    delay ≤ delay * multiplier := by
  induction delay using WithTop.recTopCoe with
  | top =>
    have nonzero : multiplier ≠ 0 := (zero_lt_one.trans_le ge).ne'
    rw [WithTop.top_mul nonzero]
  | coe d =>
    induction multiplier using WithTop.recTopCoe with
    | top =>
      by_cases zero : d = 0
      · subst zero
        exact (zero_mul _).ge
      · rw [WithTop.mul_top (WithTop.coe_ne_zero.2 zero)]
        exact le_top
    | coe m =>
      rw [← WithTop.coe_mul, WithTop.coe_le_coe]
      exact le_mul_of_one_le_right (WithTop.coe_nonneg.1 positive) (WithTop.one_le_coe.1 ge)

/-- The next pause is no shorter, and within the cap again. -/
theorem le_nextPause {delay : Seconds} (positive : 0 ≤ delay) (capped : delay ≤ settings.backoffMaxSeconds) :
    delay ≤ min (delay * settings.backoffMultiplier) settings.backoffMaxSeconds :=
  le_min (le_mul_multiplier positive settings.backoffMultiplier_ge) capped

/-- From a pause within the cap on, every pause is at least that one and within the cap. -/
theorem pausesFrom_within {left : Nat} {delay : Seconds} (positive : 0 ≤ delay)
    (capped : delay ≤ settings.backoffMaxSeconds) :
    ∀ pause ∈ pausesFrom settings left delay, delay ≤ pause ∧ pause ≤ settings.backoffMaxSeconds := by
  induction left generalizing delay with
  | zero =>
    intro pause member
    cases member
  | succ left ih =>
    intro pause member
    rw [pausesFrom] at member
    have grows := le_nextPause positive capped
    obtain rfl | later := List.mem_cons.1 member
    · exact ⟨le_refl _, capped⟩
    · obtain ⟨above, within⟩ := ih (positive.trans grows) (min_le_right _ _) pause later
      exact ⟨grows.trans above, within⟩

theorem pausesFrom_growing {left : Nat} {delay : Seconds} (positive : 0 ≤ delay)
    (capped : delay ≤ settings.backoffMaxSeconds) : (pausesFrom settings left delay).Pairwise (· ≤ ·) := by
  induction left generalizing delay with
  | zero => exact .nil
  | succ left ih =>
    have grows := le_nextPause positive capped
    rw [pausesFrom, List.pairwise_cons]
    refine ⟨?_, ih (positive.trans grows) (min_le_right _ _)⟩
    intro pause later
    exact grows.trans (pausesFrom_within (positive.trans grows) (min_le_right _ _) pause later).1

/-- The pauses made so far are the first of the pauses of the settings. -/
theorem Paced.of_made {pauses : List Seconds} (made : pauses <+: settings.pauses)
    (capped : settings.backoffInitialSeconds ≤ settings.backoffMaxSeconds) : Paced settings pauses := by
  have positive : 0 ≤ settings.backoffInitialSeconds := settings.backoffInitialSeconds_pos.le
  have within : ∀ pause ∈ pauses, pause ≤ settings.backoffMaxSeconds := fun pause member =>
    (pausesFrom_within positive capped pause (made.subset member)).2
  refine ⟨(pausesFrom_growing positive capped).sublist made.sublist, within, ?_⟩
  have count : pauses.length ≤ settings.maxAttempts - 1 := by
    have shorter := made.length_le
    rwa [Settings.pauses, pausesFrom_length] at shorter
  calc pauses.sum ≤ pauses.length • settings.backoffMaxSeconds := List.sum_le_card_nsmul _ _ within
    _ ≤ (settings.maxAttempts - 1) • settings.backoffMaxSeconds :=
      nsmul_le_nsmul_left settings.backoffMaxSeconds_pos.le count

theorem Paced.nil : Paced settings [] :=
  ⟨.nil, fun _ member => (List.not_mem_nil member).elim, nsmul_nonneg settings.backoffMaxSeconds_pos.le _⟩

/-! ## The run -/

/-- The pauses of a trace that starts with `before` and goes on with the first of `pauses`. -/
def PausesOf (pauses : List Seconds) (before trace : Trace) : Prop :=
  ∃ made, made <+: pauses ∧ Trace.sleeps trace = Trace.sleeps before ++ made

theorem PausesOf.still {pauses : List Seconds} {before trace : Trace} {o : Op}
    (h : PausesOf pauses before trace) (quiet : Trace.sleeps [o] = []) :
    PausesOf pauses before (trace ++ [o]) := by
  obtain ⟨made, first, sleeps⟩ := h
  exact ⟨made, first, by rw [sleeps_append, quiet, List.append_nil, sleeps]⟩

theorem PausesOf.start {pauses : List Seconds} {before : Trace} : PausesOf pauses before before :=
  ⟨[], List.nil_prefix, (List.append_nil _).symm⟩

/-- At every point of the loop. -/
abbrev Pausing (limit : SleepLimit) (outcomes : Nat → Outcome) (pauses : List Seconds) (before : Trace)
    (p : ConsumerM Unit) (trace : Trace) : Prop :=
  Prog.Always (DeliveryExec limit outcomes) (fun _ t => PausesOf pauses before t)
    (fun _ t => PausesOf pauses before t) p trace

theorem park_pauses {pauses : List Seconds} {before trace : Trace} (reason : String) (text : PyStr) (k : Nat)
    (h : PausesOf pauses before trace) :
    Pausing limit outcomes pauses before (park settings message reason text k) trace := by
  unfold park
  cases dlqError text with
  | error e => exact h
  | ok error =>
  refine ⟨h, fun failedAt _ now => ?_⟩
  obtain ⟨rfl, -⟩ := now
  have h := h.still (o := .nowIsoformat) rfl
  refine ⟨h, fun produced _ handed => ?_⟩
  obtain ⟨rfl, -⟩ := handed
  have h := h.still (o := .produce (parkedCopy settings message reason error k failedAt)) rfl
  cases produced with
  | error e => exact h
  | ok _ =>
    refine ⟨h, fun remaining _ flushed => ?_⟩
    obtain ⟨rfl, -⟩ := flushed
    exact h.still rfl

/-- One attempt; `retry` is what a transient failure leads to. -/
theorem attempt_pauses {pauses : List Seconds} {before trace : Trace} {attempt : Nat} {later : List Nat}
    {delay : Seconds} (h : PausesOf pauses before trace)
    (retry : ∀ t, t = trace ++ [.unsubscribe event] → attempt ≠ settings.maxAttempts →
      (outcomes (Trace.calls trace).length).isTransient →
      Pausing limit outcomes pauses before
        (do
          Prog.ofExcept (← call (.sleep delay))
          deliverLoop settings event message later
            (min (delay * settings.backoffMultiplier) settings.backoffMaxSeconds)) t) :
    Pausing limit outcomes pauses before (deliverLoop settings event message (attempt :: later) delay) trace := by
  refine ⟨h, fun answer t called => ?_⟩
  obtain ⟨rfl, answered⟩ := called
  have called := h.still (o := .unsubscribe event) rfl
  rw [Answered] at answered
  subst answered
  cases outcome : outcomes (Trace.calls trace).length with
  | success result => exact called
  | permanentRejection text => exact park_pauses _ _ _ called
  | transientError text =>
    simp only [Outcome.answer, Prog.bind_ok]
    split
    · exact park_pauses _ _ _ called
    · next further => exact retry _ rfl further (by rw [outcome]; rfl)

/-- Whatever the outcomes, the loop makes the pauses in their order and no others. -/
theorem deliverLoop_pauses {left made : Nat} {delay : Seconds} {trace : Trace}
    (budget : made + 1 + left = settings.maxAttempts) :
    Pausing limit outcomes (pausesFrom settings left delay) trace
      (deliverLoop settings event message (List.range' (made + 1) (left + 1)) delay) trace := by
  induction left generalizing made delay trace with
  | zero =>
    apply attempt_pauses .start
    intro t called further transient
    exact absurd budget further
  | succ left ih =>
    apply attempt_pauses .start
    rintro _ rfl further transient
    have started : PausesOf (pausesFrom settings (left + 1) delay) trace trace := .start
    have called := started.still (o := .unsubscribe event) rfl
    refine ⟨called, fun slept t paused => ?_⟩
    obtain ⟨rfl, -⟩ := paused
    have sleeps : Trace.sleeps (trace ++ [.unsubscribe event] ++ [.sleep delay]) =
        Trace.sleeps trace ++ [delay] := by
      simp [Trace.sleeps]
    have longer : ∀ u, PausesOf (pausesFrom settings left
        (min (delay * settings.backoffMultiplier) settings.backoffMaxSeconds))
          (trace ++ [.unsubscribe event] ++ [.sleep delay]) u →
        PausesOf (pausesFrom settings (left + 1) delay) trace u := by
      rintro u ⟨rest, first, after⟩
      refine ⟨delay :: rest, List.cons_prefix_cons.2 ⟨rfl, first⟩, ?_⟩
      rw [after, sleeps, List.append_assoc]
      rfl
    cases slept with
    | error e => exact longer _ .start
    | ok _ => exact (ih (by omega)).mono (fun _ u h => longer u h) fun _ u h => longer u h

/-- A trace that starts without a pause has made the first of `pauses`. -/
theorem Pausing.paced {pauses : List Seconds} {p : ConsumerM Unit} (made : Pausing limit outcomes pauses [] p [])
    (each : ∀ made, made <+: pauses → Paced settings made) :
    Prog.Always (DeliveryExec limit outcomes) (fun _ trace => Paced settings (Trace.sleeps trace))
      (fun _ trace => Paced settings (Trace.sleeps trace)) p [] := by
  have paced : ∀ t, PausesOf pauses [] t → Paced settings (Trace.sleeps t) := by
    rintro t ⟨made, first, sleeps⟩
    rw [sleeps]
    exact each made first
  exact made.mono (fun _ t => paced t) fun _ t => paced t

theorem transientError_of_isTransient {outcome : Outcome} (transient : outcome.isTransient = true) :
    ∃ text, outcome = .transientError text := by
  cases outcome with
  | transientError text => exact ⟨text, rfl⟩
  | success result => cases transient
  | permanentRejection text => cases transient

/-- The first pause is the initial backoff: it is made, and is not above the cap. -/
theorem initial_of_paced
    (paced : Prog.Always (DeliveryExec limit outcomes) (fun _ trace => Paced settings (Trace.sleeps trace))
      (fun _ trace => Paced settings (Trace.sleeps trace)) (deliver settings event message) [])
    (more : settings.maxAttempts ≠ 1) (transient : (outcomes 0).isTransient = true) :
    settings.backoffInitialSeconds ≤ settings.backoffMaxSeconds := by
  obtain ⟨left, budget, pauses, loop⟩ := deliver_eq_loop settings event message
  rw [loop] at paced
  obtain ⟨text, outcome⟩ := transientError_of_isTransient transient
  have answered : Except.error (.transientError text) = (outcomes 0).answer := by
    rw [outcome]
    rfl
  have failed := paced.2 (.error (.transientError text)) _ ⟨rfl, answered⟩
  simp only [Prog.bind_ok] at failed
  rw [if_neg more.symm] at failed
  obtain ⟨slept, answers⟩ := limit.exists_answer settings.backoffInitialSeconds
  have paused := failed.2 slept _ ⟨rfl, answers⟩
  have now := paused.inv_of_run (fun _ _ here => here) (fun _ _ here => here) .refl
  exact now.capped settings.backoffInitialSeconds List.mem_cons_self

end

/-- **When the pauses are what they should be.** For all settings, every host and every
sequence of outcomes, the pauses that `deliver` has made grow and are capped at every point exactly when
the first call is the last one or `backoff_initial_seconds` is within the cap. -/
theorem deliver_paced_iff (settings : Settings) (limit : SleepLimit) (outcomes : Nat → Outcome)
    (event : UnsubscribeEvent) (message : Message) :
    Prog.Always (DeliveryExec limit outcomes) (fun _ trace => Paced settings (Trace.sleeps trace))
        (fun _ trace => Paced settings (Trace.sleeps trace)) (deliver settings event message) [] ↔
      settings.maxAttempts = 1 ∨ (outcomes 0).isTransient = false ∨
        settings.backoffInitialSeconds ≤ settings.backoffMaxSeconds := by
  constructor
  · intro paced
    by_cases single : settings.maxAttempts = 1
    · exact .inl single
    · cases transient : (outcomes 0).isTransient with
      | false => exact .inr (.inl rfl)
      | true => exact .inr (.inr (initial_of_paced paced single transient))
  · intro condition
    obtain ⟨left, budget, pauses, loop⟩ := deliver_eq_loop settings event message
    rw [loop]
    obtain single | settled | capped := condition
    · have none_left : left = 0 := by omega
      subst none_left
      apply (deliverLoop_pauses budget).paced
      intro made first
      rw [List.prefix_nil.1 first]
      exact .nil
    · have nothing : Pausing limit outcomes [] [] (deliverLoop settings event message
          (List.range' (0 + 1) (left + 1)) settings.backoffInitialSeconds) [] := by
        apply attempt_pauses .start
        intro t called further transient
        exact absurd (transient.symm.trans settled) (by decide)
      apply nothing.paced
      intro made first
      rw [List.prefix_nil.1 first]
      exact .nil
    · apply (deliverLoop_pauses budget).paced
      intro made first
      exact .of_made (pauses ▸ first) capped

/-- Settings that the checks accept, with a first pause above the cap of 5 seconds. -/
def Settings.abrupt : Settings :=
  { Settings.defaults with
    backoffInitialSeconds := (10 : ℚ)
    backoffInitialSeconds_pos := by decide +kernel }

/-- The service stays down: 10 seconds are slept, where 5 are the most, and 5 after them. -/
theorem deliver_abrupt_not_paced :
    ¬ Prog.Always (DeliveryExec centuryLimit fun _ => .transientError (PyStr.ofString "HTTP 503"))
      (fun _ trace => Paced Settings.abrupt (Trace.sleeps trace))
      (fun _ trace => Paced Settings.abrupt (Trace.sleeps trace))
      (deliver Settings.abrupt sampleEvent ⟨"unsubscribe-priority", 0, 0, none, some [0], none⟩) [] := by
  intro paced
  have capped := initial_of_paced paced (by decide) rfl
  exact absurd capped (by decide +kernel)

end Tikblog.Consumer
