import Tikblog.Program.Sessions
import Tikblog.Analytics.Attempt

/-!
# The critical sections of the lake

The streams, the Legal job and backfills call `validate_and_merge`, and Gold jobs call
`refresh`; `silver_gold_lock` lets one of them run at a time. A session of the `lake` is one
such critical section. It may stop at any point, and it begins after the clock has ticked.

`session_stage` says once what a section does; invariants of the lake follow from it by
`Reachable.of_stages`.
-/

namespace Tikblog.Analytics

open Python Program

inductive Call where
  | validate (batch : Frame) (runId pipeline : String)
  | refresh (dates : List Date) (runId : String)

def Call.runId : Call → String
  | validate _ runId _ => runId
  | refresh _ runId => runId

def Call.program (env : Env) : Call → LakeM Unit
  | validate batch runId pipeline => validateAndMerge env batch runId pipeline
  | refresh dates runId => Analytics.refresh env dates runId

/-- The tables as `bootstrap` creates them. -/
def World.bootstrap (clock : Instant) : World where
  clock := clock
  silver := ⟨silverColumns, [], by decide, by simp⟩
  gold := []
  quarantine := []
  dqResults := []
  metrics := []
  alerts := []
  checkedAt := clock
  inserted := []

def World.at (s : World) (t : Instant) : World := { s with clock := t }

/-- The lake under the calls `allowed`, with a clock that moves on as `tick` says from one
section to the next. -/
def lake (env : Env) (tick : Instant → Instant → Prop) (allowed : Call → Prop) :
    System Call LakeOp LakeOp.Answer PyException Unit World where
  init s := ∃ t, s = World.bootstrap t
  begins k s s₀ := allowed k ∧ ∃ t, tick s.clock t ∧ s₀ = s.at t
  program := Call.program env
  exec k := LakeExec k.runId

/-! ## The stages of a refresh -/

section Refresh

variable (dates : List Date) (s₀ : World)

/-- The Gold rows of the dates are those of Silver, computed at `updatedAt`. -/
structure Refreshed (updatedAt : Instant) (s : World) : Prop where
  gold : s.gold = replaceDates s₀.gold dates (goldRows (eventsOf s₀.silver.rows dates) updatedAt)
  silver : s.silver = s₀.silver
  quarantine : s.quarantine = s₀.quarantine
  inserted : s.inserted = s₀.inserted
  started : s₀.clock ≤ updatedAt
  clock : updatedAt ≤ s.clock

inductive RefreshStage (s : World) : Prop where
  | begun (h : Begun s₀ s)
  | refreshed {updatedAt : Instant} (h : Refreshed dates s₀ updatedAt s)

/-- Where a refresh that returns has come. -/
def RefreshCompleted (s : World) : Prop :=
  (dates = [] ∧ Begun s₀ s) ∨ ∃ updatedAt, Refreshed dates s₀ updatedAt s

abbrev RefreshEnded (r : Except PyException Unit) (s : World) : Prop :=
  RefreshStage dates s₀ s ∧ (r = .ok () → RefreshCompleted dates s₀ s)

variable {dates s₀}

theorem Refreshed.quiet {updatedAt : Instant} {s t : World} (h : Refreshed dates s₀ updatedAt s)
    (q : Quiet s t) : Refreshed dates s₀ updatedAt t where
  gold := q.gold.trans h.gold
  silver := q.silver.trans h.silver
  quarantine := q.quarantine.trans h.quarantine
  inserted := q.inserted.trans h.inserted
  started := h.started
  clock := le_trans h.clock q.clock

theorem RefreshStage.failed (e : PyException) (s : World) (h : RefreshStage dates s₀ s) :
    RefreshEnded dates s₀ (.error e) s := by
  refine ⟨h, ?_⟩
  intro returned
  cases returned

theorem reportGold_stages {env : Env} {events : List Row} {counts : List GoldRow} {runId : String}
    {updatedAt : Instant} {s : World} (h : Refreshed dates s₀ updatedAt s) :
    Prog.Always (LakeExec runId) (fun _ => RefreshStage dates s₀) (RefreshEnded dates s₀)
      (reportGold env dates events counts runId) s := by
  unfold reportGold
  apply always_call (P := fun _ t => Refreshed dates s₀ updatedAt t) RefreshStage.failed (.refreshed h)
  · intro gold t took
    cases took
    exact h
  · intro _ t ht
    exact .refreshed ht
  intro gold s h
  apply always_reporting (uses_timing (yields_goldResults ..)) (fun _ _ => Refreshed.quiet) RefreshStage.failed h
    (fun _ => RefreshStage.refreshed)
  intro results s h
  apply always_reporting (uses_timing (yields_latencyMetrics ..)) (fun _ _ => Refreshed.quiet) RefreshStage.failed h
    (fun _ => RefreshStage.refreshed)
  intro metrics s h
  apply always_reporting (uses_writeDq ..) (fun _ _ => Refreshed.quiet) RefreshStage.failed h
    (fun _ => RefreshStage.refreshed)
  intro _ s h
  apply always_reports (uses_writeMetrics ..) (fun _ _ => Refreshed.quiet) h fun _ => RefreshStage.refreshed
  intro r t ht
  exact ⟨.refreshed ht, fun _ => .inr ⟨_, ht⟩⟩

/-- **The stages of a refresh.** -/
theorem refresh_stages (env : Env) (dates : List Date) (runId : String) (s₀ : World) :
    Prog.Always (LakeExec runId) (fun _ => RefreshStage dates s₀) (RefreshEnded dates s₀)
      (refresh env dates runId) s₀ := by
  have begun : Begun s₀ s₀ := ⟨rfl, rfl, rfl, rfl, le_refl _⟩
  unfold refresh
  split
  · rename_i empty
    exact ⟨.begun begun, fun _ => .inl ⟨List.isEmpty_iff.1 empty, begun⟩⟩
  apply always_call (P := fun (silver : Frame) t => silver = s₀.silver ∧ Begun s₀ t)
    RefreshStage.failed (.begun begun)
  · intro silver t took
    cases took
    exact ⟨rfl, begun⟩
  · intro _ t ht
    exact .begun ht.2
  rintro _ s ⟨rfl, h⟩
  apply always_call (P := fun (updatedAt : Instant) t => Begun s₀ t ∧ s₀.clock ≤ updatedAt ∧ updatedAt ≤ t.clock)
    RefreshStage.failed (.begun h)
  · intro updatedAt t took
    cases took with
    | currentTimestamp later =>
      have started := le_trans h.clock later
      exact ⟨⟨h.silver, h.gold, h.quarantine, h.inserted, started⟩, started, le_refl _⟩
  · intro _ t ht
    exact .begun ht.1
  rintro updatedAt s ⟨h, started, clock⟩
  apply always_call (P := fun _ t => Refreshed dates s₀ updatedAt t) RefreshStage.failed (.begun h)
  · intro _ t took
    cases took with
    | overwriteGold =>
      exact ⟨by rw [← h.gold], h.silver, h.quarantine, h.inserted, started, clock⟩
  · intro _ t ht
    exact .refreshed ht
  intro _ s h
  exact reportGold_stages h

end Refresh

/-! ## Sections and reachable states -/

/-- What a section has done, by the call it is of. -/
def CallStage (env : Env) (s₀ s : World) : Call → Prop
  | .validate batch runId pipeline => Stage env batch runId pipeline s₀ s
  | .refresh dates _ => RefreshStage dates s₀ s

/-- What a section that returned has done. -/
def CallCompleted (env : Env) (s₀ s : World) : Call → Prop
  | .validate batch runId pipeline => Completed env batch runId pipeline s₀ s
  | .refresh dates _ => RefreshCompleted dates s₀ s

variable {env : Env} {tick : Instant → Instant → Prop} {allowed : Call → Prop}

theorem call_stages (env : Env) (k : Call) (s₀ : World) :
    Prog.Always (LakeExec k.runId) (fun _ s => CallStage env s₀ s k)
      (fun r s => CallStage env s₀ s k ∧ (r = .ok () → CallCompleted env s₀ s k))
      ((lake env tick allowed).program k) s₀ := by
  cases k with
  | validate batch runId pipeline => exact validateAndMerge_stages
  | refresh dates runId => exact refresh_stages env dates runId s₀

/-- **What a section does.** It begins at a tick of the clock; at every point it is in one
of its stages, and where it has returned, in the last. -/
theorem session_stage {k : Call} {s t : World} {p : LakeM Unit}
    (session : (lake env tick allowed).Session k s p t) :
    ∃ begin, allowed k ∧ tick s.clock begin ∧ CallStage env (s.at begin) t k ∧
      (p = .done (.ok ()) → CallCompleted env (s.at begin) t k) := by
  obtain ⟨s₀, ⟨called, begin, ticked, rfl⟩, run⟩ := session
  refine ⟨begin, called, ticked, ?_, ?_⟩
  · exact (call_stages env k _).inv_of_run (fun _ _ h => h) (fun _ _ h => h.1) run
  · rintro rfl
    exact ((call_stages env k _).post_of_run run).2 rfl

/-- The invariant rule of the lake. -/
theorem Reachable.of_stages {I : World → Prop} {s : World} (h : (lake env tick allowed).Reachable s)
    (init : ∀ t, I (World.bootstrap t))
    (step : ∀ k s begin t, I s → allowed k → tick s.clock begin → CallStage env (s.at begin) t k → I t) : I s := by
  induction h with
  | init h =>
    obtain ⟨t, rfl⟩ := h
    exact init t
  | session _ session ih =>
    obtain ⟨begin, called, ticked, stage, _⟩ := session_stage session
    exact step _ _ begin _ ih called ticked stage

/-! ## Played sections -/

/-- The state after a section that `perform` plays, stopped after `n` calls. -/
def World.stopped (s : World) (env : Env) (k : Call) (begin : Instant) (n : Nat) : World :=
  (Prog.evalSteps (perform k.runId) n (k.program env, s.at begin)).2

/-- The state after a section that `perform` plays to its end. -/
def World.played (s : World) (env : Env) (k : Call) (begin : Instant) : World :=
  (Prog.eval (perform k.runId) (k.program env) (s.at begin)).2

theorem Reachable.stopped {s : World} {k : Call} {begin : Instant} (h : (lake env tick allowed).Reachable s)
    (called : allowed k) (ticked : tick s.clock begin) (n : Nat) :
    (lake env tick allowed).Reachable (s.stopped env k begin n) := by
  have sound (o : LakeOp) (t : World) (_ : True) := And.intro (perform_sound k.runId o t) trivial
  exact (System.Reachable.evalSteps h ⟨called, begin, ticked, rfl⟩ sound trivial n).1

theorem session_played {s : World} {k : Call} {begin : Instant} (called : allowed k)
    (ticked : tick s.clock begin) :
    (lake env tick allowed).Session k s
      (.done (Prog.eval (perform k.runId) (k.program env) (s.at begin)).1) (s.played env k begin) :=
  ⟨s.at begin, ⟨called, begin, ticked, rfl⟩, Prog.run_eval (perform_sound k.runId) _ _⟩

/-- A program that `perform` plays to a return. -/
theorem run_returned {runId : String} {p : LakeM Unit} {s : World}
    (returns : (Prog.eval (perform runId) p s).1.isOk = true) :
    Prog.Run (LakeExec runId) (p, s) (.done (.ok ()), (Prog.eval (perform runId) p s).2) := by
  have run := Prog.run_eval (perform_sound runId) p s
  generalize (Prog.eval (perform runId) p s).1 = r at returns run
  cases r with
  | error e => cases returns
  | ok u => exact run

theorem session_returned {s : World} {k : Call} {begin : Instant} (called : allowed k)
    (ticked : tick s.clock begin)
    (returns : (Prog.eval (perform k.runId) (k.program env) (s.at begin)).1.isOk = true) :
    (lake env tick allowed).Session k s (.done (.ok ())) (s.played env k begin) :=
  ⟨s.at begin, ⟨called, begin, ticked, rfl⟩, run_returned returns⟩

end Tikblog.Analytics
