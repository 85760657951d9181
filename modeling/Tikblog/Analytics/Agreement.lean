import Tikblog.Analytics.Alerts
import Tikblog.Analytics.Silver

/-!
# Alerts agree with results

A microbatch is executed under its run id until an execution returns. Its results and its
alerts are written by two inserts that keep what was there; the executions in between may be
stopped anywhere, and others' calls may come between them. The alerts agree with the results
after every execution that returns, as long as each execution is steady when its checks read
the clock.
-/

namespace Tikblog.Analytics

open Python Program Table

/-- The run id belongs to one microbatch of one pipeline. -/
def OwnRun (runId pipeline : String) (batch : Frame) : Call → Prop
  | .validate batch' runId' pipeline' => runId' = runId → batch' = batch ∧ pipeline' = pipeline
  | .refresh _ runId' => runId' ≠ runId

/-- Where the checks of an execution of the run read the clock, it is steady. -/
def Steadily (env : Env) (batch : Frame) (runId pipeline : String) (k : Call) :
    Exec LakeOp LakeOp.Answer World :=
  fun o s a _ => match o, a with
    | .currentTimestamp .checks, .ok now => k.runId = runId → SteadyAt env batch runId pipeline s now
    | _, _ => True

/-- The histories whose executions of the run are steady. -/
def steadyLake (env : Env) (batch : Frame) (runId pipeline : String) :
    System Call LakeOp LakeOp.Answer PyException Unit World :=
  (lake env (· ≤ ·) (OwnRun runId pipeline batch)).restrict (Steadily env batch runId pipeline)

/-! ## What others write -/

section Elsewhere

variable {env : Env} {runId runId' pipeline : String} {s t : World}

/-- Nothing that the agreement looks at. -/
abbrev Elsewhere (runId : String) : LakeOp → Prop :=
  Writes (fun row => row.runId ≠ runId) fun a => a.runId = runId → a.alertType ≠ "DQ"

/-- The same results and DQ alerts of the run. -/
structure SameRun (runId : String) (s t : World) : Prop where
  results : ∀ row, row.runId = runId → (row ∈ t.dqResults ↔ row ∈ s.dqResults)
  alerts : ∀ a, a.runId = runId → a.alertType = "DQ" → (a ∈ t.alerts ↔ a ∈ s.alerts)

theorem SameRun.refl (runId : String) (s : World) : SameRun runId s s :=
  ⟨fun _ _ => Iff.rfl, fun _ _ _ => Iff.rfl⟩

theorem SameRun.trans {u : World} (st : SameRun runId s t) (tu : SameRun runId t u) :
    SameRun runId s u where
  results row own := (tu.results row own).trans (st.results row own)
  alerts a own dq := (tu.alerts a own dq).trans (st.alerts a own dq)

theorem Effect.sameRun {o : LakeOp} {a : o.Result} (elsewhere : Elsewhere runId o)
    (took : Effect runId' o s a t) :
    SameRun runId s t := by
  cases took with
  | insertDqResults =>
    refine ⟨?_, fun _ _ _ => Iff.rfl⟩
    intro row own
    constructor
    · intro member
      obtain old | ⟨new, -⟩ := mem_insertNew.1 member
      · exact old
      · exact absurd own (elsewhere row new)
    · exact fun old => mem_insertNew.2 (.inl old)
  | insertAlerts =>
    refine ⟨fun _ _ => Iff.rfl, ?_⟩
    intro a own dq
    constructor
    · intro member
      obtain old | ⟨new, -⟩ := mem_insertNew.1 member
      · exact old
      · exact absurd dq (elsewhere a new own)
    · exact fun old => mem_insertNew.2 (.inl old)
  | _ => exact ⟨fun _ _ => Iff.rfl, fun _ _ _ => Iff.rfl⟩

theorem LakeExec.sameRun {o : LakeOp} {a : o.Answer} (elsewhere : Elsewhere runId o)
    (performed : LakeExec runId' o s a t) : SameRun runId s t := by
  cases performed with
  | answered took => exact took.sameRun elsewhere
  | raised => exact SameRun.refl runId s
  | lost took => exact took.sameRun elsewhere

theorem SameRun.alert (same : SameRun runId s t) {source check : String} {a : AlertRow}
    (about : DqAlert runId pipeline source check a) : a ∈ t.alerts ↔ a ∈ s.alerts :=
  same.alerts a about.runId about.alertType

theorem SameRun.result (same : SameRun runId s t) {source check : String} {row : DqResult}
    (key : row.key = (runId, source, check)) : row ∈ t.dqResults ↔ row ∈ s.dqResults :=
  same.results row (congrArg Prod.fst key)

/-- The run is consistent in a state. -/
abbrev ConsistentIn (env : Env) (runId pipeline : String) (s : World) : Prop :=
  Consistent env runId pipeline s.dqResults s.alerts

/-- The alerts of the run agree with its results in a state. -/
abbrev AgreeIn (runId pipeline : String) (s : World) : Prop := Agree runId pipeline s.dqResults s.alerts

theorem SameRun.consistent (same : SameRun runId s t) (h : ConsistentIn env runId pipeline s) :
    ConsistentIn env runId pipeline t where
  loud source check a member about := h.loud source check a ((same.alert about).1 member) about
  named source check a member about := h.named source check a ((same.alert about).1 member) about
  stored source check a member about := by
    obtain ⟨row, present, key⟩ := h.stored source check a ((same.alert about).1 member) about
    exact ⟨row, (same.result key).2 present, key⟩
  severity source check a member about row present key :=
    h.severity source check a ((same.alert about).1 member) about row ((same.result key).1 present) key

theorem SameRun.agree (same : SameRun runId s t) (h : AgreeIn runId pipeline s) :
    AgreeIn runId pipeline t where
  alerted source check := by
    constructor
    · rintro ⟨a, member, about⟩
      obtain ⟨row, present, key, loud⟩ := (h.alerted source check).1 ⟨a, (same.alert about).1 member, about⟩
      exact ⟨row, (same.result key).2 present, key, loud⟩
    · rintro ⟨row, present, key, loud⟩
      obtain ⟨a, member, about⟩ := (h.alerted source check).2 ⟨row, (same.result key).1 present, key, loud⟩
      exact ⟨a, (same.alert about).2 member, about⟩
  severity source check a member about row present key :=
    h.severity source check a ((same.alert about).1 member) about row ((same.result key).1 present) key

/-- A call of another run. -/
theorem yields_elsewhere {k : Call} (other : k.runId ≠ runId) :
    (k.program env).Yields (Elsewhere runId) fun _ => True := by
  have under : (k.program env).Yields (Under k.runId) fun _ => True := by
    cases k with
    | validate batch runId' pipeline' => exact yields_validateAndMerge
    | refresh dates runId' => exact yields_refresh
  apply under.mono (Writes.mono ?_ ?_) fun _ h => h
  · intro row own same
    exact other (own.symm.trans same)
  · intro a own same
    exact absurd (own.symm.trans same) other

end Elsewhere

/-! ## An execution of the run -/

section Execution

variable {env : Env} {batch : Frame} {runId pipeline : String} {s₀ s t : World}

/-- The run has written nothing since `s₀`. -/
structure Unwritten (s₀ s : World) : Prop where
  silver : s.silver = s₀.silver
  results : s.dqResults = s₀.dqResults
  alerts : s.alerts = s₀.alerts

theorem Unwritten.consistent (h : Unwritten s₀ s) (consistent : ConsistentIn env runId pipeline s₀) :
    ConsistentIn env runId pipeline s := by
  unfold ConsistentIn
  rw [h.results, h.alerts]
  exact consistent

/-- How an execution ends. -/
abbrev Reported (env : Env) (runId pipeline : String) (r : Except PyException Unit) (s : World) : Prop :=
  ConsistentIn env runId pipeline s ∧ (r = .ok () → AgreeIn runId pipeline s)

theorem reported_failed (e : PyException) (s : World) (h : ConsistentIn env runId pipeline s) :
    Reported env runId pipeline (.error e) s :=
  ⟨h, fun returned => by cases returned⟩

section Rules

variable {α β : Type} {Q : Except PyException α → World → Prop} {R : β → Prop}

/-- A part that computes reports, then the rest. -/
theorem always_timing {p : LakeM β} {f : β → LakeM α} (yields : p.Yields Timing R)
    (consistent : ConsistentIn env runId pipeline s₀) (h : Unwritten s₀ s)
    (fails : ∀ e t, ConsistentIn env runId pipeline t → Q (.error e) t)
    (next : ∀ b t, R b → Unwritten s₀ t →
      Prog.Always (LakeExec runId) (fun _ => ConsistentIn env runId pipeline) Q (f b) t) :
    Prog.Always (LakeExec runId) (fun _ => ConsistentIn env runId pipeline) Q (p.bind f) s :=
  always_timed yields (fun _ _ h => ⟨h.silver, h.results, h.alerts⟩) fails h
    (fun _ h => h.consistent consistent) next

/-- A call that leaves Silver and the monitoring tables alone, then the rest. -/
theorem always_unwritten_call {o : LakeOp} {f : o.Result → LakeM α} (P : o.Result → Prop)
    (consistent : ConsistentIn env runId pipeline s₀) (h : Unwritten s₀ s)
    (fails : ∀ e t, ConsistentIn env runId pipeline t → Q (.error e) t)
    (effect : ∀ a t, Effect runId o s a t → P a ∧ Unwritten s₀ t)
    (next : ∀ a t, P a → Unwritten s₀ t →
      Prog.Always (LakeExec runId) (fun _ => ConsistentIn env runId pipeline) Q (f a) t) :
    Prog.Always (LakeExec runId) (fun _ => ConsistentIn env runId pipeline) Q ((call o).bind f) s := by
  apply always_call (P := fun a t => P a ∧ Unwritten s₀ t) fails (h.consistent consistent) effect
  · exact fun _ t ht => ht.2.consistent consistent
  · exact fun a t ht => next a t ht.1 ht.2

end Rules

/-- The first insert of `write_dq`: the results join those of the run. -/
theorem always_storeResults {reports : List DqReport} (consistent : ConsistentIn env runId pipeline s₀)
    (h : Unwritten s₀ s) :
    Prog.Always (LakeExec runId) (fun _ => ConsistentIn env runId pipeline)
      (fun r t => ConsistentIn env runId pipeline t ∧
        (r = .ok () → Unwritten { s₀ with dqResults := storedResults s₀.dqResults reports } t))
      (records (fun rows => call (.insertDqResults rows)) (reports.map (·.toDqResult))) s := by
  have before := h.consistent consistent
  unfold records
  split
  · rename_i empty
    rw [List.isEmpty_iff, List.map_eq_nil_iff] at empty
    subst empty
    exact ⟨before, fun _ => ⟨h.silver, h.results.trans (List.append_nil _).symm, h.alerts⟩⟩
  · apply always_called before fun e => ⟨before, fun returned => by cases returned⟩
    intro _ t took
    cases took
    have stored : Unwritten { s₀ with dqResults := storedResults s₀.dqResults reports }
        { s with dqResults := storedResults s.dqResults reports } :=
      ⟨h.silver, congrArg (storedResults · reports) h.results, h.alerts⟩
    have after :
        ConsistentIn env runId pipeline { s with dqResults := storedResults s.dqResults reports } :=
      stored.consistent consistent.store
    exact ⟨⟨after, fun _ => stored⟩, fun e => ⟨after, fun returned => by cases returned⟩⟩

/-- The second insert of `write_dq`: the alerts join those of the run. -/
theorem always_storeAlerts {s₁ : World} {emitted : List AlertRow}
    (consistent : ConsistentIn env runId pipeline s₁)
    (emits : Consistent env runId pipeline s₁.dqResults (insertNew AlertRow.key s₁.alerts emitted))
    (agrees : Agree runId pipeline s₁.dqResults (insertNew AlertRow.key s₁.alerts emitted))
    (h : Unwritten s₁ s) :
    Prog.Always (LakeExec runId) (fun _ => ConsistentIn env runId pipeline) (Reported env runId pipeline)
      (records (fun rows => call (.insertAlerts rows)) emitted) s := by
  have before := h.consistent consistent
  unfold records
  split
  · rename_i empty
    rw [List.isEmpty_iff] at empty
    subst empty
    have same : insertNew AlertRow.key s₁.alerts [] = s₁.alerts := List.append_nil _
    rw [same] at agrees
    refine ⟨before, fun _ => ?_⟩
    unfold AgreeIn
    rw [h.results, h.alerts]
    exact agrees
  · apply always_called before fun e => reported_failed e s before
    intro _ t took
    cases took
    have results : ({ s with alerts := insertNew AlertRow.key s.alerts emitted } : World).dqResults =
        s₁.dqResults := h.results
    have alerts : ({ s with alerts := insertNew AlertRow.key s.alerts emitted } : World).alerts =
        insertNew AlertRow.key s₁.alerts emitted := congrArg (insertNew AlertRow.key · emitted) h.alerts
    have after :
        ConsistentIn env runId pipeline { s with alerts := insertNew AlertRow.key s.alerts emitted } := by
      unfold ConsistentIn
      rw [results, alerts]
      exact emits
    refine ⟨⟨after, fun _ => ?_⟩, fun e => reported_failed e _ after⟩
    unfold AgreeIn
    rw [results, alerts]
    exact agrees

/-- The two inserts of `write_dq`. -/
theorem writeDq_reports {found : List Finding} {reports : List DqReport}
    (consistent : ConsistentIn env runId pipeline s₀)
    (steady : Steady env runId pipeline s₀.dqResults s₀.alerts found)
    (written : Reports runId pipeline found reports) (h : Unwritten s₀ s) :
    Prog.Always (LakeExec runId) (fun _ => ConsistentIn env runId pipeline) (Reported env runId pipeline)
      (writeDq env reports) s := by
  apply (always_storeResults consistent h).seq
  rintro (e | ⟨⟩) t ⟨kept, stored⟩
  · exact reported_failed e t kept
  apply always_timing (yields_alerts ..) consistent.store (stored rfl) reported_failed
  intro emitted u each stored
  exact always_storeAlerts consistent.store (consistent.emit steady written each)
    (consistent.agree steady written each) stored

/-- After the results and the alerts, the rest of an execution leaves both alone. -/
theorem mergeAccepted_reports {valid : Frame} (consistent : ConsistentIn env runId pipeline s)
    (agree : AgreeIn runId pipeline s) :
    Prog.Always (LakeExec runId) (fun _ => ConsistentIn env runId pipeline) (Reported env runId pipeline)
      (mergeAccepted env valid runId pipeline) s := by
  have kept : Prog.Always (LakeExec runId)
      (fun _ t => ConsistentIn env runId pipeline t ∧ AgreeIn runId pipeline t)
      (fun _ t => ConsistentIn env runId pipeline t ∧ AgreeIn runId pipeline t)
      (mergeAccepted env valid runId pipeline) s := by
    apply Prog.Always.of_uses (P := Elsewhere runId) _ (fun _ _ _ h => h) _ ⟨consistent, agree⟩
    · intro o elsewhere s a t h performed
      have same := performed.sameRun elsewhere
      exact ⟨same.consistent h.1, same.agree h.2⟩
    · apply (yields_mergeAccepted.mono (Writes.mono (fun _ absurd => absurd.elim) _) fun _ h => h).uses
      intro a metric _ dq
      rw [metric.2] at dq
      exact absurd dq (by decide)
  apply kept.mono
  · exact fun _ t h => h.1
  · exact fun _ t h => ⟨h.1, fun _ => h.2⟩

/-- From the checks of an execution that is steady where they read the clock. -/
theorem acceptValid_reports {now : Instant} {results : List DqReport}
    (consistent : ConsistentIn env runId pipeline s₀) (steady : SteadyAt env batch runId pipeline s₀ now)
    (checked : Reports runId pipeline (checkFindings env (checkedRows now (conformed env batch s₀))) results)
    (h : Unwritten s₀ s) :
    Prog.Always (LakeExec runId) (fun _ => ConsistentIn env runId pipeline) (Reported env runId pipeline)
      (acceptValid env (validFrame now (conformed env batch s₀)) results runId pipeline) s := by
  unfold acceptValid
  apply always_timing (yields_duplicateResults ..) consistent h reported_failed
  intro inBatch s own_inBatch h
  apply always_unwritten_call (· = s₀.silver) consistent h reported_failed
  · intro existing t took
    cases took
    exact ⟨h.silver, h⟩
  rintro _ s rfl h
  apply always_unwritten_call
    (fun unique : Frame => DistinctBy (· .eventId) (validFrame now (conformed env batch s₀)).rows unique.rows)
    consistent h reported_failed
  · intro unique t took
    cases took with
    | dropDuplicates schema distinct => exact ⟨distinct, h⟩
  intro unique s distinct h
  apply always_timing (yields_duplicateResults ..) consistent h reported_failed
  intro inSilver s own_inSilver h
  have written : Reports runId pipeline (findings env s₀.silver batch now unique) (results ++ inBatch ++ inSilver) :=
    (checked.append own_inBatch).append own_inSilver
  apply (writeDq_reports consistent (steady unique distinct) written h).seq
  rintro (e | ⟨⟩) t ⟨kept, agree⟩
  · exact reported_failed e t kept
  · exact mergeAccepted_reports kept (agree rfl)

/-! ## The calls before the checks -/

/-- **A steady execution reports.** -/
theorem validateBatch_reports (consistent : ConsistentIn env runId pipeline s) :
    Prog.Always (Keeping runId (Steadily env batch runId pipeline (.validate batch runId pipeline)))
      (fun _ => ConsistentIn env runId pipeline) (Reported env runId pipeline)
      (validateBatch env batch runId pipeline) s := by
  have h : Unwritten s s := ⟨rfl, rfl, rfl⟩
  unfold validateBatch
  apply always_kept_call reported_failed consistent
  · intro silver t took
    cases took
    exact consistent
  intro silver t took _
  cases took
  apply always_require reported_failed consistent
  apply always_kept_call reported_failed consistent
  · intro now t took
    cases took
    exact consistent
  intro now t took steady
  have h : Unwritten s t := by
    cases took
    exact ⟨rfl, rfl, rfl⟩
  have steady : SteadyAt env batch runId pipeline s now := steady rfl
  apply Prog.Always.of_le fun _ _ _ _ kept => kept.1
  apply always_timing (yields_checkResults ..) consistent h reported_failed
  intro results t checked h
  apply always_require reported_failed (h.consistent consistent)
  apply always_unwritten_call (fun _ => True) consistent h reported_failed
  · intro quarantinedAt u took
    cases took
    exact ⟨trivial, h.silver, h.results, h.alerts⟩
  intro quarantinedAt t _ h
  apply always_unwritten_call (fun _ => True) consistent h reported_failed
  · intro _ u took
    cases took
    exact ⟨trivial, h.silver, h.results, h.alerts⟩
  intro _ t _ h
  exact acceptValid_reports consistent steady checked h

end Execution

/-! ## Every execution -/

/-- The run at every point of every history: an empty microbatch has no results. -/
structure RunState (env : Env) (batch : Frame) (runId pipeline : String) (s : World) : Prop where
  consistent : ConsistentIn env runId pipeline s
  empty : batch.rows = [] → ∀ row ∈ s.dqResults, row.runId ≠ runId

section Every

variable {env : Env} {batch : Frame} {runId pipeline : String} {s t : World}

theorem SameRun.runState (same : SameRun runId s t) (h : RunState env batch runId pipeline s) :
    RunState env batch runId pipeline t where
  consistent := same.consistent h.consistent
  empty no_rows row member own := h.empty no_rows row ((same.results row own).1 member) own

/-- A run without results has no alerts. -/
theorem RunState.agree_of_empty (h : RunState env batch runId pipeline s) (no_rows : batch.rows = []) :
    AgreeIn runId pipeline s where
  alerted source check := by
    constructor
    · rintro ⟨a, member, about⟩
      obtain ⟨row, present, key⟩ := h.consistent.stored source check a member about
      exact absurd (congrArg Prod.fst key) (h.empty no_rows row present)
    · rintro ⟨row, present, key, _⟩
      exact absurd (congrArg Prod.fst key) (h.empty no_rows row present)
  severity _ _ _ _ _ row present key := absurd (congrArg Prod.fst key) (h.empty no_rows row present)

/-- What a section of the run reports where it returns. -/
def CallReported (runId pipeline : String) (k : Call) (r : Except PyException Unit) (s : World) : Prop :=
  k.runId = runId → r = .ok () → AgreeIn runId pipeline s

/-- Every section keeps the run, and one of the run that returns leaves it reported. -/
theorem section_reports {k : Call} (own : OwnRun runId pipeline batch k)
    (h : RunState env batch runId pipeline s) :
    Prog.Always ((steadyLake env batch runId pipeline).exec k) (fun _ => RunState env batch runId pipeline)
      (fun r t => RunState env batch runId pipeline t ∧ CallReported runId pipeline k r t)
      ((steadyLake env batch runId pipeline).program k) s := by
  by_cases mine : k.runId = runId
  · cases k with
    | refresh dates runId' => exact absurd mine own
    | validate batch' runId' pipeline' =>
      obtain rfl : runId' = runId := mine
      obtain ⟨rfl, rfl⟩ := own rfl
      change Prog.Always (Keeping runId' (Steadily env batch' runId' pipeline' (.validate batch' runId' pipeline')))
        _ _ (validateAndMerge env batch' runId' pipeline') s
      unfold validateAndMerge
      split
      · rename_i empty
        exact ⟨h, fun _ _ => h.agree_of_empty (List.isEmpty_iff.1 empty)⟩
      · rename_i filled
        have state (t : World) (ht : ConsistentIn env runId' pipeline' t) : RunState env batch' runId' pipeline' t :=
          ⟨ht, fun no_rows => absurd (List.isEmpty_iff.2 no_rows) filled⟩
        apply (validateBatch_reports h.consistent).mono
        · exact fun _ t ht => state t ht
        · exact fun r t ht => ⟨state t ht.1, fun _ => ht.2⟩
  · have kept : Prog.Always (LakeExec k.runId) (fun _ => RunState env batch runId pipeline)
        (fun _ => RunState env batch runId pipeline) (k.program env) s := by
      apply Prog.Always.of_uses _ (fun _ _ _ ht => ht) (yields_elsewhere mine).uses h
      intro o elsewhere s a t ht performed
      exact (performed.sameRun elsewhere).runState ht
    apply Prog.Always.of_le fun _ _ _ _ steady => steady.1
    apply kept.mono
    · exact fun _ _ ht => ht
    · exact fun r t ht => ⟨ht, fun same => absurd same mine⟩

theorem sameRun_at (s : World) (begin : Instant) : SameRun runId s (s.at begin) :=
  ⟨fun _ _ => Iff.rfl, fun _ _ _ => Iff.rfl⟩

theorem runState_of_reachable (h : (steadyLake env batch runId pipeline).Reachable s) :
    RunState env batch runId pipeline s := by
  apply h.invariant
  · rintro _ ⟨t, rfl⟩
    constructor
    · constructor <;> (intro source check a member; cases member)
    · intro _ row member
      cases member
  · rintro k s _ hs ⟨own, begin, _, rfl⟩
    apply (section_reports own ((sameRun_at s begin).runState hs)).mono
    · exact fun _ _ ht => ht
    · exact fun _ _ ht => ht.1

/-- A section of another run. -/
def OtherSection (env : Env) (batch : Frame) (runId pipeline : String) (s t : World) : Prop :=
  ∃ k p, k.runId ≠ runId ∧ (steadyLake env batch runId pipeline).Session k s p t

theorem OtherSection.sameRun (other : OtherSection env batch runId pipeline s t) : SameRun runId s t := by
  obtain ⟨k, p, foreign, s₀, ⟨_, begin, _, rfl⟩, run⟩ := other
  have kept : Prog.Always (LakeExec k.runId) (fun _ u => SameRun runId s u) (fun _ u => SameRun runId s u)
      (k.program env) (s.at begin) := by
    apply Prog.Always.of_uses _ (fun _ _ _ hu => hu) (yields_elsewhere foreign).uses (sameRun_at s begin)
    intro o elsewhere u a v same performed
    exact same.trans (performed.sameRun elsewhere)
  have steadily : Prog.Always ((steadyLake env batch runId pipeline).exec k) (fun _ u => SameRun runId s u)
      (fun _ u => SameRun runId s u) (k.program env) (s.at begin) :=
    kept.of_le fun _ _ _ _ steady => steady.1
  exact steadily.inv_of_run (fun _ _ same => same) (fun _ _ same => same) run

/-- **DQ alerts agree with DQ results.** In a history in which the executions under the run
id are steady where their checks read the clock, once one returns, and while only others
follow, there is an alert of the run for a source and check exactly when its result is YELLOW
or RED, with the severity of the result. -/
theorem alerts_agree {before after now : World} (h : (steadyLake env batch runId pipeline).Reachable before)
    (returned : (steadyLake env batch runId pipeline).Session (.validate batch runId pipeline) before
      (.done (.ok ())) after)
    (followed : Relation.ReflTransGen (OtherSection env batch runId pipeline) after now) :
    AgreeIn runId pipeline now := by
  induction followed with
  | refl =>
    obtain ⟨s₀, ⟨own, begin, _, rfl⟩, run⟩ := returned
    have state := (sameRun_at before begin).runState (runState_of_reachable h)
    exact ((section_reports own state).post_of_run run).2 rfl rfl
  | tail _ other agree => exact other.sameRun.agree agree

end Every

/-- Without alerts, findings of different names that include what is stored are steady. -/
theorem Steady.of_stored {env : Env} {runId pipeline : String} {results : List DqResult}
    {found : List Finding}
    (names : ∀ f ∈ found, ∀ f' ∈ found, f'.source = f.source → f'.checkName = f.checkName → f' = f)
    (stored : ∀ row ∈ results, (⟨row.source, row.checkName, row.status⟩ : Finding) ∈ found) :
    Steady env runId pipeline results [] found where
  unchanged f f_in _ row present key _ := by
    simp only [DqResult.key, Prod.mk.injEq] at key
    exact congrArg Finding.status (names f f_in _ (stored row present) key.2.1 key.2.2)
  again row present _ _ _ := ⟨_, stored row present, rfl, rfl⟩
  single f f_in f' f'_in source check _ _ := congrArg Finding.status (names f f_in f' f'_in source check)
  free _ _ _ _ member := by cases member

/-! ## The record of the demo -/

theorem demoCall_ownRun : OwnRun "run" "priority_bronze_to_silver" demoBatch demoCall := fun _ => ⟨rfl, rfl⟩

/-- The first execution stops after the merge. -/
def demoMerged : World := (World.bootstrap 0).stopped demoEnv demoCall 20 20

/-- The second finds the record in Silver. -/
def demoRepeated : World := demoMerged.played demoEnv demoCall 20

/-- **An alert without a result.** The first results are kept, and the alerts are those of the
second execution. -/
theorem merged_record_alerted :
    ∃ before after, (lake demoEnv (· ≤ ·) (OwnRun "run" "priority_bronze_to_silver" demoBatch)).Reachable before ∧
      (lake demoEnv (· ≤ ·) (OwnRun "run" "priority_bronze_to_silver" demoBatch)).Session demoCall before
        (.done (.ok ())) after ∧
      ¬ Agree "run" "priority_bronze_to_silver" after.dqResults after.alerts := by
  have reachable : (lake demoEnv (· ≤ ·) (OwnRun "run" "priority_bronze_to_silver" demoBatch)).Reachable
      demoMerged := Reachable.stopped (.init ⟨0, rfl⟩) demoCall_ownRun (by decide) 20
  have session : (lake demoEnv (· ≤ ·) (OwnRun "run" "priority_bronze_to_silver" demoBatch)).Session demoCall
      demoMerged (.done (.ok ())) demoRepeated :=
    session_returned demoCall_ownRun (by decide +kernel) (by decide +kernel)
  refine ⟨demoMerged, demoRepeated, reachable, session, ?_⟩
  intro agree
  have alerted : ∃ a ∈ demoRepeated.alerts, a.alertType = "DQ" ∧ a.runId = "run" ∧
      a.pipelineName = "priority_bronze_to_silver" ∧ a.source = some "UI" ∧
      a.metricName = "duplicate_event_id_already_in_silver" := by decide +kernel
  have green : ∀ row ∈ demoRepeated.dqResults, ¬ row.status.Loud := by decide +kernel
  obtain ⟨a, member, kind, run, pipe, source, check⟩ := alerted
  obtain ⟨row, present, -, loud⟩ := (agree.alerted "UI" "duplicate_event_id_already_in_silver").1
    ⟨a, member, kind, run, pipe, source, check⟩
  exact green row present loud

/-- What the checks find at 5, ahead of the record's date. -/
def demoFound : List Finding :=
  checkFindings demoEnv (checkedRows 5 (conform demoEnv silverColumns demoBatch))

/-- `perform`, for executions whose checks read 5 before any alert is written. -/
def performSteadily : (o : LakeOp) → World → Option (o.Answer × World)
  | .currentTimestamp .checks, s =>
    if s.clock = 5 ∧ s.silver.schema = silverColumns ∧ s.alerts = [] ∧
        ∀ row ∈ s.dqResults, (⟨row.source, row.checkName, row.status⟩ : Finding) ∈ demoFound then
      some (perform "run" (.currentTimestamp .checks) s)
    else none
  | o, s => some (perform "run" o s)

theorem demo_steadyAt {s : World} (schema : s.silver.schema = silverColumns) (alerts : s.alerts = [])
    (stored : ∀ row ∈ s.dqResults, (⟨row.source, row.checkName, row.status⟩ : Finding) ∈ demoFound) :
    SteadyAt demoEnv demoBatch "run" "priority_bronze_to_silver" s 5 := by
  intro unique _
  have nothing : (validFrame 5 (conform demoEnv silverColumns demoBatch)).rows = [] :=
    List.isEmpty_iff.1 (by decide +kernel)
  have found : findings demoEnv s.silver demoBatch 5 unique = demoFound := by
    unfold findings
    rw [schema, nothing]
    exact (List.append_nil _).trans (List.append_nil _)
  rw [found, alerts]
  exact Steady.of_stored (by decide +kernel) stored

theorem performSteadily_sound (o : LakeOp) (s : World) (a : o.Answer) (t : World)
    (answered : performSteadily o s = some (a, t)) :
    (steadyLake demoEnv demoBatch "run" "priority_bronze_to_silver").exec demoCall o s a t := by
  unfold performSteadily at answered
  split at answered
  · split at answered
    · rename_i steady
      cases answered
      obtain ⟨clock, schema, alerts, stored⟩ := steady
      refine ⟨perform_sound "run" (.currentTimestamp .checks) s, fun _ => ?_⟩
      rw [clock]
      exact demo_steadyAt schema alerts stored
    · cases answered
  · rename_i other
    have performed := perform_sound "run" o s
    rw [Option.some.inj answered] at performed
    refine ⟨performed, ?_⟩
    unfold Steadily
    split
    · exact (other rfl).elim
    · trivial

/-- The first execution at 5 stops between the two inserts. -/
def demoUnalerted : World := (Prog.play performSteadily 15 (demoCall.program demoEnv, (World.bootstrap 0).at 5)).2

def demoAlerted : World := (Prog.play performSteadily 40 (demoCall.program demoEnv, demoUnalerted.at 5)).2

theorem alerts_agree_resumed :
    demoUnalerted.alerts = [] ∧ (∃ row ∈ demoUnalerted.dqResults, row.status.Loud) ∧
      Agree "run" "priority_bronze_to_silver" demoAlerted.dqResults demoAlerted.alerts := by
  have start : (steadyLake demoEnv demoBatch "run" "priority_bronze_to_silver").Reachable (World.bootstrap 0) :=
    .init ⟨0, rfl⟩
  have stopped : (steadyLake demoEnv demoBatch "run" "priority_bronze_to_silver").Reachable demoUnalerted :=
    start.play (k := demoCall) ⟨demoCall_ownRun, 5, by decide, rfl⟩ performSteadily_sound 15
  have begins : (steadyLake demoEnv demoBatch "run" "priority_bronze_to_silver").begins demoCall demoUnalerted
      (demoUnalerted.at 5) := ⟨demoCall_ownRun, 5, by decide +kernel, rfl⟩
  have resumed : (steadyLake demoEnv demoBatch "run" "priority_bronze_to_silver").Session demoCall demoUnalerted
      (Prog.play performSteadily 40 (demoCall.program demoEnv, demoUnalerted.at 5)).1 demoAlerted :=
    System.session_play begins performSteadily_sound 40
  obtain ⟨⟨⟩, returned⟩ := Prog.eq_of_isOk (p := (Prog.play performSteadily 40
    (demoCall.program demoEnv, demoUnalerted.at 5)).1) (by decide +kernel)
  rw [returned] at resumed
  exact ⟨List.isEmpty_iff.1 (by decide +kernel), by decide +kernel, alerts_agree stopped resumed .refl⟩

end Tikblog.Analytics
