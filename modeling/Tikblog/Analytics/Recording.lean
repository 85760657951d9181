import Tikblog.Analytics.Attempt

/-!
# When the results of an attempt are written

`write_dq` comes before the merge. At every point of an attempt either it has written no
results, and then it has not merged either, or all its results are written, computed from the
Silver it began with.
-/

namespace Tikblog.Analytics

open Python Program Table

/-- The results are written and the checks have read their time: neither happens again. -/
def Settled : LakeOp → Prop
  | .insertDqResults _ => False
  | .currentTimestamp purpose => purpose ≠ .checks
  | _ => True

theorem Timing.settled {o : LakeOp} (timing : Timing o) : Settled o := by
  cases timing
  trivial

theorem LakeExec.settled {runId : String} {o : LakeOp} {s t : World} {a : o.Answer} (settled : Settled o)
    (performed : LakeExec runId o s a t) : t.dqResults = s.dqResults ∧ t.checkedAt = s.checkedAt := by
  cases performed with
  | raised => exact ⟨rfl, rfl⟩
  | answered took | lost took =>
    cases took with
    | insertDqResults => exact settled.elim
    | currentTimestamp =>
      have other : _ ≠ Reading.checks := settled
      simp [other]
    | _ => exact ⟨rfl, rfl⟩

theorem settled_emitAlerts (env : Env) (rows : List Report) (kind : String) :
    (emitAlerts env rows kind).Uses Settled := by
  unfold emitAlerts
  refine Prog.Uses.bind (Prog.Uses.mapEach ?_ _) fun alerts => uses_records (uses_call trivial)
  intro row
  exact Prog.Uses.bind (uses_call trivial) fun _ => trivial

theorem settled_mergeAccepted (env : Env) (valid : Frame) (runId pipeline : String) :
    (mergeAccepted env valid runId pipeline).Uses Settled := by
  unfold mergeAccepted
  apply Prog.Uses.bind (uses_call trivial)
  intro unique
  apply Prog.Uses.bind (uses_call nofun)
  intro processedAt
  apply Prog.Uses.bind (uses_call trivial)
  intro _
  apply Prog.Uses.bind yields_require.uses
  intro _
  apply Prog.Uses.bind ((yields_latencyMetrics ..).uses.mono fun _ => Timing.settled)
  intro metrics
  exact Prog.Uses.bind (uses_records (uses_call trivial)) fun _ => settled_emitAlerts ..

section Rules

variable {env : Env} {runId : String} {α : Type} {G J : World → Prop}

/-- What is written stays so to the end. -/
theorem always_settled {p : LakeM α} {s : World}
    (stable : ∀ s t, J s → t.dqResults = s.dqResults → t.checkedAt = s.checkedAt → J t)
    (uses : p.Uses Settled) (h : J s) : Prog.Always (LakeExec runId) (fun _ => J) (fun _ => J) p s := by
  apply Prog.Always.of_uses _ (fun _ _ _ h => h) uses h
  intro o settled s a t h performed
  obtain ⟨results, checkedAt⟩ := performed.settled settled
  exact stable s t h results checkedAt

/-- The two inserts of `write_dq`. `J` is what holds once the results are written. -/
theorem always_writeDq {reports : List DqReport} {s : World}
    (stable : ∀ s t, J s → t.dqResults = s.dqResults → t.checkedAt = s.checkedAt → J t) (hs : G s)
    (written : J { s with dqResults := insertNew DqResult.key s.dqResults (reports.map (·.toDqResult)) })
    (guard : ∀ t, J t → G t) :
    Prog.Always (LakeExec runId) (fun _ => G) (fun r t => G t ∧ (r = .ok () → J t))
      (writeDq env reports) s := by
  have insert : Prog.Always (LakeExec runId) (fun _ => G) (fun r t => G t ∧ (r = .ok () → J t))
      (records (fun rows => call (.insertDqResults rows)) (reports.map (·.toDqResult))) s := by
    unfold records
    split
    · rename_i empty
      rw [List.isEmpty_iff] at empty
      refine ⟨hs, fun _ => stable _ s written ?_ rfl⟩
      rw [empty]
      exact (List.append_nil _).symm
    · apply always_called hs fun e => ⟨hs, fun returned => by cases returned⟩
      intro _ t took
      cases took
      exact ⟨⟨guard _ written, fun _ => written⟩,
        fun e => ⟨guard _ written, fun returned => by cases returned⟩⟩
  apply insert.seq
  rintro (e | ⟨⟩) t ⟨ht, wrote⟩
  · exact ⟨ht, fun returned => by cases returned⟩
  · exact (always_settled stable (settled_emitAlerts ..) (wrote rfl)).mono (fun _ _ h => guard _ h)
      fun _ _ h => ⟨guard _ h, fun _ => h⟩

end Rules

/-! ## The two stages -/

section Stages

variable (env : Env) (batch : Frame) (runId pipeline : String) (N : Instant → Prop) (s₀ : World)

/-- No results are written, and nothing is merged. -/
structure Unrecorded (s : World) : Prop where
  silver : s.silver = s₀.silver
  inserted : s.inserted = s₀.inserted
  results : s.dqResults = s₀.dqResults

/-- The same, and the checks have read the time `now`. -/
structure Recording (now : Instant) (s : World) : Prop extends Unrecorded s₀ s where
  checkedAt : s.checkedAt = now
  read : N now

/-- The results of the attempt are written: those of its checks at the time `now`. -/
structure Recorded (now : Instant) (unique : Frame) (reports : List DqReport) (s : World) : Prop where
  distinct : DistinctBy (· .eventId) (validFrame now (conformed env batch s₀)).rows unique.rows
  undated : Undated (attemptRows env runId pipeline s₀.silver batch now unique) reports
  results : s.dqResults = insertNew DqResult.key s₀.dqResults (reports.map (·.toDqResult))
  checkedAt : s.checkedAt = now
  read : N now

inductive RecordStage (s : World) : Prop where
  | unrecorded (h : Unrecorded s₀ s)
  | recorded {now : Instant} {unique : Frame} {reports : List DqReport}
      (h : Recorded env batch runId pipeline N s₀ now unique reports s)

/-- How an attempt ends. -/
abbrev RecordEnded (r : Except PyException Unit) (s : World) : Prop :=
  RecordStage env batch runId pipeline N s₀ s ∧ (r = .ok () → batch.rows ≠ [] →
    ∃ now unique reports, Recorded env batch runId pipeline N s₀ now unique reports s)

variable {env batch runId pipeline N s₀}

theorem RecordStage.failed (e : PyException) (s : World) (h : RecordStage env batch runId pipeline N s₀ s) :
    RecordEnded env batch runId pipeline N s₀ (.error e) s :=
  ⟨h, fun returned => by cases returned⟩

theorem Recording.timed {now : Instant} (s : World) (clock : Instant) (h : Recording N s₀ now s) :
    Recording N s₀ now { s with clock := clock } :=
  ⟨⟨h.silver, h.inserted, h.results⟩, h.checkedAt, h.read⟩

theorem Recorded.stable {now : Instant} {unique : Frame} {reports : List DqReport} (s t : World)
    (h : Recorded env batch runId pipeline N s₀ now unique reports s) (results : t.dqResults = s.dqResults)
    (checkedAt : t.checkedAt = s.checkedAt) : Recorded env batch runId pipeline N s₀ now unique reports t :=
  ⟨h.distinct, h.undated, results.trans h.results, checkedAt.trans h.checkedAt, h.read⟩

theorem acceptValid_records {now : Instant} {results : List DqReport} {s : World}
    (checked : Undated (checkRows env runId pipeline (checkedRows now (conformed env batch s₀))) results)
    (h : Recording N s₀ now s) :
    Prog.Always (LakeExec runId) (fun _ => RecordStage env batch runId pipeline N s₀)
      (RecordEnded env batch runId pipeline N s₀)
      (acceptValid env (validFrame now (conformed env batch s₀)) results runId pipeline) s := by
  have waiting (t : World) (h : Recording N s₀ now t) : RecordStage env batch runId pipeline N s₀ t :=
    .unrecorded h.toUnrecorded
  unfold acceptValid
  apply always_timed (yields_duplicateRows ..) Recording.timed RecordStage.failed h waiting
  intro inBatch s in_batch h
  apply always_call (P := fun (existing : Frame) t => existing = s₀.silver ∧ Recording N s₀ now t)
    RecordStage.failed (waiting s h)
  · intro existing t took
    cases took
    exact ⟨h.silver, h⟩
  · exact fun _ t ht => waiting t ht.2
  rintro _ s ⟨rfl, h⟩
  apply always_call (P := fun (unique : Frame) t =>
    DistinctBy (· .eventId) (validFrame now (conformed env batch s₀)).rows unique.rows ∧ Recording N s₀ now t)
    RecordStage.failed (waiting s h)
  · intro unique t took
    cases took with
    | dropDuplicates schema distinct => exact ⟨distinct, h⟩
  · exact fun _ t ht => waiting t ht.2
  rintro unique s ⟨distinct, h⟩
  apply always_timed (yields_duplicateRows ..) Recording.timed RecordStage.failed h waiting
  intro inSilver s in_silver h
  have undated := (checked.append in_batch).append in_silver
  apply Prog.Always.seq (always_writeDq
    (J := Recorded env batch runId pipeline N s₀ now unique (results ++ inBatch ++ inSilver)) Recorded.stable
    (waiting s h) ⟨distinct, undated, by rw [← h.results], h.checkedAt, h.read⟩ fun _ => .recorded)
  rintro (e | ⟨⟩) t ⟨stage, written⟩
  · exact RecordStage.failed e t stage
  · exact (always_settled Recorded.stable (settled_mergeAccepted ..) (written rfl)).mono
      (fun _ _ h => .recorded h) fun _ _ h => ⟨.recorded h, fun _ _ => ⟨_, _, _, h⟩⟩

/-- **The results of an attempt.** `N` is what the answers `K` say of the time that the checks
read. At every call of `validate_and_merge` its results are unwritten and nothing is merged, or
they are written; where it returns, the batch was empty or they are written. -/
theorem validateAndMerge_records {K : Exec LakeOp LakeOp.Answer World}
    (reads : ∀ s now t, K (.currentTimestamp .checks) s (.ok now) t → N now) :
    Prog.Always (Keeping runId K) (fun _ => RecordStage env batch runId pipeline N s₀)
      (RecordEnded env batch runId pipeline N s₀) (validateAndMerge env batch runId pipeline) s₀ := by
  have begun : Unrecorded s₀ s₀ := ⟨rfl, rfl, rfl⟩
  unfold validateAndMerge
  split
  · rename_i empty
    exact ⟨.unrecorded begun, fun _ nonempty => absurd (List.isEmpty_iff.1 empty) nonempty⟩
  unfold validateBatch
  apply always_kept_call RecordStage.failed (.unrecorded begun)
  · intro silver t took
    cases took
    exact .unrecorded begun
  intro silver t took _
  cases took
  apply always_require RecordStage.failed (.unrecorded begun)
  apply always_kept_call RecordStage.failed (.unrecorded begun)
  · intro now t took
    cases took
    exact .unrecorded ⟨rfl, rfl, rfl⟩
  intro now t took kept
  have h : Recording N s₀ now t := by
    cases took
    exact ⟨⟨rfl, rfl, rfl⟩, rfl, reads _ _ _ kept⟩
  have waiting (t : World) (h : Recording N s₀ now t) : RecordStage env batch runId pipeline N s₀ t :=
    .unrecorded h.toUnrecorded
  apply Prog.Always.of_le fun _ _ _ _ kept => kept.1
  apply always_timed (yields_checkRows ..) Recording.timed RecordStage.failed h waiting
  intro results s checked h
  apply always_require RecordStage.failed (waiting s h)
  apply always_call (P := fun _ t => Recording N s₀ now t) RecordStage.failed (waiting s h)
  · intro quarantinedAt t took
    cases took
    exact ⟨⟨h.silver, h.inserted, h.results⟩, h.checkedAt, h.read⟩
  · exact fun _ t ht => waiting t ht
  intro quarantinedAt s h
  apply always_call (P := fun _ t => Recording N s₀ now t) RecordStage.failed (waiting s h)
  · intro _ t took
    cases took
    exact ⟨⟨h.silver, h.inserted, h.results⟩, h.checkedAt, h.read⟩
  · exact fun _ t ht => waiting t ht
  intro _ s h
  exact acceptValid_records checked h

/-- The same for an attempt that is answered in any way. -/
theorem always_records :
    Prog.Always (LakeExec runId) (fun _ => RecordStage env batch runId pipeline (fun _ => True) s₀)
      (RecordEnded env batch runId pipeline (fun _ => True) s₀)
      (validateAndMerge env batch runId pipeline) s₀ := by
  have always : Prog.Always (Keeping runId fun _ _ _ _ => True)
      (fun _ => RecordStage env batch runId pipeline (fun _ => True) s₀)
      (RecordEnded env batch runId pipeline (fun _ => True) s₀) (validateAndMerge env batch runId pipeline) s₀ :=
    validateAndMerge_records fun _ _ _ _ => trivial
  exact always.of_le fun _ _ _ _ performed => ⟨performed, trivial⟩

/-- Where an attempt has returned, its results are written. -/
theorem recorded_of_run {s : World} (nonempty : batch.rows ≠ [])
    (run : Prog.Run (LakeExec runId) (validateAndMerge env batch runId pipeline, s₀) (.done (.ok ()), s)) :
    ∃ now unique reports, Recorded env batch runId pipeline (fun _ => True) s₀ now unique reports s :=
  (always_records.post_of_run run).2 rfl nonempty

end Stages

/-! ## The rows of a run -/

/-- The rows of `monitoring.dq_results` with the run id. -/
def resultsOf (runId : String) (s : World) :
    List DqResult := s.dqResults.filter fun row => row.runId = runId

/-- The rows of `monitoring.dq_quarantine` with the run id. -/
def quarantineOf (runId : String) (s : World) : List QuarantineRow :=
  s.quarantine.filter fun q => q.runId = runId

/-- Nothing has been written under the run id. -/
structure Fresh (runId : String) (s : World) : Prop where
  results : resultsOf runId s = []
  quarantine : quarantineOf runId s = []

section Fresh

variable {env : Env} {batch : Frame} {runId pipeline : String} {N : Instant → Prop} {s₀ s : World}
  {now : Instant} {unique : Frame} {reports : List DqReport}

theorem of_attemptRows {silver : Frame} :
    ∀ row ∈ attemptRows env runId pipeline silver batch now unique, row.Of runId pipeline := by
  intro row member
  simp only [attemptRows, List.mem_append] at member
  obtain (first | second) | third := member
  · exact of_checkRows env runId pipeline row first
  · exact of_duplicateRows env runId pipeline row second
  · exact of_duplicateRows env runId pipeline row third

/-- The results of a fresh run id are those of the attempt. -/
theorem Recorded.resultsOf_eq (h : Recorded env batch runId pipeline N s₀ now unique reports s)
    (fresh : resultsOf runId s₀ = []) : resultsOf runId s = reports.map (·.toDqResult) := by
  rw [resultsOf, h.results]
  apply filter_insertNew _ fresh
  · intro row member
    obtain ⟨r, r_in, rfl⟩ := List.mem_map.1 member
    exact (of_attemptRows _ (h.undated.mem r_in)).1
  · intro row row' same own
    exact (congrArg Prod.fst same).symm.trans own

theorem Recorded.undated_resultsOf (h : Recorded env batch runId pipeline N s₀ now unique reports s)
    (fresh : resultsOf runId s₀ = []) : (resultsOf runId s).map DqResult.undated =
      attemptRows env runId pipeline s₀.silver batch now unique := by
  rw [h.resultsOf_eq fresh, ← h.undated, List.map_map]
  rfl

end Fresh

end Tikblog.Analytics
