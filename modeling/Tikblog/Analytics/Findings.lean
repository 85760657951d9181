import Tikblog.Analytics.Results

/-!
# What an attempt finds

A finding is what an alert tells of a result: a source, a check and a status. The findings of
an attempt are those of its rows, and every call writes results and alerts under its own run id.
-/

namespace Tikblog.Analytics

open Python Program Table

structure Finding where
  source : String
  checkName : String
  status : Status
  deriving DecidableEq, Repr

def DqReport.finding (r : DqReport) : Finding := ⟨r.source, r.checkName, r.status⟩

def DqResult.finding (row : DqResult) : Finding := ⟨row.source, row.checkName, row.status⟩

/-- YELLOW or RED: what an alert is emitted for. -/
def Status.Loud (level : Status) : Prop := level = .yellow ∨ level = .red

instance (level : Status) : Decidable level.Loud := inferInstanceAs (Decidable (_ ∨ _))

/-! ## Findings -/

def checkFindings (env : Env) (checked : List CheckedRow) : List Finding :=
  (groups (·.row.string .source) checked).flatMap fun source =>
    let rows := checked.filter fun r => r.row.string .source = source
    Check.all.map fun check =>
      let failed := (rows.filter fun r => check ∈ r.failedChecks).length
      ⟨sourceOrUnknown source, check.name,
        dqStatus env check.name rows.length failed (check = .schemaAndDecode ∧ 0 < failed)⟩

def duplicateFindings (env : Env) (check : String) (valid : List Row)
    (total failed : List Row → Option String → Nat) : List Finding :=
  (groups (·.string .source) valid).map fun source =>
    let rows := valid.filter fun row => row.string .source = source
    ⟨sourceOrUnknown source, check, dqStatus env check (total rows source) (failed rows source) false⟩

/-- The findings of the checks of a conformed batch at the time `now`, then those of its
valid rows. -/
def findings (env : Env) (silver batch : Frame) (now : Instant) (unique : Frame) : List Finding :=
  let valid := (validFrame now (conform env silver.schema batch)).rows
  checkFindings env (checkedRows now (conform env silver.schema batch)) ++
    duplicateFindings env "duplicate_event_id_in_batch" valid (fun rows _ => rows.length)
      (fun rows _ => rows.length - countDistinct .eventId rows) ++
    duplicateFindings env "duplicate_event_id_already_in_silver" valid
      (fun rows _ => countDistinct .eventId rows) (fun _ source => alreadyIn silver unique source)

/-! ## Reports -/

/-- The report is of this run. -/
def DqReport.Of (runId pipeline : String) (r : DqReport) : Prop :=
  r.runId = runId ∧ r.pipelineName = pipeline

def DqResult.Of (runId pipeline : String) (row : DqResult) : Prop :=
  row.runId = runId ∧ row.pipelineName = pipeline

/-- The reports say what was found, and are of this run. -/
abbrev Reports (runId pipeline : String) (found : List Finding) (reports : List DqReport) : Prop :=
  reports.map DqReport.finding = found ∧ ∀ r ∈ reports, r.Of runId pipeline

theorem Reports.append {runId pipeline : String} {found found' : List Finding}
    {reports reports' : List DqReport}
    (h : Reports runId pipeline found reports) (h' : Reports runId pipeline found' reports') :
    Reports runId pipeline (found ++ found') (reports ++ reports') := by
  refine ⟨?_, ?_⟩
  · rw [List.map_append, h.1, h'.1]
  · intro r member
    obtain first | second := List.mem_append.1 member
    · exact h.2 r first
    · exact h'.2 r second

/-- Reports are known from their rows. -/
theorem Undated.reports {runId pipeline : String} {found : List Finding} {rows : List DqResult}
    {reports : List DqReport} (findings : rows.map DqResult.finding = found)
    (own : ∀ row ∈ rows, row.Of runId pipeline) (undated : Undated rows reports) :
    Reports runId pipeline found reports := by
  subst undated
  refine ⟨?_, ?_⟩
  · rw [← findings, List.map_map]
    rfl
  · intro r member
    exact own r.toDqResult.undated (Undated.mem rfl member)

section Rows

variable (env : Env) (runId pipeline : String)

theorem map_finding_checkRows (checked : List CheckedRow) :
    (checkRows env runId pipeline checked).map DqResult.finding = checkFindings env checked := by
  unfold checkRows checkFindings
  simp only [List.map_flatMap, List.map_map]
  rfl

theorem map_finding_duplicateRows (check : String) (valid : List Row)
    (total failed : List Row → Option String → Nat) :
    (duplicateRows env runId pipeline check valid total failed).map DqResult.finding =
      duplicateFindings env check valid total failed := by
  unfold duplicateRows duplicateFindings
  rw [List.map_map]
  rfl

theorem of_checkRows {checked : List CheckedRow} :
    ∀ row ∈ checkRows env runId pipeline checked, row.Of runId pipeline := by
  intro row member
  obtain ⟨source, _, member⟩ := List.mem_flatMap.1 member
  obtain ⟨check, _, rfl⟩ := List.mem_map.1 member
  exact ⟨rfl, rfl⟩

theorem of_duplicateRows {check : String} {valid : List Row}
    {total failed : List Row → Option String → Nat} :
    ∀ row ∈ duplicateRows env runId pipeline check valid total failed, row.Of runId pipeline := by
  intro row member
  obtain ⟨source, _, rfl⟩ := List.mem_map.1 member
  exact ⟨rfl, rfl⟩

theorem yields_checkResults (checked : List CheckedRow) :
    (checkResults env runId pipeline checked).Yields Timing
      (Reports runId pipeline (checkFindings env checked)) :=
  (yields_checkRows ..).mono (fun _ h => h) fun _ undated =>
    Undated.reports (map_finding_checkRows ..) (of_checkRows env runId pipeline) undated

theorem yields_duplicateResults (check : String) (valid : List Row)
    (total failed : List Row → Option String → Nat) :
    (duplicateResults env runId pipeline check valid total failed).Yields Timing
      (Reports runId pipeline (duplicateFindings env check valid total failed)) :=
  (yields_duplicateRows ..).mono (fun _ h => h) fun _ undated =>
    Undated.reports (map_finding_duplicateRows ..) (of_duplicateRows env runId pipeline) undated

end Rows

theorem yields_metric (env : Env) (runId pipeline : String) (source : Option String) (name : String)
    (value : Option ℚ) (unit : String) :
    (metric env runId pipeline source name value unit).Yields Timing fun r => r.runId = runId := by
  unfold metric
  apply (yields_call .utcnow).bind
  intro observedAt _
  exact rfl

theorem yields_latencyMetrics {ρ : Type} (env : Env) (rows : List ρ) (source : ρ → Option String)
    (expression : ρ → Option ℚ) (name runId pipeline : String) :
    (latencyMetrics env rows source expression name runId pipeline).Yields Timing
      fun reports => ∀ r ∈ reports, r.runId = runId := by
  unfold latencyMetrics
  apply Prog.Yields.bind (Prog.Yields.each (N := fun reports => ∀ r ∈ reports, r.runId = runId)
    (fun group => ?_) _)
  · intro reports own
    exact List.forall_mem_flatten.2 own
  · dsimp only
    split
    · exact trivial
    · apply Prog.Yields.bind (yields_metric ..)
      intro first own_first
      apply Prog.Yields.bind (yields_metric ..)
      intro second own_second r member
      obtain rfl | member := List.mem_cons.1 member
      · exact own_first
      · cases List.mem_singleton.1 member
        exact own_second

theorem yields_goldResults (env : Env) (runId : String) (joined : List Reconciled) :
    (goldResults env runId joined).Yields Timing fun results => ∀ r ∈ results, r.runId = runId := by
  apply (yields_reconciledRows env runId joined).mono (fun _ h => h)
  rintro results undated r member
  obtain ⟨source, _, listed⟩ := List.mem_flatMap.1 (Undated.mem undated member)
  obtain ⟨check, _, same⟩ := List.mem_map.1 listed
  exact (congrArg DqResult.runId same).symm

/-- Taking the time is reporting. -/
theorem uses_timing {α : Type} {R : α → Prop} {p : LakeM α} (h : p.Yields Timing R) :
    p.Uses Reporting := by
  apply h.uses.mono
  intro o timing
  cases timing
  exact .utcnow

/-- The calls of a refresh: it reads the tables, takes its time, overwrites the dates with the
counts, and reports. -/
theorem uses_refresh_of {P : LakeOp → Prop} {dates : List Date} (env : Env) (runId : String)
    (reporting : ∀ o, Reporting o → P o) (readSilver : P .readSilver)
    (currentTimestamp : P (.currentTimestamp .goldUpdatedAt))
    (overwriteGold : ∀ silver updatedAt, P (.overwriteGold dates (goldRows (eventsOf silver dates) updatedAt)))
    (readGold : P .readGold) : (refresh env dates runId).Uses P := by
  unfold refresh
  split
  · exact trivial
  apply Prog.Uses.bind (uses_call readSilver)
  intro silver
  apply Prog.Uses.bind (uses_call currentTimestamp)
  intro updatedAt
  apply Prog.Uses.bind (uses_call (overwriteGold silver.rows updatedAt))
  intro _
  unfold reportGold
  apply Prog.Uses.bind (uses_call readGold)
  intro gold
  apply Prog.Uses.bind ((uses_timing (yields_goldResults ..)).mono reporting)
  intro results
  apply Prog.Uses.bind ((uses_timing (yields_latencyMetrics ..)).mono reporting)
  intro metrics
  apply Prog.Uses.bind ((uses_writeDq ..).mono reporting)
  intro _
  exact (uses_writeMetrics ..).mono reporting

/-! ## What is written -/

/-- The program writes only such results and alerts. -/
def Writes (results : DqResult → Prop) (alerts : AlertRow → Prop) : LakeOp → Prop
  | .insertDqResults rows => ∀ row ∈ rows, results row
  | .insertAlerts rows => ∀ a ∈ rows, alerts a
  | _ => True

theorem Writes.mono {results results' : DqResult → Prop} {alerts alerts' : AlertRow → Prop}
    (le : ∀ row, results row → results' row) (le' : ∀ a, alerts a → alerts' a) (o : LakeOp)
    (h : Writes results alerts o) : Writes results' alerts' o := by
  cases o with
  | insertDqResults rows => exact fun row member => le row (h row member)
  | insertAlerts rows => exact fun a member => le' a (h a member)
  | _ => trivial

theorem Timing.writes {results : DqResult → Prop} {alerts : AlertRow → Prop} {o : LakeOp}
    (timing : Timing o) :
    Writes results alerts o := by
  cases timing
  trivial

/-- The alerts that `emit_alerts` makes: one of each row that is YELLOW or RED. -/
structure Emitted (env : Env) (kind : String) (rows : List Report) (alerts : List AlertRow) : Prop where
  origin : ∀ a ∈ alerts, ∃ row ∈ rows, row.status.Loud ∧ ∃ t, a = alertRow env row kind t
  covers : ∀ row ∈ rows, row.status.Loud → ∃ a ∈ alerts, ∃ t, a = alertRow env row kind t

def AlertRow.undated (a : AlertRow) : AlertRow := { a with createdAt := 0 }

theorem undated_alertRow {env : Env} {row : Report} {kind : String} {a : AlertRow}
    (h : a.undated = alertRow env row kind 0) : a = alertRow env row kind a.createdAt := by
  have dated := congrArg (fun b : AlertRow => { b with createdAt := a.createdAt }) h
  exact dated

/-- The rows `emit_alerts` looks at. -/
def loudRows (rows : List Report) : List Report :=
  rows.filter fun row => row.status = .yellow ∨ row.status = .red

theorem mem_loudRows {rows : List Report} {row : Report} :
    row ∈ loudRows rows ↔ row ∈ rows ∧ row.status.Loud := by
  rw [loudRows, List.mem_filter, decide_eq_true_iff]
  rfl

/-- The loop of `emit_alerts`. -/
theorem yields_alerts (env : Env) (rows : List Report) (kind : String) :
    (Prog.mapEach (loudRows rows) fun row =>
      (call .utcnow).bind fun createdAt => pure (alertRow env row kind createdAt) :
        LakeM (List AlertRow)).Yields Timing (Emitted env kind rows) := by
  apply (Prog.Yields.mapEach (g := AlertRow.undated) (h := fun row => alertRow env row kind 0)
    (N := fun _ => True) (fun row => ?_) (loudRows rows)).mono (fun _ timing => timing)
  · intro alerts h
    constructor
    · intro a member
      have listed : a.undated ∈ alerts.map AlertRow.undated := List.mem_map_of_mem member
      rw [h.1] at listed
      obtain ⟨row, loud, same⟩ := List.mem_map.1 listed
      obtain ⟨present, loud⟩ := mem_loudRows.1 loud
      exact ⟨row, present, loud, a.createdAt, undated_alertRow same.symm⟩
    · intro row present loud
      have listed : alertRow env row kind 0 ∈ (loudRows rows).map fun row => alertRow env row kind 0 :=
        List.mem_map_of_mem (mem_loudRows.2 ⟨present, loud⟩)
      rw [← h.1] at listed
      obtain ⟨a, member, same⟩ := List.mem_map.1 listed
      exact ⟨a, member, a.createdAt, undated_alertRow same⟩
  · apply (yields_call .utcnow).bind
    intro createdAt _
    exact ⟨rfl, trivial⟩

section Written

variable {results : DqResult → Prop} {alerts : AlertRow → Prop} {env : Env}

theorem yields_emitAlerts {rows : List Report} {kind : String}
    (each : ∀ row ∈ rows, row.status.Loud → ∀ t, alerts (alertRow env row kind t)) :
    (emitAlerts env rows kind).Yields (Writes results alerts) fun _ => True := by
  apply Prog.Yields.bind ((yields_alerts env rows kind).mono (fun _ timing => timing.writes) fun _ h => h)
  intro emitted h
  unfold records
  split
  · exact trivial
  · apply yields_call
    intro a member
    obtain ⟨row, present, loud, t, rfl⟩ := h.origin a member
    exact each row present loud t

theorem yields_writeDq {reports : List DqReport} (rows : ∀ r ∈ reports, results r.toDqResult)
    (each : ∀ r ∈ reports, r.status.Loud → ∀ t, alerts (alertRow env r.report "DQ" t)) :
    (writeDq env reports).Yields (Writes results alerts) fun _ => True := by
  have written : (records (fun rows => call (.insertDqResults rows)) (reports.map (·.toDqResult))).Yields
      (Writes results alerts) fun _ => True := by
    unfold records
    split
    · exact trivial
    · apply yields_call
      intro row member
      obtain ⟨r, present, rfl⟩ := List.mem_map.1 member
      exact rows r present
  apply written.bind
  intro _ _
  apply yields_emitAlerts
  intro row member
  obtain ⟨r, present, rfl⟩ := List.mem_map.1 member
  exact each r present

theorem yields_writeMetrics {reports : List MetricReport}
    (each : ∀ r ∈ reports, ∀ t, alerts (alertRow env r.report "METRIC" t)) :
    (writeMetrics env reports).Yields (Writes results alerts) fun _ => True := by
  have written : (records (fun rows => call (.insertMetrics rows)) (reports.map (·.toMetricRow))).Yields
      (Writes results alerts) fun _ => True := by
    unfold records
    split
    · exact trivial
    · exact yields_call trivial
  apply written.bind
  intro _ _
  apply yields_emitAlerts
  intro row member _
  obtain ⟨r, present, rfl⟩ := List.mem_map.1 member
  exact each r present

end Written

/-! ## Every call writes under its run id -/

/-- Results and alerts of the run only. -/
abbrev Under (runId : String) : LakeOp → Prop :=
  Writes (fun row => row.runId = runId) (fun a => a.runId = runId)

section Own

variable {env : Env} {runId pipeline : String} {batch : Frame} {P : LakeOp → Prop} {α β : Type}

theorem yields_timing {R : α → Prop} {p : LakeM α} (h : p.Yields Timing R) : p.Yields (Under runId) R :=
  h.mono (fun _ timing => timing.writes) fun _ h => h

theorem yields_require {schema : Schema} {columns : List Column} :
    (requireColumns schema columns).Yields P fun _ => True := by
  unfold requireColumns
  split <;> exact trivial

/-- After the results nothing but metrics is written. -/
theorem yields_mergeAccepted {valid : Frame} : (mergeAccepted env valid runId pipeline).Yields
    (Writes (fun _ => False) fun a => a.runId = runId ∧ a.alertType = "METRIC") fun _ => True := by
  unfold mergeAccepted
  apply (yields_call trivial).bind
  intro unique _
  apply (yields_call trivial).bind
  intro processedAt _
  apply (yields_call trivial).bind
  intro _ _
  apply yields_require.bind
  intro _ _
  apply ((yields_latencyMetrics ..).mono (fun _ timing => timing.writes) fun _ h => h).bind
  intro metrics own
  exact yields_writeMetrics fun r member _ => ⟨own r member, rfl⟩

theorem yields_acceptValid {valid : Frame} {results : List DqReport}
    (own : ∀ r ∈ results, r.Of runId pipeline) :
    (acceptValid env valid results runId pipeline).Yields (Under runId) fun _ => True := by
  unfold acceptValid
  apply (yields_timing (yields_duplicateResults ..)).bind
  intro inBatch own_inBatch
  apply (yields_call trivial).bind
  intro existing _
  apply (yields_call trivial).bind
  intro unique _
  apply (yields_timing (yields_duplicateResults ..)).bind
  intro inSilver own_inSilver
  have all : ∀ r ∈ results ++ inBatch ++ inSilver, r.runId = runId := by
    intro r member
    simp only [List.mem_append] at member
    obtain (first | second) | third := member
    · exact (own r first).1
    · exact (own_inBatch.2 r second).1
    · exact (own_inSilver.2 r third).1
  have reported : (writeDq env (results ++ inBatch ++ inSilver)).Yields (Under runId) fun _ => True :=
    yields_writeDq all fun r member _ _ => all r member
  apply reported.bind
  intro _ _
  exact yields_mergeAccepted.mono (Writes.mono (fun _ absurd => absurd.elim) fun _ metric => metric.1) fun _ h => h

theorem yields_validateAndMerge :
    (validateAndMerge env batch runId pipeline).Yields (Under runId) fun _ => True := by
  unfold validateAndMerge
  split
  · exact trivial
  unfold validateBatch
  apply (yields_call trivial).bind
  intro silver _
  apply yields_require.bind
  intro _ _
  apply (yields_call trivial).bind
  intro now _
  apply (yields_timing (yields_checkResults ..)).bind
  intro results own
  apply yields_require.bind
  intro _ _
  apply (yields_call trivial).bind
  intro quarantinedAt _
  apply (yields_call trivial).bind
  intro _ _
  exact yields_acceptValid own.2

theorem yields_refresh {dates : List Date} :
    (refresh env dates runId).Yields (Under runId) fun _ => True := by
  unfold refresh
  split
  · exact trivial
  apply (yields_call trivial).bind
  intro silver _
  apply (yields_call trivial).bind
  intro updatedAt _
  apply (yields_call trivial).bind
  intro _ _
  unfold reportGold
  apply (yields_call trivial).bind
  intro gold _
  apply (yields_timing (yields_goldResults ..)).bind
  intro results own
  apply (yields_timing (yields_latencyMetrics ..)).bind
  intro metrics own_metrics
  apply (yields_writeDq own fun r member _ _ => own r member).bind
  intro _ _
  exact yields_writeMetrics fun r member _ => own_metrics r member

end Own

end Tikblog.Analytics
