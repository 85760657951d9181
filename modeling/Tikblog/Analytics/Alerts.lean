import Tikblog.Analytics.Findings
import Tikblog.Analytics.Acceptance

/-!
# Alerts and results

Results and alerts are computed again by every attempt, and each table keeps what it was
given first. `Consistent` is what survives any history: an alert has the status of the
stored result. Whether the two agree where an attempt returns depends on the findings of the
attempts: they must not differ from what is stored (`Steady`).
-/

namespace Tikblog.Analytics

open Python Program Table

/-- A DQ alert of the run about a source and a check. -/
structure DqAlert (runId pipeline source check : String) (a : AlertRow) : Prop where
  alertType : a.alertType = "DQ"
  runId : a.runId = runId
  pipelineName : a.pipelineName = pipeline
  source : a.source = some source
  metricName : a.metricName = check

/-- The alerts agree with the results: for each source and check there is an alert exactly
when the result is YELLOW or RED, and it has the severity of the result. -/
structure Agree (runId pipeline : String) (results : List DqResult) (alerts : List AlertRow) : Prop where
  alerted : ∀ source check, (∃ a ∈ alerts, DqAlert runId pipeline source check a) ↔
    ∃ row ∈ results, row.key = (runId, source, check) ∧ row.status.Loud
  severity : ∀ source check, ∀ a ∈ alerts, DqAlert runId pipeline source check a →
    ∀ row ∈ results, row.key = (runId, source, check) → a.severity = row.status

/-- `alert_id` of a finding. -/
def alertId (env : Env) (runId pipeline source check : String) : String :=
  env.sha256 (":".intercalate [runId, pipeline, source, "None", check, "None", "None"])

/-- There is an alert already. -/
def Told (runId pipeline source check : String) (alerts : List AlertRow) : Prop :=
  ∃ a ∈ alerts, DqAlert runId pipeline source check a

/-! ## The condition -/

/-- The findings of an attempt do not differ from what is stored for the run.

For every source and check without an alert: a stored result that is YELLOW or RED, or found
so, has the status found (`unchanged`); a stored result that is YELLOW or RED is found again
(`again`); and where nothing is stored, findings of one name have one status (`single`). An
alert id that is taken belongs to the alert (`free`). -/
structure Steady (env : Env) (runId pipeline : String) (results : List DqResult) (alerts : List AlertRow)
    (found : List Finding) : Prop where
  unchanged : ∀ f ∈ found, ¬ Told runId pipeline f.source f.checkName alerts →
    ∀ row ∈ results, row.key = (runId, f.source, f.checkName) → f.status.Loud ∨ row.status.Loud →
      row.status = f.status
  again : ∀ row ∈ results, row.runId = runId → row.status.Loud →
    ¬ Told runId pipeline row.source row.checkName alerts →
      ∃ f ∈ found, f.source = row.source ∧ f.checkName = row.checkName
  single : ∀ f ∈ found, ∀ f' ∈ found, f'.source = f.source → f'.checkName = f.checkName → f.status.Loud →
    (∀ row ∈ results, row.key ≠ (runId, f.source, f.checkName)) → f'.status = f.status
  free : ∀ f ∈ found, f.status.Loud → ∀ a ∈ alerts, a.alertId = alertId env runId pipeline f.source f.checkName →
    DqAlert runId pipeline f.source f.checkName a

/-- The same for an attempt whose checks read the time `now` in the state `s`, whichever rows
`dropDuplicates` keeps. -/
def SteadyAt (env : Env) (batch : Frame) (runId pipeline : String) (s : World) (now : Instant) : Prop :=
  ∀ unique : Frame, DistinctBy (· .eventId) (validFrame now (conform env s.silver.schema batch)).rows unique.rows →
    Steady env runId pipeline s.dqResults s.alerts (findings env s.silver batch now unique)

/-! ## Tables that keep what they were given first -/

/-- What the alerts say of the results at every point of every history. -/
structure Consistent (env : Env) (runId pipeline : String) (results : List DqResult)
    (alerts : List AlertRow) :
    Prop where
  loud : ∀ source check, ∀ a ∈ alerts, DqAlert runId pipeline source check a → a.severity.Loud
  named : ∀ source check, ∀ a ∈ alerts, DqAlert runId pipeline source check a →
    a.alertId = alertId env runId pipeline source check
  stored : ∀ source check, ∀ a ∈ alerts, DqAlert runId pipeline source check a →
    ∃ row ∈ results, row.key = (runId, source, check)
  severity : ∀ source check, ∀ a ∈ alerts, DqAlert runId pipeline source check a →
    ∀ row ∈ results, row.key = (runId, source, check) → row.status = a.severity

section Tables

variable {env : Env} {runId pipeline : String} {results : List DqResult} {alerts : List AlertRow}
  {found : List Finding} {reports : List DqReport}

theorem Reports.mem (h : Reports runId pipeline found reports) {r : DqReport} (member : r ∈ reports) :
    r.finding ∈ found :=
  h.1 ▸ List.mem_map_of_mem member

theorem Reports.exists (h : Reports runId pipeline found reports) {f : Finding} (member : f ∈ found) :
    ∃ r ∈ reports, r.finding = f := by
  rw [← h.1] at member
  exact List.mem_map.1 member

theorem Reports.key (h : Reports runId pipeline found reports) {r : DqReport} (member : r ∈ reports) :
    r.toDqResult.key = (runId, r.source, r.checkName) := by
  rw [DqResult.key, (h.2 r member).1]

/-- The alert of a report. -/
theorem dqAlert_alertRow {r : DqReport} (own : r.Of runId pipeline) (t : Instant) :
    DqAlert runId pipeline r.source r.checkName (alertRow env r.report "DQ" t) ∧
      (alertRow env r.report "DQ" t).severity = r.status ∧
      (alertRow env r.report "DQ" t).alertId = alertId env runId pipeline r.source r.checkName := by
  obtain ⟨run, pipe⟩ := own
  refine ⟨⟨rfl, run, pipe, rfl, rfl⟩, rfl, ?_⟩
  rw [← run, ← pipe]
  rfl

theorem DqAlert.unique {source check source' check' : String} {a : AlertRow}
    (h : DqAlert runId pipeline source check a) (h' : DqAlert runId pipeline source' check' a) :
    source' = source ∧ check' = check :=
  ⟨Option.some.inj (h'.source.symm.trans h.source), h'.metricName.symm.trans h.metricName⟩

/-- The results of an attempt, as they are inserted. -/
abbrev storedResults (results : List DqResult) (reports : List DqReport) : List DqResult :=
  insertNew DqResult.key results (reports.map (·.toDqResult))

theorem Consistent.store (h : Consistent env runId pipeline results alerts) :
    Consistent env runId pipeline (storedResults results reports) alerts where
  loud := h.loud
  named := h.named
  stored source check a member about := by
    obtain ⟨row, present, key⟩ := h.stored source check a member about
    exact ⟨row, mem_insertNew.2 (.inl present), key⟩
  severity source check a member about row present key := by
    obtain old | ⟨_, fresh⟩ := mem_insertNew.1 present
    · exact h.severity source check a member about row old key
    · -- a result of an alert is stored already
      obtain ⟨old, old_in, old_key⟩ := h.stored source check a member about
      exact absurd (List.mem_map.2 ⟨old, old_in, old_key.trans key.symm⟩) fresh

/-- Every stored result of a finding without an alert has the status found, if either is
YELLOW or RED. -/
theorem Steady.status_eq (steady : Steady env runId pipeline results alerts found)
    (written : Reports runId pipeline found reports) {f : Finding} (member : f ∈ found)
    (silent : ¬ Told runId pipeline f.source f.checkName alerts) {row : DqResult}
    (present : row ∈ storedResults results reports) (key : row.key = (runId, f.source, f.checkName))
    (loud : f.status.Loud ∨ row.status.Loud) : row.status = f.status := by
  obtain old | ⟨new, fresh⟩ := mem_insertNew.1 present
  · exact steady.unchanged f member silent row old key loud
  · obtain ⟨r, r_in, rfl⟩ := List.mem_map.1 new
    have nothing : ∀ row ∈ results, row.key ≠ (runId, f.source, f.checkName) := by
      intro row row_in same
      exact fresh (List.mem_map.2 ⟨row, row_in, same.trans key.symm⟩)
    have r_found := written.mem r_in
    have r_key := written.key r_in
    have same := key.symm.trans r_key
    simp only [Prod.mk.injEq, true_and] at same
    obtain loud | loud := loud
    · exact steady.single f member r.finding r_found same.1.symm same.2.symm loud nothing
    · rw [same.1, same.2] at nothing
      exact (steady.single r.finding r_found f member same.1 same.2 loud nothing).symm

variable {emitted : List AlertRow}

theorem emitted_origin (written : Reports runId pipeline found reports)
    (each : Emitted env "DQ" (reports.map DqReport.report) emitted) {a : AlertRow} (member : a ∈ emitted) :
    ∃ f ∈ found, f.status.Loud ∧ DqAlert runId pipeline f.source f.checkName a ∧ a.severity = f.status ∧
      a.alertId = alertId env runId pipeline f.source f.checkName := by
  obtain ⟨row, row_in, loud, t, rfl⟩ := each.origin a member
  obtain ⟨r, r_in, rfl⟩ := List.mem_map.1 row_in
  exact ⟨r.finding, written.mem r_in, loud, dqAlert_alertRow (written.2 r r_in) t⟩

theorem emitted_covers (written : Reports runId pipeline found reports)
    (each : Emitted env "DQ" (reports.map DqReport.report) emitted) {f : Finding} (member : f ∈ found)
    (loud : f.status.Loud) : ∃ a ∈ emitted, DqAlert runId pipeline f.source f.checkName a ∧
      a.alertId = alertId env runId pipeline f.source f.checkName := by
  obtain ⟨r, r_in, rfl⟩ := written.exists member
  obtain ⟨a, a_in, t, rfl⟩ := each.covers r.report (List.mem_map_of_mem r_in) loud
  refine ⟨_, a_in, ?_, ?_⟩
  · exact (dqAlert_alertRow (written.2 r r_in) t).1
  · exact (dqAlert_alertRow (written.2 r r_in) t).2.2

/-- An alert that joins the table is about a finding that had none. -/
theorem silent_of_new (h : Consistent env runId pipeline results alerts) {f : Finding} {a : AlertRow}
    (named : a.alertId = alertId env runId pipeline f.source f.checkName)
    (fresh : a.key ∉ alerts.map AlertRow.key) : ¬ Told runId pipeline f.source f.checkName alerts := by
  rintro ⟨b, b_in, about⟩
  have same : b.key = a.key := (h.named _ _ b b_in about).trans named.symm
  exact fresh (same ▸ List.mem_map_of_mem b_in)

/-- The alerts of an attempt whose findings are steady. -/
theorem Consistent.emit (h : Consistent env runId pipeline results alerts)
    (steady : Steady env runId pipeline results alerts found)
    (written : Reports runId pipeline found reports)
    (each : Emitted env "DQ" (reports.map DqReport.report) emitted) :
    Consistent env runId pipeline (storedResults results reports)
      (insertNew AlertRow.key alerts emitted) := by
  have kept : Consistent env runId pipeline (storedResults results reports) alerts := h.store
  constructor
  · intro source check a member about
    obtain old | ⟨new, -⟩ := mem_insertNew.1 member
    · exact kept.loud source check a old about
    · obtain ⟨f, -, loud, -, severity, -⟩ := emitted_origin written each new
      exact severity ▸ loud
  · intro source check a member about
    obtain old | ⟨new, -⟩ := mem_insertNew.1 member
    · exact kept.named source check a old about
    · obtain ⟨f, -, -, about', -, named⟩ := emitted_origin written each new
      obtain ⟨rfl, rfl⟩ := about'.unique about
      exact named
  · intro source check a member about
    obtain old | ⟨new, -⟩ := mem_insertNew.1 member
    · exact kept.stored source check a old about
    · obtain ⟨f, f_in, -, about', -, -⟩ := emitted_origin written each new
      obtain ⟨rfl, rfl⟩ := about'.unique about
      obtain ⟨r, r_in, rfl⟩ := written.exists f_in
      have covered : r.toDqResult.key ∈ (storedResults results reports).map DqResult.key :=
        mem_keys_insertNew.2 (.inr (List.mem_map_of_mem (List.mem_map_of_mem r_in)))
      rw [written.key r_in] at covered
      exact List.mem_map.1 covered
  · intro source check a member about row present key
    obtain old | ⟨new, fresh⟩ := mem_insertNew.1 member
    · exact kept.severity source check a old about row present key
    · obtain ⟨f, f_in, loud, about', severity, named⟩ := emitted_origin written each new
      obtain ⟨rfl, rfl⟩ := about'.unique about
      rw [severity]
      exact steady.status_eq written f_in (silent_of_new h named fresh) present key (.inl loud)

/-- **An attempt that writes both tables.** -/
theorem Consistent.agree (h : Consistent env runId pipeline results alerts)
    (steady : Steady env runId pipeline results alerts found)
    (written : Reports runId pipeline found reports)
    (each : Emitted env "DQ" (reports.map DqReport.report) emitted) :
    Agree runId pipeline (storedResults results reports) (insertNew AlertRow.key alerts emitted) := by
  have after := h.emit steady written each
  have told (f : Finding) (f_in : f ∈ found) (loud : f.status.Loud) :
      Told runId pipeline f.source f.checkName (insertNew AlertRow.key alerts emitted) := by
    obtain ⟨a, a_in, about, named⟩ := emitted_covers written each f_in loud
    by_cases taken : a.key ∈ alerts.map AlertRow.key
    · obtain ⟨b, b_in, same⟩ := List.mem_map.1 taken
      have owner := steady.free f f_in loud b b_in (Eq.trans same named)
      exact ⟨b, mem_insertNew.2 (.inl b_in), owner⟩
    · exact ⟨a, mem_insertNew.2 (.inr ⟨a_in, taken⟩), about⟩
  constructor
  · intro source check
    constructor
    · rintro ⟨a, member, about⟩
      obtain ⟨row, present, key⟩ := after.stored source check a member about
      refine ⟨row, present, key, ?_⟩
      rw [after.severity source check a member about row present key]
      exact after.loud source check a member about
    · rintro ⟨row, present, key, loud⟩
      by_cases before : Told runId pipeline source check alerts
      · obtain ⟨a, member, about⟩ := before
        exact ⟨a, mem_insertNew.2 (.inl member), about⟩
      -- the attempt has found the result, with its status
      have origin : ∃ f ∈ found, f.source = source ∧ f.checkName = check := by
        have names : row.runId = runId ∧ row.source = source ∧ row.checkName = check := by
          simpa only [DqResult.key, Prod.mk.injEq] using key
        obtain ⟨run, rfl, rfl⟩ := names
        obtain old | ⟨new, -⟩ := mem_insertNew.1 present
        · exact steady.again row old run loud before
        · obtain ⟨r, r_in, rfl⟩ := List.mem_map.1 new
          exact ⟨r.finding, written.mem r_in, rfl, rfl⟩
      obtain ⟨f, f_in, rfl, rfl⟩ := origin
      have status := steady.status_eq written f_in before present key (.inr loud)
      exact told f f_in (status ▸ loud)
  · intro source check a member about row present key
    exact (after.severity source check a member about row present key).symm

end Tables

end Tikblog.Analytics
