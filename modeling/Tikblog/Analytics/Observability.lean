import Mathlib.Algebra.Order.Ring.Rat
import Tikblog.Table.Query
import Tikblog.Analytics.Lake

/-!
# Results, metrics and alerts

`common/observability.py`: the status of a value against the thresholds of
`monitoring.yaml`, the rows written for it, and an alert for every row that is YELLOW or
RED.
-/

namespace Tikblog.Analytics

open Python Program Table

structure Thresholds where
  yellow : ℚ
  red : ℚ
  deriving DecidableEq, Repr

/-- `monitoring.yaml`: thresholds by metric and, within a metric, by source. -/
structure Monitoring where
  dqFailedRate : Thresholds
  duplicateFailedRate : Thresholds
  metrics : List (String × List (String × Thresholds))

/-- What the jobs take from Spark and from Python's library, and their configuration. -/
structure Env where
  /-- `to_json(struct(*))` of a row. -/
  toJson : Schema → Row → String
  /-- The 50th and 95th percentile of at least one value. -/
  percentileApprox : List ℚ → ℚ × ℚ
  sha256 : String → String
  /-- `str` of a float. -/
  str : ℚ → String
  monitoring : Monitoring
  goldLookbackMinutes : Int

/-- `config.status`. -/
def status (value : Option ℚ) (thresholds : Option Thresholds) : Status :=
  match thresholds, value with
  | some thresholds, some value =>
    if thresholds.red ≤ value then .red
    else if thresholds.yellow ≤ value then .yellow
    else .green
  | _, _ => .unknown

/-- The threshold a level names: `thresholds.get(level.lower(), 0)`. -/
def Thresholds.get (thresholds : Thresholds) : Status → ℚ
  | .yellow => thresholds.yellow
  | .red => thresholds.red
  | _ => 0

/-- The keys of a result or a metric that `emit_alerts` reads. -/
structure Report where
  status : Status
  runId : String
  pipelineName : String
  source : Option String
  metricName : Option String
  checkName : Option String
  kafkaTopic : Option String
  kafkaPartition : Option Int
  value : Option ℚ
  threshold : Option ℚ

/-- `str(row.get(k))`. -/
def strOrNone : Option String → String
  | some s => s
  | none => "None"

def Report.identity (row : Report) : String :=
  ":".intercalate
    [row.runId, row.pipelineName, strOrNone row.source, strOrNone row.metricName, strOrNone row.checkName,
      strOrNone row.kafkaTopic, strOrNone (row.kafkaPartition.map toString)]

def alertRow (env : Env) (row : Report) (kind : String) (createdAt : Instant) : AlertRow :=
  let name := strOrNone (row.metricName.or row.checkName)
  { alertId := env.sha256 row.identity
    createdAt := createdAt
    pipelineName := row.pipelineName
    source := row.source
    alertType := kind
    severity := row.status
    status := row.status
    metricName := name
    currentValue := row.value.getD 0
    threshold := row.threshold
    message := name ++ ": " ++ strOrNone (row.value.map env.str) ++ " (" ++ row.status.name ++ ")"
    runId := row.runId }

/-- `records`: nothing is written for no rows. -/
def records {ρ : Type} (insert : List ρ → LakeM Unit) (rows : List ρ) : LakeM Unit :=
  if rows.isEmpty then return () else insert rows

def emitAlerts (env : Env) (rows : List Report) (kind : String) : LakeM Unit := do
  let alerts ← Prog.mapEach (rows.filter fun row => row.status = .yellow ∨ row.status = .red) fun row => do
    let createdAt ← call .utcnow
    return alertRow env row kind createdAt
  records (fun rows => call (.insertAlerts rows)) alerts

/-! ## Data quality results -/

/-- The dictionary `dq_result` returns: the row, and the threshold only alerts use. -/
structure DqReport extends DqResult where
  threshold : Option ℚ
  deriving DecidableEq, Repr

def DqReport.report (r : DqReport) : Report where
  status := r.status
  runId := r.runId
  pipelineName := r.pipelineName
  source := some r.source
  metricName := none
  checkName := some r.checkName
  kafkaTopic := none
  kafkaPartition := none
  value := some r.failedRate
  threshold := r.threshold

/-- `source or "UNKNOWN"`. -/
def sourceOrUnknown : Option String → String
  | none => "UNKNOWN"
  | some source => if source = "" then "UNKNOWN" else source

def dqResult (env : Env) (runId pipeline layer : String) (source : Option String) (check : String)
    (total failed : Int) (forceRed : Bool) : LakeM DqReport := do
  let thresholds :=
    if check.startsWith "duplicate_" then env.monitoring.duplicateFailedRate else env.monitoring.dqFailedRate
  let rate : ℚ := if total = 0 then 0 else failed / total
  let level := if forceRed then .red else status (some rate) (some thresholds)
  let checkedAt ← call .utcnow
  return {
    runId := runId
    pipelineName := pipeline
    layer := layer
    source := sourceOrUnknown source
    checkName := check
    status := level
    totalRows := total
    failedRows := failed
    failedRate := rate
    checkedAt := checkedAt
    threshold := if level = .green then none else some (thresholds.get level) }

def writeDq (env : Env) (rows : List DqReport) : LakeM Unit := do
  records (fun rows => call (.insertDqResults rows)) (rows.map (·.toDqResult))
  emitAlerts env (rows.map (·.report)) "DQ"

/-! ## Metrics -/

structure MetricReport extends MetricRow where
  threshold : Option ℚ
  deriving DecidableEq, Repr

def MetricReport.report (r : MetricReport) : Report where
  status := r.status
  runId := r.runId
  pipelineName := r.pipelineName
  source := r.source
  metricName := some r.metricName
  checkName := none
  kafkaTopic := r.kafkaTopic
  kafkaPartition := r.kafkaPartition
  value := r.metricValue
  threshold := r.threshold

/-- `choices.get(source, choices.get("default"))`. -/
def Monitoring.thresholds (monitoring : Monitoring) (name : String) (source : Option String) :
    Option Thresholds :=
  let choices := (monitoring.metrics.lookup name).getD []
  (source.bind fun source => choices.lookup source).or (choices.lookup "default")

/-- `metric` without a window, topic or partition, as the jobs on Silver and Gold call it. -/
def metric (env : Env) (runId pipeline : String) (source : Option String) (name : String)
    (value : Option ℚ) (unit : String) : LakeM MetricReport := do
  let thresholds := env.monitoring.thresholds name source
  let level := status value thresholds
  let observedAt ← call .utcnow
  return {
    observedAt := observedAt
    windowStart := none
    windowEnd := none
    pipelineName := pipeline
    source := source
    metricName := name
    metricValue := value
    unit := unit
    status := level
    runId := runId
    kafkaTopic := none
    kafkaPartition := none
    threshold :=
      if level = .yellow ∨ level = .red then thresholds.map (·.get level) else none }

def writeMetrics (env : Env) (rows : List MetricReport) : LakeM Unit := do
  records (fun rows => call (.insertMetrics rows)) (rows.map (·.toMetricRow))
  emitAlerts env (rows.map (·.report)) "METRIC"

/-- `latency_metrics`: two percentiles per source. A source with no value at all makes
`zip` fail on the null percentiles. -/
def latencyMetrics {ρ : Type} (env : Env) (rows : List ρ) (source : ρ → Option String)
    (expression : ρ → Option ℚ) (name runId pipeline : String) : LakeM (List MetricReport) := do
  let reports ← Prog.mapEach (groups source rows) fun group => do
    let values := (rows.filter fun row => source row = group).filterMap expression
    if values.isEmpty then
      throw (.typeError "'NoneType' object is not iterable")
    let (p50, p95) := env.percentileApprox values
    let first ← metric env runId pipeline group (name ++ "_p50_seconds") (some p50) "seconds"
    let second ← metric env runId pipeline group (name ++ "_p95_seconds") (some p95) "seconds"
    return [first, second]
  return reports.flatten

/-- `cast("double")` of a timestamp: seconds. -/
def secondsOf (t : Instant) : ℚ := t / microsPerSecond

/-! ## What reporting leaves alone -/

/-- The calls that only read, take the time or write to the monitoring tables. -/
inductive Reporting : LakeOp → Prop where
  | utcnow : Reporting .utcnow
  | insertDqResults {rows} : Reporting (.insertDqResults rows)
  | insertMetrics {rows} : Reporting (.insertMetrics rows)
  | insertAlerts {rows} : Reporting (.insertAlerts rows)

theorem uses_call {P : LakeOp → Prop} {o : LakeOp} (h : P o) : (call o).Uses P := by
  unfold call
  refine Prog.Uses.bind ⟨h, fun _ => trivial⟩ ?_
  intro r
  exact trivial

theorem uses_records {P : LakeOp → Prop} {ρ : Type} {insert : List ρ → LakeM Unit} {rows : List ρ}
    (h : (insert rows).Uses P) : (records insert rows).Uses P := by
  unfold records
  split
  · exact trivial
  · exact h

theorem uses_emitAlerts (env : Env) (rows : List Report) (kind : String) :
    (emitAlerts env rows kind).Uses Reporting := by
  unfold emitAlerts
  refine Prog.Uses.bind (Prog.Uses.mapEach ?_ _) fun alerts => uses_records (uses_call .insertAlerts)
  intro row
  exact Prog.Uses.bind (uses_call .utcnow) fun _ => trivial

theorem uses_writeDq (env : Env) (rows : List DqReport) : (writeDq env rows).Uses Reporting :=
  Prog.Uses.bind (uses_records (uses_call .insertDqResults)) fun _ => uses_emitAlerts ..

theorem uses_writeMetrics (env : Env) (rows : List MetricReport) : (writeMetrics env rows).Uses Reporting :=
  Prog.Uses.bind (uses_records (uses_call .insertMetrics)) fun _ => uses_emitAlerts ..

end Tikblog.Analytics
