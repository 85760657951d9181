import Tikblog.Analytics.Gold

/-!
# The results of an attempt

The rows that `dq_result` makes differ from run to run in the time they carry. Without it they
are a function of the batch, of Silver, of the time the checks read and of the rows
`dropDuplicates` keeps. The programs that compute them read nothing but the time, so what they
return is known whatever they are answered (`Prog.Yields`).
-/

namespace Tikblog.Analytics

open Python Program Table

/-- The level of a result. -/
def dqStatus (env : Env) (check : String) (total failed : Int) (forceRed : Bool) : Status :=
  if forceRed then .red
  else
    status (some (if total = 0 then 0 else (failed : ℚ) / total))
      (some (if check.startsWith "duplicate_" then env.monitoring.duplicateFailedRate
        else env.monitoring.dqFailedRate))

def DqResult.undated (row : DqResult) : DqResult := { row with checkedAt := 0 }

/-- The row of `dq_result`, without its time. -/
def resultRow (env : Env) (runId pipeline layer : String) (source : Option String) (check : String)
    (total failed : Int) (forceRed : Bool) : DqResult where
  runId := runId
  pipelineName := pipeline
  layer := layer
  source := sourceOrUnknown source
  checkName := check
  status := dqStatus env check total failed forceRed
  totalRows := total
  failedRows := failed
  failedRate := if total = 0 then 0 else failed / total
  checkedAt := 0

/-! ## The rows of an attempt -/

section Rows

variable (env : Env) (runId pipeline : String)

def checkRows (checked : List CheckedRow) : List DqResult :=
  (groups (·.row.string .source) checked).flatMap fun source =>
    let rows := checked.filter fun r => r.row.string .source = source
    Check.all.map fun check =>
      let failed := (rows.filter fun r => check ∈ r.failedChecks).length
      resultRow env runId pipeline "SILVER" source check.name rows.length failed
        (check = .schemaAndDecode ∧ 0 < failed)

def duplicateRows (check : String) (valid : List Row) (total failed : List Row → Option String → Nat) :
    List DqResult :=
  (groups (·.string .source) valid).map fun source =>
    let rows := valid.filter fun row => row.string .source = source
    resultRow env runId pipeline "SILVER" source check (total rows source) (failed rows source) false

/-- The rows of the checks of a conformed batch at the time `now`, then those of its valid
rows. -/
def attemptRows (silver batch : Frame) (now : Instant) (unique : Frame) : List DqResult :=
  let valid := (validFrame now (conform env silver.schema batch)).rows
  checkRows env runId pipeline (checkedRows now (conform env silver.schema batch)) ++
    duplicateRows env runId pipeline "duplicate_event_id_in_batch" valid (fun rows _ => rows.length)
      (fun rows _ => rows.length - countDistinct .eventId rows) ++
    duplicateRows env runId pipeline "duplicate_event_id_already_in_silver" valid
      (fun rows _ => countDistinct .eventId rows) (fun _ source => alreadyIn silver unique source)

/-- The rows of a refresh. -/
def reconciledRows (joined : List Reconciled) : List DqResult :=
  (groups (·.source) joined).flatMap fun source =>
    let rows := joined.filter fun r => r.source = source
    GoldCheck.all.map fun check =>
      resultRow env runId "gold_refresh" "GOLD" source check.name rows.length
        (rows.filter fun r => !(check.rule r).getD false).length false

end Rows

/-! ## The programs that compute them -/

/-- The programs that compute reports only take the time. -/
inductive Timing : LakeOp → Prop where
  | utcnow : Timing .utcnow

theorem yields_call {P : LakeOp → Prop} {o : LakeOp} (h : P o) : (call o).Yields P fun _ => True := by
  refine ⟨h, ?_⟩
  intro answer
  cases answer <;> trivial

/-- The reports are these rows, apart from their times. -/
abbrev Undated (rows : List DqResult) (reports : List DqReport) : Prop :=
  reports.map (·.toDqResult.undated) = rows

theorem Undated.mem {rows : List DqResult} {reports : List DqReport} (h : Undated rows reports)
    {r : DqReport} (member : r ∈ reports) : r.toDqResult.undated ∈ rows := by
  rw [← h]
  exact List.mem_map_of_mem member

theorem Undated.append {rows rows' : List DqResult} {reports reports' : List DqReport}
    (h : Undated rows reports) (h' : Undated rows' reports') :
    Undated (rows ++ rows') (reports ++ reports') := by
  rw [Undated, List.map_append, h, h']

theorem yields_resultRow (env : Env) (runId pipeline layer : String) (source : Option String)
    (check : String) (total failed : Int) (forceRed : Bool) :
    (dqResult env runId pipeline layer source check total failed forceRed).Yields Timing fun r =>
      r.toDqResult.undated = resultRow env runId pipeline layer source check total failed forceRed ∧ True := by
  unfold dqResult
  apply (yields_call .utcnow).bind
  intro checkedAt _
  exact ⟨rfl, trivial⟩

/-- Reports in groups: the rows of one group after those of another. -/
theorem yields_groups {γ δ : Type} {body : γ → δ → LakeM DqReport} {row : γ → δ → DqResult}
    {checks : List δ}
    (each : ∀ g check, (body g check).Yields Timing fun r => r.toDqResult.undated = row g check ∧ True)
    (keys : List γ) :
    (do let reports ← Prog.mapEach keys fun g => Prog.mapEach checks (body g)
        return reports.flatten : LakeM (List DqReport)).Yields Timing
      (Undated (keys.flatMap fun g => checks.map (row g))) := by
  apply Prog.Yields.bind (Prog.Yields.mapEach (N := fun _ => True) (fun g => ?_) keys)
  · intro reports h
    have rows := h.1
    show List.map _ reports.flatten = _
    rw [List.map_flatten, rows, List.flatMap_def]
  · exact (Prog.Yields.mapEach (each g) checks).mono (fun _ h => h) fun _ h => ⟨h.1, trivial⟩

theorem yields_checkRows (env : Env) (runId pipeline : String) (checked : List CheckedRow) :
    (checkResults env runId pipeline checked).Yields Timing
      (Undated (checkRows env runId pipeline checked)) :=
  yields_groups (fun _ _ => yields_resultRow ..) _

theorem yields_duplicateRows (env : Env) (runId pipeline check : String) (valid : List Row)
    (total failed : List Row → Option String → Nat) :
    (duplicateResults env runId pipeline check valid total failed).Yields Timing
      (Undated (duplicateRows env runId pipeline check valid total failed)) :=
  (Prog.Yields.mapEach (fun _ => yields_resultRow ..) _).mono (fun _ h => h) fun _ h => h.1

theorem yields_reconciledRows (env : Env) (runId : String) (joined : List Reconciled) :
    (goldResults env runId joined).Yields Timing (Undated (reconciledRows env runId joined)) :=
  yields_groups (fun _ _ => yields_resultRow ..) _

end Tikblog.Analytics
