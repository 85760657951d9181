import Mathlib.Data.Finset.Defs
import Tikblog.Program.Interleaving
import Tikblog.Table.Keyed
import Tikblog.Analytics.Tables

/-!
# Alerts about failed Airflow tasks

`task_failed` of `analytics_tasks.py` and the two ways its row takes through the driver: the
spool directory, which the main loop empties, and `POST /failure`. Callbacks, request
handlers and drivers run at the same time. A process that crashes is one that does nothing
more; a driver may start while an old one still runs, which only adds to what can happen.
-/

namespace Tikblog.Airflow

open Python Program Analytics

/-- A task instance that has failed. -/
structure TaskFailure where
  dagId : String
  runId : String
  taskId : String
  deriving DecidableEq, Repr

/-- What identifies the failure: `f"{run_id}:{task_id}"`. -/
def TaskFailure.identity (task : TaskFailure) : String := task.runId ++ ":" ++ task.taskId

/-- The body of `POST /failure`. -/
structure Payload where
  runId : String
  pipelineName : String
  alertId : String
  message : String
  deriving DecidableEq, Repr

/-- The content of a spool file. -/
structure SpoolRow extends Payload where
  source : String
  alertType : String
  severity : Status
  status : Status
  metricName : String
  currentValue : ℚ
  threshold : ℚ
  deriving DecidableEq, Repr

/-- `hashlib.sha256(...).hexdigest()` and the text of `context["exception"]`, where there is one. -/
structure Env where
  sha256 : String → String
  exception : TaskFailure → Option String

def TaskFailure.alertId (env : Env) (task : TaskFailure) : String := env.sha256 task.identity

def TaskFailure.payload (env : Env) (task : TaskFailure) : Payload where
  runId := task.runId
  pipelineName := task.dagId
  alertId := task.alertId env
  message := takeChars 2000 ((env.exception task).getD "Airflow task failed")

def Payload.spoolRow (payload : Payload) : SpoolRow where
  toPayload := payload
  source := "ALL"
  alertType := "AIRFLOW_TASK_FAILURE"
  severity := .red
  status := .red
  metricName := "task_failure"
  currentValue := 1
  threshold := 1

/-- The row the main loop inserts for a spool file. -/
def SpoolRow.alert (row : SpoolRow) (createdAt : Instant) : AlertRow where
  alertId := row.alertId
  createdAt := createdAt
  pipelineName := row.pipelineName
  source := some row.source
  alertType := row.alertType
  severity := row.severity
  status := row.status
  metricName := row.metricName
  currentValue := row.currentValue
  threshold := some row.threshold
  message := row.message
  runId := row.runId

/-- The row `/failure` inserts. -/
def Payload.alert (payload : Payload) (createdAt : Instant) : AlertRow where
  alertId := payload.alertId
  createdAt := createdAt
  pipelineName := payload.pipelineName
  source := some "ALL"
  alertType := "AIRFLOW_TASK_FAILURE"
  severity := .red
  status := .red
  metricName := "task_failure"
  currentValue := 1
  threshold := some 1
  message := payload.message
  runId := payload.runId

/-- Spool files are named by alert id: `temporary` with `.tmp`, the others with `.json`. -/
inductive AlertOp where
  | mkdir
  | writeTemporary (alertId : String) (row : SpoolRow)
  | replace (alertId : String)
  | callWriter (payload : Payload)
  | receive
  | glob
  | readText (alertId : String)
  | now
  | insertAlerts (rows : List AlertRow)
  | unlink (alertId : String)
  | checkQueries

abbrev AlertOp.Answer : AlertOp → Type
  | mkdir => Except PyException Unit
  | writeTemporary _ _ => Except PyException Unit
  | replace _ => Except PyException Unit
  | callWriter _ => Except PyException Unit
  | receive => Payload
  | glob => List String
  | readText _ => Except PyException SpoolRow
  | now => Instant
  | insertAlerts _ => Except PyException Unit
  | unlink _ => Except PyException Unit
  | checkQueries => Except PyException Unit

abbrev AlertM := Prog AlertOp AlertOp.Answer PyException

/-- `task_failed`: a failed call of the writer is logged. -/
def taskFailed (env : Env) (task : TaskFailure) : AlertM Unit := do
  let payload := task.payload env
  Prog.ofExcept (← Prog.perform .mkdir)
  Prog.ofExcept (← Prog.perform (.writeTemporary payload.alertId payload.spoolRow))
  Prog.ofExcept (← Prog.perform (.replace payload.alertId))
  let _ ← Prog.perform (.callWriter payload)

/-- `do_POST` on `/failure`: an exception is logged and answered with 500. -/
def postFailure : AlertM Unit := do
  let payload ← Prog.perform .receive
  let createdAt ← Prog.perform .now
  let _ ← Prog.perform (.insertAlerts [payload.alert createdAt])

/-- The body of the loop over the spool files. -/
def recordFile (alertId : String) : AlertM Unit := do
  let row ← Prog.ofExcept (← Prog.perform (.readText alertId))
  let createdAt ← Prog.perform .now
  Prog.ofExcept (← Prog.perform (.insertAlerts [row.alert createdAt]))
  Prog.ofExcept (← Prog.perform (.unlink alertId))

/-- The main loop of `serve`, for a number of passes: the spool, then the queries, which end
the process when one of them has stopped. -/
def serve : (passes : Nat) → AlertM Unit
  | 0 => return ()
  | passes + 1 => do
    let files ← Prog.perform .glob
    let _ ← Prog.mapEach files recordFile
    Prog.ofExcept (← Prog.perform .checkQueries)
    serve passes

/-! ## The processes -/

/-- The callbacks of the failed tasks, the handlers of requests, and the drivers. -/
inductive Process (failed : Finset TaskFailure) where
  | callback (task : {task // task ∈ failed})
  | handler (n : Nat)
  | driver (n passes : Nat)
  deriving DecidableEq

/-- The spool directory, the requests under way and `monitoring.alert_events`. `spooled`
records whose callback has renamed its file. -/
structure Alerting where
  temporary : String → Option SpoolRow
  spool : List (String × SpoolRow)
  requests : List Payload
  rows : List AlertRow
  spooled : List TaskFailure

/-- A row of another kind, under an id that no failed task has. -/
def Foreign (env : Env) (failed : Finset TaskFailure) (row : AlertRow) : Prop :=
  row.alertType ≠ "AIRFLOW_TASK_FAILURE" ∧ ∀ task ∈ failed, row.alertId ≠ task.alertId env

section

variable {failed : Finset TaskFailure}

/-- A callback puts its task down when it has renamed its file. -/
def Process.spools : Process failed → List TaskFailure
  | .callback task => [task.1]
  | _ => []

/-- What the operations of a process do. Calls between processes and calls of Spark may fail
with or without effect, and the jobs of the driver insert alerts of their own. -/
inductive AlertExec (env : Env) (process : Process failed) :
    (o : AlertOp) → Alerting → o.Answer → Alerting → Prop where
  | mkdir {s r} : AlertExec env process .mkdir s r s
  | wrote {s id row} : AlertExec env process (.writeTemporary id row) s (.ok ())
      { s with temporary := Function.update s.temporary id (some row) }
  | writeFailed {s id row e} : AlertExec env process (.writeTemporary id row) s (.error e) s
  | renamed {s id row} : s.temporary id = some row → AlertExec env process (.replace id) s (.ok ())
      { s with
        temporary := Function.update s.temporary id none
        spool := (id, row) :: s.spool.filter (·.1 ≠ id)
        spooled := s.spooled ++ process.spools }
  | renameFailed {s id e} : AlertExec env process (.replace id) s (.error e) s
  | posted {s payload r} : AlertExec env process (.callWriter payload) s r
      { s with requests := s.requests ++ [payload] }
  | notPosted {s payload e} : AlertExec env process (.callWriter payload) s (.error e) s
  | received {s payload} : payload ∈ s.requests → AlertExec env process .receive s payload
      { s with requests := s.requests.erase payload }
  | listed {s ids} : ids.Perm (s.spool.map (·.1)) → AlertExec env process .glob s ids s
  | read {s id row} : s.spool.lookup id = some row → AlertExec env process (.readText id) s (.ok row) s
  | readFailed {s id e} : AlertExec env process (.readText id) s (.error e) s
  | now {s t} : AlertExec env process .now s t s
  | inserted {s rows r} : AlertExec env process (.insertAlerts rows) s r
      { s with rows := Table.insertNew AlertRow.key s.rows rows }
  | insertFailed {s rows e} : AlertExec env process (.insertAlerts rows) s (.error e) s
  | unlinked {s id} : AlertExec env process (.unlink id) s (.ok ())
      { s with spool := s.spool.filter (·.1 ≠ id) }
  | unlinkFailed {s id e} : AlertExec env process (.unlink id) s (.error e) s
  | checkedQueries {s rows r} : (∀ row ∈ rows, Foreign env failed row) → (rows.map AlertRow.key).Nodup →
      AlertExec env process .checkQueries s r
        { s with rows := Table.insertNew AlertRow.key s.rows rows }

/-- The callbacks of the failed tasks, any number of handlers and any number of drivers, from
an empty spool and a table without alerts of this kind. -/
def alerting (env : Env) (failed : Finset TaskFailure) :
    Interleaving (Process failed) AlertOp AlertOp.Answer PyException Unit Alerting where
  init s := (∀ id, s.temporary id = none) ∧ s.spool = [] ∧ s.requests = [] ∧ s.spooled = [] ∧
    (s.rows.map AlertRow.key).Nodup ∧ ∀ row ∈ s.rows, Foreign env failed row
  program
    | .callback task => taskFailed env task.1
    | .handler _ => postFailure
    | .driver _ passes => serve passes
  exec := AlertExec env

end

end Tikblog.Airflow
