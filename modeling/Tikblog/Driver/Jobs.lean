import Tikblog.Program.Trace
import Tikblog.Program.Interpret
import Tikblog.Analytics.Bronze
import Tikblog.Analytics.Maintenance

/-!
# The jobs of the driver

`execute` of `jobs/main.py` with what it calls, `run` of `jobs/streams.py` and
`housekeeping` of `jobs/maintenance.py`. One process makes all these calls: `/run` requests
take turns by `batch_lock`, and whoever writes Silver or Gold holds `silver_gold_lock`.
Tables are created before anything runs, so that `bootstrap` finds them.
-/

namespace Tikblog.Driver

open Python Program Analytics

inductive Layer where
  | kafkaToBronze
  | bronzeToSilver
  deriving DecidableEq, Repr

def Layer.name : Layer → String
  | kafkaToBronze => "kafka_to_bronze"
  | bronzeToSilver => "bronze_to_silver"

/-- `f"{channel}_{layer}"`. -/
def pipelineOf (c : Channel) (layer : Layer) : String := c.name ++ "_" ++ layer.name

/-- The tables that `monitoring_retention_cleanup` clears. -/
inductive MonitoringTable where
  | dqResults
  | dqQuarantine
  | pipelineMetrics
  | alertEvents
  deriving DecidableEq, Repr

/-- What is asked of the system outside the program. `inside` and `outside` are calls on the
lake, with the lock and without it; `awaitTermination` waits for a query and reports its
progress, which may raise. -/
inductive Op where
  | start
  | lockBatch
  | unlockBatch
  | acquire (k : Call)
  | release
  | inside (k : Call) (o : LakeOp)
  | outside (o : LakeOp)
  | startQuery (c : Channel) (layer : Layer)
  | awaitTermination
  | ingest (c : Channel) (o : IngestOp)
  | nextBatch (c : Channel)
  | commitBatch (c : Channel) (batchId : Nat)
  | readBronze (c : Channel)
  | optimize (table : String)
  | vacuum (table : String)
  | deleteBronze (c : Channel) (days : Int)
  | deleteMonitoring (table : MonitoringTable) (days : Int)
  | random
  | sleep (seconds : ℚ)

abbrev Ans : Op → Type
  | .start | .lockBatch | .unlockBatch | .acquire _ | .release | .startQuery .. | .commitBatch .. => Unit
  | .inside _ o => o.Answer
  | .outside o => o.Answer
  | .awaitTermination => Except PyException Unit
  | .ingest _ o => o.Answer
  | .nextBatch _ => Nat × Frame
  | .readBronze _ => Except PyException Frame
  | .optimize _ | .vacuum _ | .deleteBronze .. | .deleteMonitoring .. => Except PyException Unit
  | .random => ℚ
  | .sleep _ => Unit

abbrev DriverM := Prog Op Ans PyException

abbrev call (o : Op) : DriverM (Ans o) := Prog.perform o

/-- Dates as text. Python has no date outside its range of years. -/
structure DateLibrary where
  isoformat : Date → Except PyException String
  fromisoformat : String → Except PyException Date
  /-- `datetime.fromisoformat`, as the instant Spark takes it for. -/
  instant : String → Except PyException Instant
  fromisoformat_isoformat : ∀ d text, isoformat d = .ok text → fromisoformat text = .ok d

/-- The configuration of a driver. -/
structure Config where
  delta : Settings
  env : Env
  spark : Spark
  dates : DateLibrary
  checkpoint : Channel → Layer → String
  bronzeRetentionDays : Int
  monitoringRetentionDays : Int
  optimizeGold : Bool

section Jobs

variable (cfg : Config)

/-- `with silver_gold_lock:` around a call. -/
def critical (k : Call) : DriverM Unit := do
  call (.acquire k)
  ((k.program cfg.env).embed (Op.inside k) fun _ a => a).finally' (call .release)

/-! ## Streams -/

/-- The `bronze_to_silver` query of a channel over a number of triggers. -/
def silverQuery (c : Channel) : (triggers : Nat) → DriverM Unit
  | 0 => return
  | triggers + 1 => do
    let (batchId, batch) ← call (.nextBatch c)
    let runId := cfg.checkpoint c .bronzeToSilver ++ ":" ++ toString batchId
    critical cfg (.validate batch runId (pipelineOf c .bronzeToSilver))
    call (.commitBatch c batchId)
    silverQuery c triggers

/-- A query from its start. -/
def query (c : Channel) (layer : Layer) (triggers : Nat) : DriverM Unit := do
  call (.startQuery c layer)
  match layer with
  | .kafkaToBronze =>
    (runQuery cfg.delta cfg.spark (cfg.checkpoint c layer) triggers).embed (Op.ingest c) fun _ a => a
  | .bronzeToSilver => silverQuery cfg c triggers

/-- Where a query can be stopped. A critical section ends by itself. -/
def Op.stops : Op → Bool
  | .ingest .. | .nextBatch _ | .commitBatch .. => true
  | _ => false

/-- `run` that waits for its query: a report that raises stops the query. -/
def run (c : Channel) (layer : Layer) (triggers : Nat) : DriverM Unit :=
  (query cfg c layer triggers).interruptible .awaitTermination (fun reported => reported) Op.stops

/-! ## Maintenance -/

/-- The calls of `backfill`. -/
def jobCall : (o : JobOp) → DriverM o.Answer
  | .readBronze c => call (.readBronze c)
  | .readSilver => call (.outside .readSilver)
  | .readGold => call (.outside .readGold)
  | .validateAndMerge batch runId pipeline => (critical cfg (.validate batch runId pipeline)).attempt
  | .refresh dates runId => (critical cfg (.refresh dates runId)).attempt

/-- The sleep of `retry`. -/
def pauseAfter (attempt : Nat) : DriverM Unit := do
  let jitter ← call .random
  call (.sleep (backoff cfg.delta attempt + jitter))

/-- A `DELETE` under `retry`. -/
def retryDelete (delete : DriverM (Except PyException Unit)) : DriverM Unit := do
  let _ ← retry cfg.delta (pauseAfter cfg) do Prog.ofExcept (← delete)
  return

def housekeeping (step : String) : DriverM Unit := do
  if step = "optimize_silver" then
    Prog.ofExcept (← call (.optimize "silver.unsubscribe_events"))
  else if step = "optimize_gold_if_needed" ∧ cfg.optimizeGold then
    Prog.ofExcept (← call (.optimize "gold.unsubscribe_daily"))
  else if step = "enforce_bronze_retention" then
    let _ ← Prog.mapEach [Channel.priority, .legal] fun c =>
      retryDelete cfg (call (.deleteBronze c cfg.bronzeRetentionDays))
    return
  else if step = "vacuum" then
    let tables := ["bronze.unsubscribe_priority", "bronze.unsubscribe_legal", "silver.unsubscribe_events",
      "gold.unsubscribe_daily"]
    let _ ← Prog.mapEach tables fun table => do Prog.ofExcept (← call (.vacuum table))
    return
  else if step = "monitoring_retention_cleanup" ∧ cfg.monitoringRetentionDays ≠ 0 then
    let tables := [MonitoringTable.dqResults, .dqQuarantine, .pipelineMetrics, .alertEvents]
    let _ ← Prog.mapEach tables fun table =>
      retryDelete cfg (call (.deleteMonitoring table cfg.monitoringRetentionDays))
    return

/-! ## execute -/

/-- The payload of a request, as the attributes of `SimpleNamespace(**payload)`. -/
abbrev Args := List (String × Json)

def Args.attr (args : Args) (name : String) : Except PyException Json :=
  match args.lookup name with
  | some value => .ok value
  | none => .error (.attributeError ("'types.SimpleNamespace' object has no attribute '" ++ name ++ "'"))

/-- `value == text`. -/
def isText (value : Json) (text : String) : Bool :=
  match value with
  | .str s => s == text
  | _ => false

/-- An attribute that is used as a string. -/
def Args.text (args : Args) (name : String) : Except PyException String := do
  match ← args.attr name with
  | .str s => return s
  | _ => throw (.typeError "fromisoformat: argument must be str")

/-- The stage that a request may run: the layer is looked at only for the Legal channel. -/
def Args.stage (args : Args) : Except PyException Layer := do
  if isText (← args.attr "channel") "legal" then
    let layer ← args.attr "layer"
    if isText layer "kafka_to_bronze" then return .kafkaToBronze
    if isText layer "bronze_to_silver" then return .bronzeToSilver
  throw (.valueError "HTTP batch stream must be a Legal stage")

/-- `[date.fromisoformat(d) for d in args.dates]`. -/
def Args.dates (args : Args) (lib : DateLibrary) : Except PyException (List Date) := do
  match ← args.attr "dates" with
  | .arr items => items.mapM fun
    | .str s => lib.fromisoformat s
    | _ => throw (.typeError "fromisoformat: argument must be str")
  | .obj items => items.mapM fun item => lib.fromisoformat item.1
  | .str s => s.toList.mapM fun c => lib.fromisoformat (String.ofList [c])
  | _ => throw (.typeError "object is not iterable")

/-- The layers of a backfill. -/
def Args.backfillLayer (args : Args) : Except PyException String := do
  let layer ← args.attr "layer"
  if isText layer "silver" then return "silver"
  if isText layer "gold" then return "gold"
  throw (.valueError "backfill layer must be silver or gold")

/-- `[d.isoformat() for d in dates]`. -/
def isoDates (lib : DateLibrary) (dates : List (Option Date)) : Except PyException (List String) :=
  dates.mapM fun
    | some d => lib.isoformat d
    | none => throw (.attributeError "'NoneType' object has no attribute 'isoformat'")

/-- What a request is answered: the dates of `touched`, or nothing. -/
abbrev Reply := Option (List String)

/-- `touched` between two instants given as text. -/
def touchedDates (args : Args) : DriverM (List (Option Date)) := do
  let start ← Prog.ofExcept (args.text "start" >>= cfg.dates.instant)
  let stop ← Prog.ofExcept (args.text "end" >>= cfg.dates.instant)
  (touched cfg.env start stop).embed Op.outside fun _ a => a

def runBackfill (args : Args) : DriverM Unit := do
  let layer ← Prog.ofExcept args.backfillLayer
  let start ← Prog.ofExcept (args.text "start" >>= cfg.dates.fromisoformat)
  let stop ← Prog.ofExcept (args.text "end" >>= cfg.dates.fromisoformat)
  let runId ← Prog.ofExcept (args.text "run_id")
  (Maintenance.backfill layer start stop runId).interpret (jobCall cfg)

/-- `execute`; a query runs for a number of triggers. -/
def execute (triggers : Nat) (args : Args) : DriverM Reply := do
  let action ← Prog.ofExcept (args.attr "action")
  if isText action "bootstrap" then return none
  else if isText action "stream" then do
    run cfg .legal (← Prog.ofExcept args.stage) triggers
    return none
  else if isText action "touched" then do
    let dates ← touchedDates cfg args
    return some (← Prog.ofExcept (isoDates cfg.dates dates))
  else if isText action "gold" then do
    let dates ← Prog.ofExcept (args.dates cfg.dates)
    let runId ← Prog.ofExcept (args.text "run_id")
    critical cfg (.refresh dates runId)
    return none
  else if isText action "freshness" then do
    let runId ← Prog.ofExcept (args.text "run_id")
    (freshness cfg.env runId).embed Op.outside fun _ a => a
    return none
  else if isText action "housekeeping" then do
    match ← Prog.ofExcept (args.attr "step") with
    | .str step => housekeeping cfg step
    | _ => return none
    return none
  else if isText action "backfill" then do
    runBackfill cfg args
    return none
  else throw (.valueError "Unknown job action")

/-- A `/run` request; what it raises is answered with status 500. -/
def request (triggers : Nat) (args : Args) : DriverM Reply := do
  call .lockBatch
  (execute cfg triggers args).finally' (call .unlockBatch)

end Jobs

end Tikblog.Driver
