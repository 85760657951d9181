import Tikblog.Program.Sessions
import Tikblog.Python.Runtime

/-!
# The Legal sensor

`legal_sensor.py` and the tasks of `analytics_legal_ingestion` that it wakes: `wait`, the two
AvailableNow stages, and the acknowledgement, each with its retries. Records of the Legal
topic are named by partition and offset. Between any two operations producers append,
retention expires records, and the stages move on: a query may outlive the task that started it.

A session is one run of the DAG, stopped at any point.
-/

namespace Tikblog.Airflow

open Python Program

inductive Stage where
  | kafkaToBronze
  | bronzeToSilver
  deriving DecidableEq, Repr

/-- The Legal topic, what the stages have carried of it, and the group of the sensor.
`offsets` are those of every record ever appended, `low` and `high` the watermarks. `read`
records the high watermarks read since `list_topics`. -/
structure LegalFlow where
  offsets : Int → List Nat
  low : Int → Nat
  high : Int → Nat
  bronze : Int → List Nat
  silver : Int → List Nat
  committed : Int → Option Nat
  read : List (Int × Nat)

/-- The event of the trigger: for each partition the high watermark it saw. -/
structure LegalEvent where
  topic : String
  offsets : List (Int × Nat)
  deriving DecidableEq, Repr

/-- A query that has been started, with what was available to it then. -/
structure Query where
  stage : Stage
  available : Int → List Nat

inductive SensorOp where
  | listTopics
  | committed (partitions : List Int)
  | getWatermarkOffsets (partition : Int)
  | assign (offsets : List (Int × Nat))
  | commit (offsets : List (Int × Nat))
  | close
  | sleep
  | start (stage : Stage)
  | awaitTermination (query : Query)
  | reportProgress (query : Query)
  | stop (query : Query)

/-- What the operations return. `listTopics` has the error of the topic or its partitions;
`committed` pairs each partition with an offset. -/
abbrev SensorOp.Value : SensorOp → Type
  | listTopics => Except String (List Int)
  | committed _ => List (Int × Int)
  | getWatermarkOffsets _ => Nat × Nat
  | start _ => Query
  | awaitTermination _ => Bool
  | assign _ | commit _ | close | sleep | reportProgress _ | stop _ => Unit

abbrev SensorOp.Answer (o : SensorOp) : Type := Except PyException o.Value

abbrev SensorM := Prog SensorOp SensorOp.Answer PyException

/-- An operation whose exception is raised. -/
def ask (o : SensorOp) : SensorM o.Value := do Prog.ofExcept (← Prog.perform o)

/-! ## legal_sensor.py -/

/-- The loop over `committed`. -/
def readEnds : List (Int × Int) → List (Int × Nat) → Bool → SensorM (List (Int × Nat) × Bool)
  | [], ends, pending => return (ends, pending)
  | (partition, offset) :: rest, ends, pending => do
    let (low, high) ← ask (.getWatermarkOffsets partition)
    let start := if offset ≥ 0 then offset else low
    readEnds rest (ends ++ [(partition, high)]) (pending || decide ((high : Int) > start))

/-- `pending_offsets`. -/
def pendingOffsets (topic : String) : SensorM (Option LegalEvent) :=
  Prog.finally' (do
    match ← ask .listTopics with
    | .error message => throw (.runtimeError message)
    | .ok partitions =>
      let committed ← ask (.committed partitions)
      let (ends, pending) ← readEnds committed [] false
      return if pending then some ⟨topic, ends⟩ else none) (ask .close)

/-- The loop of `LegalOffsetsTrigger.run`, left after a number of polls. -/
def waitForLegalEvents (topic : String) : (polls : Nat) → SensorM (Option LegalEvent)
  | 0 => return none
  | polls + 1 => do
    match ← pendingOffsets topic with
    | some event => return some event
    | none =>
      ask .sleep
      waitForLegalEvents topic polls

/-- `acknowledge_sensor`. -/
def acknowledgeSensor (event : LegalEvent) : SensorM Unit :=
  Prog.finally' (do
    ask (.assign event.offsets)
    ask (.commit event.offsets)) (ask .close)

/-! ## The DAG -/

/-- The loop of `run` over an AvailableNow query. Airflow waits for the answer of the driver
no longer than its timeout. -/
def awaitQuery (query : Query) : (rounds : Nat) → SensorM Unit
  | 0 => throw (.runtimeError "timed out")
  | rounds + 1 => do
    let terminated ← ask (.awaitTermination query)
    ask (.reportProgress query)
    if terminated then return
    awaitQuery query rounds

/-- `submit` of a Legal stage. -/
def submitStage (stage : Stage) (rounds : Nat) : SensorM Unit := do
  let query ← ask (.start stage)
  Prog.finally' (awaitQuery query rounds) (ask (.stop query))

/-- A task: Airflow's retries, and those an operator asks for. -/
def task {α : Type} (body : SensorM α) : (retries : Nat) → SensorM α
  | 0 => body
  | retries + 1 => body.tryCatch fun _ => do
    ask .sleep
    task body retries

/-- `wait >> bronze >> silver >> metrics`. -/
def analyticsLegalIngestion (topic : String) (retries rounds : Nat) : SensorM Unit := do
  match ← task (waitForLegalEvents topic rounds) retries with
  | none => return
  | some event =>
    task (submitStage .kafkaToBronze rounds) retries
    task (submitStage .bronzeToSilver rounds) retries
    task (acknowledgeSensor event) retries

/-! ## What the operations do -/

/-- What a stage reads: the retained records, or the Bronze table. -/
def LegalFlow.available (s : LegalFlow) : Stage → Int → List Nat
  | .kafkaToBronze => fun p => (s.offsets p).filter fun o => s.low p ≤ o
  | .bronzeToSilver => s.bronze

/-- What a stage has carried. -/
def LegalFlow.processed (s : LegalFlow) : Stage → Int → List Nat
  | .kafkaToBronze => s.bronze
  | .bronzeToSilver => s.silver

/-- Anything that happens meanwhile. Producers append from the high watermark on, no record
expires before it is in Bronze, and the stages carry only what is there. -/
structure LegalFlow.Moves (s t : LegalFlow) : Prop where
  appended : ∀ p, s.offsets p ⊆ t.offsets p
  fromHigh : ∀ p, ∀ o ∈ t.offsets p, o ∈ s.offsets p ∨ s.high p ≤ o ∧ o < t.high p
  high : ∀ p, s.high p ≤ t.high p
  low : ∀ p, s.low p ≤ t.low p
  unread : ∀ p, ∀ o ∈ t.offsets p, o < t.low p → o ∈ s.offsets p ∧ o < s.low p ∨ o ∈ t.bronze p
  bronze : ∀ p, s.bronze p ⊆ t.bronze p
  fromTopic : ∀ p, ∀ o ∈ t.bronze p, o ∈ s.bronze p ∨ o ∈ t.offsets p
  silver : ∀ p, s.silver p ⊆ t.silver p
  fromBronze : ∀ p, ∀ o ∈ t.silver p, o ∈ s.silver p ∨ o ∈ t.bronze p
  committed : t.committed = s.committed
  read : t.read = s.read

/-- `OFFSET_INVALID`, the offset of a partition without a commit. -/
def OFFSET_INVALID : Int := -1001

/-- What `committed` may say of a partition: its commit, or that it has none; the answer
about a partition may also be lost to an error that the code does not look at. -/
def LegalFlow.CommittedAnswer (s : LegalFlow) (answer : Int × Int) : Prop :=
  answer.2 = OFFSET_INVALID ∨ ∃ n : Nat, s.committed answer.1 = some n ∧ answer.2 = n

/-- The commit of each partition afterwards is the old one or the one asked for. -/
def LegalFlow.CommitsTo (s : LegalFlow) (offsets : List (Int × Nat)) (committed : Int → Option Nat) :
    Prop :=
  ∀ p, committed p = s.committed p ∨ ∃ n, (p, n) ∈ offsets ∧ committed p = some n

/-- Any operation may raise. A `commit` that does may have taken effect, on some partitions. -/
inductive SensorStep : (o : SensorOp) → LegalFlow → o.Answer → LegalFlow → Prop where
  | failed {o s e} : SensorStep o s (.error e) s
  | listTopics {s metadata} : SensorStep .listTopics s (.ok metadata) { s with read := [] }
  | committed {s partitions answers} : answers.map Prod.fst = partitions →
      (∀ answer ∈ answers, s.CommittedAnswer answer) →
      SensorStep (.committed partitions) s (.ok answers) s
  | watermarks {s p} : SensorStep (.getWatermarkOffsets p) s (.ok (s.low p, s.high p))
      { s with read := (p, s.high p) :: s.read }
  | assign {s offsets} : SensorStep (.assign offsets) s (.ok ()) s
  | commit {s offsets answer committed} : s.CommitsTo offsets committed →
      SensorStep (.commit offsets) s answer { s with committed := committed }
  | close {s} : SensorStep .close s (.ok ()) s
  | sleep {s} : SensorStep .sleep s (.ok ()) s
  | start {s stage} : SensorStep (.start stage) s (.ok ⟨stage, s.available stage⟩) s
  | running {s query} : SensorStep (.awaitTermination query) s (.ok false) s
  | terminated {s query} : (∀ p, query.available p ⊆ s.processed query.stage p) →
      SensorStep (.awaitTermination query) s (.ok true) s
  | reportProgress {s query} : SensorStep (.reportProgress query) s (.ok ()) s
  | stop {s query} : SensorStep (.stop query) s (.ok ()) s

/-- An operation, after whatever has happened. -/
def SensorExec : Exec SensorOp SensorOp.Answer LegalFlow :=
  fun o s a t => ∃ u, s.Moves u ∧ SensorStep o u a t

/-- The sensor has never committed. -/
structure LegalFlow.Fresh (s : LegalFlow) : Prop where
  below : ∀ p, ∀ o ∈ s.offsets p, o < s.high p
  read : ∀ p, ∀ o ∈ s.offsets p, o < s.low p → o ∈ s.bronze p
  fromTopic : ∀ p, s.bronze p ⊆ s.offsets p
  fromBronze : ∀ p, s.silver p ⊆ s.bronze p
  committed : ∀ p, s.committed p = none

/-- Runs of the DAG, one at a time, each with some number of retries and rounds. -/
def legalSensor (topic : String) :
    System (Nat × Nat) SensorOp SensorOp.Answer PyException Unit LegalFlow where
  init := LegalFlow.Fresh
  begins _ s t := s.Moves t
  program := fun (retries, rounds) => analyticsLegalIngestion topic retries rounds
  exec _ := SensorExec

end Tikblog.Airflow
