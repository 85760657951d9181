import Tikblog.Program.Sessions
import Tikblog.Analytics.Delta
import Tikblog.Analytics.Decode

/-!
# Kafka to Bronze

The `kafka_to_bronze` stage of a channel as Spark runs it: a batch is planned by writing the
end of its offsets into the offset log, handed to `process`, and then put down in the commit
log. A query that starts again replays a planned batch that has no commit. The Bronze table
remembers the last `txnVersion` of each `txnAppId` and skips an append that is not newer.

A session is one start of the query, stopped at any point. Producers append to the topic at
any time.
-/

namespace Tikblog.Analytics

open Python Program

/-- The records of a topic by partition, oldest first. -/
structure TopicLog (topic : String) where
  records : Int → List KafkaRecord
  own : ∀ p, ∀ r ∈ records p, r.topic = topic ∧ r.partition = p
  ordered : ∀ p, (records p).Pairwise fun a b => a.offset < b.offset

/-- The two logs of the query, and the Bronze table with its transaction versions. A position
is the number of records before it. `appended` records the batches whose append took effect. -/
structure Ingestion (topic : String) where
  log : TopicLog topic
  offsets : List (Int → Nat)
  commits : Nat
  rows : List BronzeRow
  txnVersion : String → Option Nat
  appended : List Nat

inductive IngestOp where
  | nextBatch
  | registry
  | currentTimestamp
  | append (txnAppId : String) (txnVersion : Nat) (rows : List BronzeRow)
  | random
  | sleep (seconds : ℚ)
  | commitBatch (batchId : Nat)

/-- Answers: a batch comes with its id, and `registry` with what each id is answered. -/
abbrev IngestOp.Answer : IngestOp → Type
  | nextBatch => Nat × List KafkaRecord
  | registry => Int → Except PyException String
  | currentTimestamp => Instant
  | append _ _ _ => Except PyException Unit
  | random => ℚ
  | sleep _ => Unit
  | commitBatch _ => Unit

abbrev IngestM := Prog IngestOp IngestOp.Answer PyException

/-- The sleep of `retry`. -/
def pauseAfter (cfg : Settings) (attempt : Nat) : IngestM Unit := do
  let jitter ← Prog.perform IngestOp.random
  Prog.perform (IngestOp.sleep (backoff cfg attempt + jitter))

/-- `append_bronze`. -/
def appendBronze (cfg : Settings) (rows : List BronzeRow) (runId : String) (batchId : Nat) :
    IngestM (Option Unit) :=
  retry cfg (pauseAfter cfg) do Prog.ofExcept (← Prog.perform (IngestOp.append runId batchId rows))

/-- `process`; `identity` is the checkpoint of the pipeline. -/
def process (cfg : Settings) (spark : Spark) (identity : String) (batch : List KafkaRecord)
    (batchId : Nat) : IngestM Unit := do
  if batch.isEmpty then return
  let registry ← Prog.perform IngestOp.registry
  let now ← Prog.perform IngestOp.currentTimestamp
  match ← Prog.ofExcept (decode spark registry now batch) with
  | none => return
  | some decoded =>
    let _ ← appendBronze cfg decoded.rows identity batchId

/-- The query over a number of triggers. -/
def runQuery (cfg : Settings) (spark : Spark) (identity : String) : (triggers : Nat) → IngestM Unit
  | 0 => return
  | triggers + 1 => do
    let (batchId, batch) ← Prog.perform IngestOp.nextBatch
    process cfg spark identity batch batchId
    Prog.perform (IngestOp.commitBatch batchId)
    runQuery cfg spark identity triggers

/-! ## The engine -/

section

variable {topic : String}

/-- Where the batch before `batchId` ends. -/
def Ingestion.startOf (s : Ingestion topic) : (batchId : Nat) → Int → Nat
  | 0 => fun _ => 0
  | previous + 1 => (s.offsets[previous]?).getD fun _ => 0

/-- The records of one partition between two positions. -/
def slice (records : List KafkaRecord) (start stop : Nat) : List KafkaRecord :=
  (records.take stop).drop start

/-- A planned batch: what lies between the end of the one before it and its own end. -/
def Ingestion.batch (partitions : List Int) (s : Ingestion topic) (batchId : Nat) : List KafkaRecord :=
  partitions.flatMap fun p =>
    slice (s.log.records p) (s.startOf batchId p) (s.startOf (batchId + 1) p)

def Ingestion.plan (s : Ingestion topic) (stop : Int → Nat) : Ingestion topic :=
  { s with offsets := s.offsets ++ [stop] }

/-- An append that takes effect. -/
def Ingestion.append (s : Ingestion topic) (txnAppId : String) (txnVersion : Nat)
    (rows : List BronzeRow) : Ingestion topic :=
  { s with
    rows := s.rows ++ rows
    txnVersion := Function.update s.txnVersion txnAppId (some txnVersion)
    appended := s.appended ++ [txnVersion] }

/-- The table has a version of this application that is not older. -/
def Ingestion.Held (s : Ingestion topic) (txnAppId : String) (txnVersion : Nat) : Prop :=
  ∃ last, s.txnVersion txnAppId = some last ∧ txnVersion ≤ last

/-- What the operations do. A planned batch without a commit is replayed, and only then a new
one is planned; an append may raise before it takes effect or after. -/
inductive IngestStep (partitions : List Int) :
    (o : IngestOp) → Ingestion topic → o.Answer → Ingestion topic → Prop where
  | replayed {s} : s.commits < s.offsets.length →
      IngestStep partitions .nextBatch s (s.commits, s.batch partitions s.commits) s
  | planned {s stop} : s.commits = s.offsets.length →
      (∀ p, s.startOf s.commits p ≤ stop p ∧ stop p ≤ (s.log.records p).length) →
      IngestStep partitions .nextBatch s (s.commits, (s.plan stop).batch partitions s.commits) (s.plan stop)
  | registry {s answers} : IngestStep partitions .registry s answers s
  | currentTimestamp {s t} : IngestStep partitions .currentTimestamp s t s
  | skipped {s app version rows} : s.Held app version →
      IngestStep partitions (.append app version rows) s (.ok ()) s
  | appended {s app version rows} : ¬ s.Held app version →
      IngestStep partitions (.append app version rows) s (.ok ()) (s.append app version rows)
  | appendLost {s app version rows e} : ¬ s.Held app version →
      IngestStep partitions (.append app version rows) s (.error e) (s.append app version rows)
  | appendFailed {s app version rows e} : IngestStep partitions (.append app version rows) s (.error e) s
  | random {s drawn} : IngestStep partitions .random s drawn s
  | sleep {s seconds} : IngestStep partitions (.sleep seconds) s () s
  | committed {s batchId} :
      IngestStep partitions (.commitBatch batchId) s () { s with commits := batchId + 1 }

/-- Producers append; nothing else changes. -/
def Ingestion.Arrives (s t : Ingestion topic) : Prop :=
  (∀ p, s.log.records p <+: t.log.records p) ∧ t = { s with log := t.log }

/-- An operation, after whatever has arrived. -/
def IngestExec (partitions : List Int) : Exec IngestOp IngestOp.Answer (Ingestion topic) :=
  fun o s a t => ∃ u, s.Arrives u ∧ IngestStep partitions o u a t

/-- Nothing planned, and an empty table. -/
def Ingestion.Fresh (s : Ingestion topic) : Prop :=
  s.offsets = [] ∧ s.commits = 0 ∧ s.rows = [] ∧ (∀ app, s.txnVersion app = none) ∧ s.appended = []

/-- The stage: a session is a start of the query that makes some number of triggers. -/
def kafkaToBronze (cfg : Settings) (spark : Spark) (identity topic : String) (partitions : List Int) :
    System Nat IngestOp IngestOp.Answer PyException Unit (Ingestion topic) where
  init := Ingestion.Fresh
  begins _ s t := s.Arrives t
  program := runQuery cfg spark identity
  exec _ := IngestExec partitions

end

end Tikblog.Analytics
