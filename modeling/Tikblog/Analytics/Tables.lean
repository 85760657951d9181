import Mathlib.Data.Rat.Defs
import Tikblog.Analytics.Frame

/-!
# The tables of the lake

The schemas of `TABLES` and the keys of `KEYS`. Silver evolves, so it is a `Frame`; the
other tables have the fixed columns of their row types.
-/

namespace Tikblog.Analytics

open Python

/-- `EVENT`. -/
def eventColumns : Schema :=
  [(.eventId, .string), (.userId, .string), (.writerId, .string), (.source, .string),
    (.requestedAt, .timestamp), (.requestId, .string), (.csAgentId, .string), (.legalBatchId, .string)]

/-- `META`. -/
def metaColumns : Schema :=
  [(.schemaId, .int), (.kafkaTopic, .string), (.kafkaPartition, .int), (.kafkaOffset, .bigint),
    (.kafkaTimestamp, .timestamp), (.bronzeIngestedAt, .timestamp), (.eventDate, .date),
    (.decodeError, .string), (.rawValue, .string)]

/-- `bronze.unsubscribe_priority` and `bronze.unsubscribe_legal`. -/
def bronzeColumns : Schema := eventColumns ++ metaColumns

theorem bronzeColumns_nodup : bronzeColumns.columns.Nodup := by decide

/-- `silver.unsubscribe_events`. -/
def silverColumns : Schema := eventColumns ++ metaColumns ++ [(.silverProcessedAt, .timestamp)]

/-- The day a timestamp falls on: `to_date` in a UTC session. -/
def toDate (t : Instant) : Date := t / microsPerDay

/-- `gold.unsubscribe_daily`. -/
structure GoldRow where
  eventDate : Option Date
  source : Option String
  unsubscribeCount : Nat
  uniqueReaders : Nat
  uniqueWriters : Nat
  goldUpdatedAt : Instant
  deriving DecidableEq, Repr

inductive Status where
  | green
  | yellow
  | red
  | unknown
  deriving DecidableEq, Repr

def Status.name : Status → String
  | green => "GREEN"
  | yellow => "YELLOW"
  | red => "RED"
  | unknown => "UNKNOWN"

/-- `monitoring.dq_results`. -/
structure DqResult where
  runId : String
  pipelineName : String
  layer : String
  source : String
  checkName : String
  status : Status
  totalRows : Int
  failedRows : Int
  failedRate : ℚ
  checkedAt : Instant
  deriving DecidableEq, Repr

/-- `monitoring.dq_quarantine`. -/
structure QuarantineRow where
  runId : String
  pipelineName : String
  source : Option String
  eventId : Option String
  userId : Option String
  writerId : Option String
  requestedAt : Option Instant
  kafkaTopic : Option String
  kafkaPartition : Option Int
  kafkaOffset : Option Int
  failedChecks : List String
  failureReason : String
  quarantinedAt : Instant
  rawValue : Option String
  deriving DecidableEq, Repr

/-- `monitoring.pipeline_metrics`. -/
structure MetricRow where
  observedAt : Instant
  windowStart : Option Instant
  windowEnd : Option Instant
  pipelineName : String
  source : Option String
  metricName : String
  metricValue : Option ℚ
  unit : String
  status : Status
  runId : String
  kafkaTopic : Option String
  kafkaPartition : Option Int
  deriving DecidableEq, Repr

/-- `monitoring.alert_events`. -/
structure AlertRow where
  alertId : String
  createdAt : Instant
  pipelineName : String
  source : Option String
  alertType : String
  severity : Status
  status : Status
  metricName : String
  currentValue : ℚ
  threshold : Option ℚ
  message : String
  runId : String
  deriving DecidableEq, Repr

/-! ## The keys of the monitoring tables -/

def DqResult.key (r : DqResult) : String × String × String := (r.runId, r.source, r.checkName)

def QuarantineRow.key (r : QuarantineRow) : String × Option String × Option Int × Option Int :=
  (r.runId, r.kafkaTopic, r.kafkaPartition, r.kafkaOffset)

def MetricRow.key (r : MetricRow) : String × Option String × String × Option String × Option Int :=
  (r.runId, r.source, r.metricName, r.kafkaTopic, r.kafkaPartition)

def AlertRow.key (r : AlertRow) : String := r.alertId

end Tikblog.Analytics
