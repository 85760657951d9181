import Tikblog.Analytics.Observability

/-!
# Validation and merge

`common/dq.py`: a Bronze batch is checked row by row, rows that fail a check go to the
quarantine, and the others, one per event id, are merged into Silver. The calls are in the
order of the source, with the point where each lazy frame is evaluated.
-/

namespace Tikblog.Analytics

open Python Program Table

/-! ## The checks -/

inductive Check where
  | eventIdRequired
  | userIdRequired
  | writerIdRequired
  | sourceValid
  | requestedAtRequired
  | requestedAtNotFuture
  | schemaAndDecode
  deriving DecidableEq, Repr

def Check.name : Check → String
  | eventIdRequired => "event_id_required"
  | userIdRequired => "user_id_required"
  | writerIdRequired => "writer_id_required"
  | sourceValid => "source_valid"
  | requestedAtRequired => "requested_at_required"
  | requestedAtNotFuture => "requested_at_not_future"
  | schemaAndDecode => "schema_and_decode"

def Check.all : List Check :=
  [eventIdRequired, userIdRequired, writerIdRequired, sourceValid, requestedAtRequired,
    requestedAtNotFuture, schemaAndDecode]

/-- `AND` of SQL: false wins over null. -/
def sqlAnd : Option Bool → Option Bool → Option Bool
  | some false, _ => some false
  | _, some false => some false
  | some true, some true => some true
  | _, _ => none

/-- `trim` of Spark: spaces only. -/
def trim (s : String) : String := stripWhere (· == ' ') s

def sources : List String := ["UI", "CUSTOMER_SUCCESS", "LEGAL"]

/-- `col.isNotNull() & (trim(col) != "")`. -/
def notBlank (row : Row) (c : Column) : Option Bool :=
  sqlAnd (some (row c).isSome) ((row.string c).map fun s => trim s ≠ "")

/-- The rule of a check on a row, null where SQL makes it null. -/
def Check.rule (now : Instant) (row : Row) : Check → Option Bool
  | eventIdRequired => notBlank row .eventId
  | userIdRequired => notBlank row .userId
  | writerIdRequired => notBlank row .writerId
  | sourceValid => (row.string .source).map fun s => s ∈ sources
  | requestedAtRequired => some (row .requestedAt).isSome
  | requestedAtNotFuture => (row.timestamp .requestedAt).map fun t => t ≤ now
  | schemaAndDecode => some (row .decodeError).isNone

/-- The `failed_checks` of a row: a null rule fails. -/
def failedChecks (now : Instant) (row : Row) : List Check :=
  Check.all.filter fun check => !(check.rule now row).getD false

/-! ## A batch that does not fit Silver -/

/-- The Silver columns the batch has with another type, or lacks though the event needs
them. -/
def incompatible (target actual : Schema) : List Column :=
  (target.filter fun f =>
    (actual.typeOf f.1 ≠ none ∧ actual.typeOf f.1 ≠ some f.2) ∨
      (eventColumns.typeOf f.1 ≠ none ∧ actual.typeOf f.1 = none)).map (·.1)

/-- The batch as it is checked: unchanged when it fits, otherwise its rows as JSON, with
typed nulls in the columns that do not fit and a decode error on every row. -/
def conform (env : Env) (target : Schema) (batch : Frame) : Frame :=
  if incompatible target batch.schema = [] then batch
  else
    let raw := batch.withColumn .rawValue .string fun row => Cell.string (env.toJson batch.schema row)
    let nulls := target.filter fun f => batch.schema.typeOf f.1 ≠ some f.2
    let typed := nulls.foldl (fun frame f => frame.withColumn f.1 f.2 fun _ => Cell.null f.2) raw
    typed.withColumn .decodeError .string fun _ =>
      Cell.string ("schema_type_mismatch:" ++
        ",".intercalate ((incompatible target batch.schema).map Column.name))

/-! ## Checked rows -/

/-- `coalesce("source", "UNKNOWN")`. -/
def knownSource (row : Row) : Cell .string := Cell.string ((row.string .source).getD "UNKNOWN")

structure CheckedRow where
  row : Row
  failedChecks : List Check

def checkedRow (now : Instant) (row : Row) : CheckedRow where
  row := Function.update row .source ((knownSource row).map (·.1))
  failedChecks := failedChecks now row

def checkedRows (now : Instant) (batch : Frame) : List CheckedRow := batch.rows.map (checkedRow now)

def quarantineRow (runId pipeline : String) (quarantinedAt : Instant) (checked : CheckedRow) :
    QuarantineRow where
  runId := runId
  pipelineName := pipeline
  source := checked.row.string .source
  eventId := checked.row.string .eventId
  userId := checked.row.string .userId
  writerId := checked.row.string .writerId
  requestedAt := checked.row.timestamp .requestedAt
  kafkaTopic := checked.row.string .kafkaTopic
  kafkaPartition := checked.row.int .kafkaPartition
  kafkaOffset := checked.row.bigint .kafkaOffset
  failedChecks := checked.failedChecks.map Check.name
  failureReason := ",".intercalate (checked.failedChecks.map Check.name)
  quarantinedAt := quarantinedAt
  rawValue := checked.row.string .rawValue

/-- The rows `insert_once` is given for the quarantine. -/
def quarantineRows (runId pipeline : String) (now quarantinedAt : Instant) (batch : Frame) :
    List QuarantineRow :=
  ((checkedRows now batch).filter fun checked => checked.failedChecks ≠ []).map
    (quarantineRow runId pipeline quarantinedAt)

/-- The checked rows without a failed check, as a frame. -/
def validFrame (now : Instant) (batch : Frame) : Frame :=
  ((batch.filter fun row => failedChecks now row = []).withColumn .source .string knownSource).drop
    .failedChecks

/-- The accepted rows with the time they enter Silver. -/
def preparedFrame (unique : Frame) (processedAt : Instant) : Frame :=
  unique.withColumn .silverProcessedAt .timestamp fun _ => Cell.timestamp processedAt

/-! ## The program -/

/-- Spark refuses to resolve a column the frame does not have. -/
def requireColumns (schema : Schema) (columns : List Column) : LakeM Unit :=
  match columns.find? fun c => schema.typeOf c = none with
  | some c => throw (.analysisException c.name)
  | none => return ()

/-- `countDistinct`. -/
def countDistinct (c : Column) (rows : List Row) : Nat := (rows.filterMap (· c)).dedup.length

theorem countDistinct_le (c : Column) (rows : List Row) : countDistinct c rows ≤ rows.length :=
  le_trans (List.dedup_sublist _).length_le (List.length_filterMap_le ..)

/-- Where no value is null. -/
theorem countDistinct_eq {c : Column} {rows : List Row} (present : ∀ row ∈ rows, row c ≠ none) :
    countDistinct c rows = (rows.map (· c)).dedup.length := by
  have values : rows.map (· c) = (rows.filterMap (· c)).map some := by
    induction rows with
    | nil => rfl
    | cons row rows ih =>
      obtain ⟨v, hv⟩ := Option.ne_none_iff_exists'.1 (present row List.mem_cons_self)
      rw [List.map_cons, @List.filterMap_cons_some _ _ (fun row : Row => row c) _ _ v hv, List.map_cons, hv,
        ih fun row member => present row (List.mem_cons_of_mem _ member)]
  rw [values, List.dedup_map_of_injective (Option.some_injective _), List.length_map]
  rfl

/-- One result for each source and check. -/
def checkResults (env : Env) (runId pipeline : String) (checked : List CheckedRow) :
    LakeM (List DqReport) := do
  let reports ← Prog.mapEach (groups (·.row.string .source) checked) fun source =>
    let rows := checked.filter fun r => r.row.string .source = source
    Prog.mapEach Check.all fun check =>
      let failed := (rows.filter fun r => check ∈ r.failedChecks).length
      dqResult env runId pipeline "SILVER" source check.name rows.length failed
        (check = .schemaAndDecode ∧ 0 < failed)
  return reports.flatten

/-- One result for each source of the valid rows. -/
def duplicateResults (env : Env) (runId pipeline check : String) (valid : List Row)
    (total failed : List Row → Option String → Nat) : LakeM (List DqReport) :=
  Prog.mapEach (groups (·.string .source) valid) fun source =>
    let rows := valid.filter fun row => row.string .source = source
    dqResult env runId pipeline "SILVER" source check (total rows source) (failed rows source) false

/-- The rows of a source whose event id Silver already holds. -/
def alreadyIn (existing : Frame) (unique : Frame) (source : Option String) : Nat :=
  (unique.rows.filter fun row => row.string .source = source ∧ (row .eventId).isSome ∧
    row .eventId ∈ existing.rows.map (· .eventId)).length

/-- From the accepted rows to Silver. The frame of unique rows is evaluated again here, so
another row of an event id may be kept than was counted. -/
def mergeAccepted (env : Env) (valid : Frame) (runId pipeline : String) : LakeM Unit := do
  let unique ← call (.dropDuplicates valid)
  let processedAt ← call (.currentTimestamp .silverProcessedAt)
  let prepared := preparedFrame unique processedAt
  call (.mergeSilver prepared)
  requireColumns prepared.schema [.bronzeIngestedAt]
  let metrics ← latencyMetrics env prepared.rows (·.string .source)
    (fun row => do
      let processed ← row.timestamp .silverProcessedAt
      let ingested ← row.timestamp .bronzeIngestedAt
      return secondsOf processed - secondsOf ingested)
    "processing" runId pipeline
  writeMetrics env metrics

/-- The duplicates among the valid rows and in Silver are counted and all results of the
batch written, before the merge. -/
def acceptValid (env : Env) (valid : Frame) (results : List DqReport) (runId pipeline : String) :
    LakeM Unit := do
  let inBatch ← duplicateResults env runId pipeline "duplicate_event_id_in_batch" valid.rows
    (fun rows _ => rows.length) fun rows _ => rows.length - countDistinct .eventId rows
  let existing ← call .readSilver
  let unique ← call (.dropDuplicates valid)
  let inSilver ← duplicateResults env runId pipeline "duplicate_event_id_already_in_silver" valid.rows
    (fun rows _ => countDistinct .eventId rows) fun _ source => alreadyIn existing unique source
  writeDq env (results ++ inBatch ++ inSilver)
  mergeAccepted env valid runId pipeline

def validateBatch (env : Env) (batch : Frame) (runId pipeline : String) : LakeM Unit := do
  let silver ← call .readSilver
  let batch := conform env silver.schema batch
  requireColumns batch.schema [.eventId, .userId, .writerId, .source, .requestedAt, .decodeError]
  let now ← call (.currentTimestamp .checks)
  let results ← checkResults env runId pipeline (checkedRows now batch)
  requireColumns batch.schema [.kafkaTopic, .kafkaPartition, .kafkaOffset, .rawValue]
  let quarantinedAt ← call (.currentTimestamp .quarantinedAt)
  call (.insertQuarantine (quarantineRows runId pipeline now quarantinedAt batch))
  acceptValid env (validFrame now batch) results runId pipeline

/-- `validate_and_merge`, inside the lock. -/
def validateAndMerge (env : Env) (batch : Frame) (runId pipeline : String) : LakeM Unit :=
  if batch.rows.isEmpty then return () else validateBatch env batch runId pipeline

end Tikblog.Analytics
