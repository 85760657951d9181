import Mathlib.Algebra.Group.Nat.Defs
import Mathlib.Data.List.Nodup
import Tikblog.Analytics.Tables

/-!
# Decoding Kafka records

`decode` of `common/avro.py`. The records of a microbatch are grouped by the schema id in
their header, each group is read under its writer's schema, and the groups are united by
column name. Spark compares names without regard to case; the parts of Spark that the code
only calls are the fields of `Spark`.
-/

namespace Tikblog.Analytics

open Python

/-- A row of the Kafka source. -/
structure KafkaRecord where
  value : Option Bytes
  topic : String
  partition : Int
  offset : Int
  timestamp : Instant
  deriving DecidableEq, Repr

/-- The columns of a frame, as often as they occur. -/
abbrev Fields := List (String × DataType)

/-- The type of `from_avro`: a struct for a record schema. -/
inductive EventType where
  | struct (fields : Fields)
  | other (name : String)
  deriving DecidableEq, Repr

/-- What `decode` calls in Spark. -/
structure Spark where
  /-- `select(...).distinct().collect()`: each value once, in no particular order. -/
  distinct : List (Option Int) → List (Option Int)
  mem_distinct : ∀ ids id, id ∈ distinct ids ↔ id ∈ ids
  nodup_distinct : ∀ ids, (distinct ids).Nodup
  /-- The type `from_avro` has under a writer schema, which must be an Avro schema. -/
  avroType : String → Except PyException EventType
  /-- The fields of a payload that can be read under a schema. -/
  readAvro : String → Bytes → Option (String → Option Value)
  readAvro_typed : ∀ schema fields payload event name v, avroType schema = .ok (.struct fields) →
    readAvro schema payload = some event → event name = some v → fields.lookup name = some v.type
  /-- The type in which a union has a column that is of these types on its two sides. -/
  widen : DataType → DataType → Option DataType
  widen_self : ∀ t, widen t t = some t
  /-- A value in the type its column has been widened to. -/
  cast : DataType → Value → Option Value
  cast_typed : ∀ t v w, cast t v = some w → w.type = t
  cast_self : ∀ v, cast v.type v = some v
  base64 : Bytes → String

/-! ## The header -/

/-- `(length(value) >= 5) & (hex(substring(value, 1, 1)) == "00")`. -/
def headerOk (value : Bytes) : Bool := decide (5 ≤ value.length) && value.head? == some 0

/-- `conv(hex(...), 16, 10)` as a number. -/
def bigEndian (bytes : Bytes) : Nat := bytes.foldl (fun n b => n * 256 + b.toNat) 0

/-- `cast("int")`, which is null for a number out of range. -/
def castInt (n : Nat) : Option Int := if n < 2 ^ 31 then some n else none

/-- The column `schema_id`. -/
def KafkaRecord.schemaId (record : KafkaRecord) : Option Int :=
  match record.value with
  | none => none
  | some value => if headerOk value then castInt (bigEndian ((value.drop 1).take 4)) else none

/-- `substring(value, 6, length(value) - 5)`. -/
def KafkaRecord.payload (record : KafkaRecord) : Bytes := (record.value.getD []).drop 5

/-! ## Frames by column name -/

/-- Two names of one column. -/
def SameName (a b : String) : Prop := a.toLower = b.toLower

instance (a b : String) : Decidable (SameName a b) := inferInstanceAs (Decidable (_ = _))

/-- No two columns of one name. -/
def DistinctNames (fields : Fields) : Prop := (fields.map fun f => f.1.toLower).Nodup

instance (fields : Fields) : Decidable (DistinctNames fields) :=
  inferInstanceAs (Decidable (List.Nodup _))

/-- The columns a reference by this name means. -/
def referred (fields : Fields) (name : String) : Fields := fields.filter fun f => SameName f.1 name

/-- The schema of `EVENT`. -/
def expectedFields : Fields := eventColumns.map fun f => (f.1.name, f.2)

/-- `metadata` and `decode_error`. -/
def metadataFields : Fields :=
  [("schema_id", .int), ("kafka_topic", .string), ("kafka_partition", .int), ("kafka_offset", .bigint),
    ("kafka_timestamp", .timestamp), ("bronze_ingested_at", .timestamp), ("raw_value", .string),
    ("decode_error", .string)]

/-- A decoded record: the columns that came out of `_event`, and the others. -/
structure DecodedRow where
  event : String → Option Value
  schemaId : Option Int
  kafkaTopic : String
  kafkaPartition : Int
  kafkaOffset : Int
  kafkaTimestamp : Instant
  bronzeIngestedAt : Instant
  rawValue : Option String
  decodeError : Option String

/-- A frame of decoded records; `fields` are its columns before the metadata. -/
structure Part where
  fields : Fields
  rows : List DecodedRow

def Part.columns (part : Part) : Fields := part.fields ++ metadataFields

/-- `[f.name for f in expected.fields if actual.get(f.name) != f.dataType]`. -/
def mismatched (fields : Fields) : List String :=
  (expectedFields.filter fun f => fields.lookup f.1 ≠ some f.2).map (·.1)

section Decode

variable (spark : Spark)

/-- A record with its metadata. -/
def KafkaRecord.decoded (now : Instant) (event : String → Option Value) (problem : Option String)
    (record : KafkaRecord) : DecodedRow where
  event := event
  schemaId := record.schemaId
  kafkaTopic := record.topic
  kafkaPartition := record.partition
  kafkaOffset := record.offset
  kafkaTimestamp := record.timestamp
  bronzeIngestedAt := now
  rawValue := record.value.map spark.base64
  decodeError := problem

/-- The rows of a group that has a problem as a whole: the event columns are null. -/
def problemPart (now : Instant) (problem : String) (records : List KafkaRecord) : Part where
  fields := expectedFields
  rows := records.map (KafkaRecord.decoded spark now (fun _ => none) (some problem))

/-- `from_avro` in PERMISSIVE mode: every field of a payload that cannot be read is null. -/
def permissive (schema : String) (payload : Bytes) : String → Option Value :=
  (spark.readAvro schema payload).getD fun _ => none

/-- The rows of a group whose schema has the expected columns. -/
def eventPart (now : Instant) (schema : String) (fields : Fields) (records : List KafkaRecord) : Part where
  fields := fields
  rows := records.map fun record =>
    let event := permissive spark schema record.payload
    record.decoded spark now event (if event "event_id" = none then some "invalid_avro_payload" else none)

/-- The body of the loop: the records with this schema id. -/
def decodePart (registry : Int → Except PyException String) (now : Instant) (batch : List KafkaRecord)
    (schemaId : Option Int) : Except PyException Part :=
  let records := batch.filter fun record => record.schemaId = schemaId
  match schemaId with
  | none => .ok (problemPart spark now "invalid_confluent_frame" records)
  | some id => do
    let schema ← registry id
    match ← spark.avroType schema with
    | .other name => .error (.attributeError ("'" ++ name ++ "' object has no attribute 'fields'"))
    | .struct fields =>
      if mismatched fields ≠ [] then
        .ok (problemPart spark now ("schema_type_mismatch:" ++ ",".intercalate (mismatched fields)) records)
      else if (referred fields "event_id").length ≠ 1 then
        .error (.analysisException "[AMBIGUOUS_REFERENCE_TO_FIELDS]")
      else
        .ok (eventPart spark now schema fields records)

/-- A column of one side of a union, in the type it has in the result. -/
def unitedField (f : String × DataType) (others : Fields) : Option (String × DataType) :=
  match others.find? fun g => SameName g.1 f.1 with
  | none => some f
  | some g => (spark.widen f.2 g.2).map fun t => (f.1, t)

/-- The columns of a union: those of the left side, then what only the right side has. -/
def unitedFields (left right : Fields) : Option Fields := do
  let common ← left.mapM fun f => unitedField spark f right
  return common ++ right.filter fun g => (left.find? fun f => SameName f.1 g.1) = none

/-- A row in the columns of the union. -/
def DecodedRow.align (fields origin : Fields) (row : DecodedRow) : DecodedRow :=
  { row with event := fun name => do
      let t ← fields.lookup name
      let f ← origin.find? fun f => SameName f.1 name
      spark.cast t (← row.event f.1) }

/-- `a.unionByName(b, allowMissingColumns=True)`. -/
def unionByName (a b : Part) : Except PyException Part :=
  if ¬ (DistinctNames a.columns ∧ DistinctNames b.columns) then
    .error (.analysisException "[COLUMN_ALREADY_EXISTS]")
  else
    match unitedFields spark a.fields b.fields with
    | none => .error (.analysisException "[INCOMPATIBLE_COLUMN_TYPE]")
    | some fields =>
      .ok ⟨fields, a.rows.map (DecodedRow.align spark fields a.fields) ++
        b.rows.map (DecodedRow.align spark fields b.fields)⟩

/-- A row of the frame that `decode` returns. -/
structure BronzeRow extends DecodedRow where
  eventDate : Option Date

structure Decoded where
  columns : Fields
  rows : List BronzeRow

/-- The value of a timestamp column. -/
def eventTimestamp (event : String → Option Value) (name : String) : Option Instant :=
  match event name with
  | some (.timestamp t) => some t
  | _ => none

/-- `withColumn("event_date", to_date("requested_at"))`: a column of that name is replaced. -/
def withEventDate (part : Part) : Except PyException Decoded :=
  if (referred part.columns "requested_at").length ≠ 1 then
    .error (.analysisException "[AMBIGUOUS_REFERENCE]")
  else
    .ok {
      columns := (part.columns.map fun f => if SameName f.1 "event_date" then ("event_date", .date) else f) ++
        if referred part.columns "event_date" = [] then [("event_date", .date)] else []
      rows := part.rows.map fun row =>
        { row with
          event := fun name => if SameName name "event_date" then none else row.event name
          eventDate := (eventTimestamp row.event "requested_at").map toDate } }

/-- `decode`; `registry` is what `registry_schema` returns or raises for each id. -/
def decode (registry : Int → Except PyException String) (now : Instant) (batch : List KafkaRecord) :
    Except PyException (Option Decoded) := do
  let ids := spark.distinct (batch.map KafkaRecord.schemaId)
  match ← ids.mapM (decodePart spark registry now batch) with
  | [] => return none
  | first :: rest =>
    let united ← rest.foldlM (unionByName spark) first
    return some (← withEventDate united)

end Decode

end Tikblog.Analytics
