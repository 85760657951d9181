import Tikblog.Avro.Record
import Tikblog.Contracts.Event

/-!
# The Avro encoding of an event

`UnsubscribeEventAvro` under the repository's schema: the mapping of an event to the record
that Avro writes and back, and the Confluent frame (a zero byte and the schema id) around
it. What fastavro and the registry client do with other schemas and with bytes they cannot
read is a parameter.
-/

namespace Tikblog.Contracts

open Python

/-- A record of the Avro library: field names and Python values. -/
abbrev Dict := Avro.Dict Datetime

/-- `unsubscribe_event.avsc`. -/
def schema : List (Avro.Field Datetime) :=
  [⟨"event_id", .string, none⟩,
   ⟨"user_id", .string, none⟩,
   ⟨"writer_id", .string, none⟩,
   ⟨"source", .enum ["UI", "CUSTOMER_SUCCESS", "LEGAL"], none⟩,
   ⟨"requested_at", .timestampMillis, none⟩,
   ⟨"request_id", .string, none⟩,
   ⟨"cs_agent_id", .nullable .string, some .null⟩,
   ⟨"legal_batch_id", .nullable .string, some .null⟩]

/-- An optional string; `None` is the Avro null. -/
def optional : Option String → Avro.Value Datetime
  | none => .null
  | some s => .str s

def eventToDict (event : UnsubscribeEvent) : Dict :=
  [("event_id", .str event.eventId),
   ("user_id", .str event.userId),
   ("writer_id", .str event.writerId),
   ("source", .str event.source.value),
   ("requested_at", .time event.requestedAt),
   ("request_id", .str event.requestId),
   ("cs_agent_id", optional event.csAgentId),
   ("legal_batch_id", optional event.legalBatchId)]

/-- `values[key]`. -/
def getItem (values : Dict) (key : String) : Except PyException (Avro.Value Datetime) :=
  match values.lookup key with
  | some value => .ok value
  | none => .error (.keyError key)

/-- `values[key]` for a field of type `str`, which the schema sees to. -/
def getString (values : Dict) (key : String) : Except PyException String := do
  match ← getItem values key with
  | .str s => return s
  | _ => throw (.typeError (key ++ " must be str"))

/-- `values[key]` for a field of type `str | None`. -/
def getOptional (values : Dict) (key : String) : Except PyException (Option String) := do
  match ← getItem values key with
  | .str s => return some s
  | .null => return none
  | _ => throw (.typeError (key ++ " must be str"))

/-- `UnsubscribeSource(value)`. -/
def UnsubscribeSource.ofValue (value : String) : Except PyException UnsubscribeSource :=
  if value = "UI" then .ok .ui
  else if value = "CUSTOMER_SUCCESS" then .ok .customerSuccess
  else if value = "LEGAL" then .ok .legal
  else .error (.valueError ("'" ++ value ++ "' is not a valid UnsubscribeSource"))

def eventFromDict (values : Dict) : Except PyException UnsubscribeEvent := do
  match ← getItem values "requested_at" with
  | .time requestedAt =>
    let eventId ← getString values "event_id"
    let userId ← getString values "user_id"
    let writerId ← getString values "writer_id"
    let source ← UnsubscribeSource.ofValue (← getString values "source")
    let requestId ← getString values "request_id"
    let csAgentId ← getOptional values "cs_agent_id"
    let legalBatchId ← getOptional values "legal_batch_id"
    UnsubscribeEvent.new eventId userId writerId source requestedAt requestId csAgentId legalBatchId
  | _ => throw (.typeError "requested_at must be datetime")

/-! ## Bytes -/

/-- The first instant of year 1 and the last microsecond of year 9999, in UTC. -/
def minInstant : Instant := -719162 * microsPerDay
def maxInstant : Instant := 2932897 * microsPerDay - 1

example : civil (minInstant / microsPerDay) = (1, 1, 1) ∧
    civil (maxInstant / microsPerDay) = (9999, 12, 31) := by decide

/-- `timestamp-millis`: the microseconds are dropped, and a UTC datetime comes back, where
there is one. -/
def clock : Avro.Clock Datetime where
  millis t := t.instant / 1000
  read millis :=
    if minInstant ≤ millis * 1000 ∧ millis * 1000 ≤ maxInstant then some ⟨millis * 1000, some 0⟩ else none

/-- The frame of schema `schemaId`. -/
def confluentFrame (schemaId : Nat) : Bytes :=
  0 :: [schemaId / 2 ^ 24, schemaId / 2 ^ 16, schemaId / 2 ^ 8, schemaId].map Nat.toUInt8

/-- The schema id a frame names, and what it frames. -/
def openFrame : Bytes → Option (Nat × Bytes)
  | 0 :: a :: b :: c :: d :: payload =>
    some (((a.toNat * 256 + b.toNat) * 256 + c.toNat) * 256 + d.toNat, payload)
  | _ => none

theorem openFrame_confluentFrame {schemaId : Nat} (fits : schemaId < 2 ^ 32) (payload : Bytes) :
    openFrame (confluentFrame schemaId ++ payload) = some (schemaId, payload) := by
  simp only [confluentFrame, List.map_cons, List.map_nil, List.cons_append, List.nil_append, openFrame,
    Nat.toUInt8_eq, UInt8.toNat_ofNat', Option.some.injEq, Prod.mk.injEq, and_true]
  omega

/-- The union `["null", "string"]`. -/
def avroOption : Option String → Bytes
  | none => Avro.long 0
  | some s => Avro.long 1 ++ Avro.string s

def avroSource (source : UnsubscribeSource) : Bytes :=
  Avro.long (["UI", "CUSTOMER_SUCCESS", "LEGAL"].idxOf source.value)

theorem write_string (s : String) : Avro.FieldType.string.write clock (.str s) = some (Avro.string s) := rfl

theorem write_time (t : Datetime) :
    Avro.FieldType.timestampMillis.write clock (.time t) = some (Avro.long (t.instant / 1000)) := rfl

theorem write_optional (o : Option String) :
    (Avro.FieldType.nullable .string).write clock (optional o) = some (avroOption o) := by
  cases o <;> rfl

theorem write_source (source : UnsubscribeSource) :
    (Avro.FieldType.enum ["UI", "CUSTOMER_SUCCESS", "LEGAL"]).write clock (.str source.value) =
      some (avroSource source) := by
  cases source <;> rfl

/-- Every event fits the schema; its bytes, field by field. -/
theorem writeRecord_eventToDict (event : UnsubscribeEvent) :
    Avro.writeRecord clock (eventToDict event) schema = some (
      Avro.string event.eventId ++ (Avro.string event.userId ++ (Avro.string event.writerId ++
      (avroSource event.source ++ (Avro.long (event.requestedAt.instant / 1000) ++
      (Avro.string event.requestId ++ (avroOption event.csAgentId ++
      (avroOption event.legalBatchId ++ [])))))))) := by
  simp [schema, Avro.writeRecord, Avro.Field.value, eventToDict, List.lookup_cons, write_string, write_time,
    write_optional, write_source]

/-- The payload of a frame. -/
def payloadOf (event : UnsubscribeEvent) : Bytes :=
  (Avro.writeRecord clock (eventToDict event) schema).get (by rw [writeRecord_eventToDict]; rfl)

/-- `to_bytes`. -/
def toBytes (schemaId : Nat) (event : UnsubscribeEvent) : Bytes := confluentFrame schemaId ++ payloadOf event

/-- The registry and the Avro library of a deployment: the id of the repository's schema,
the schemas of other ids, how records of those are resolved, and the exception for bytes
that cannot be read. -/
structure AvroLibrary where
  schemaId : Nat
  schemaOf : Nat → Option (List (Avro.Field Datetime))
  resolve : List (Avro.Field Datetime) → Bytes → Except PyException Dict
  failure : Bytes → PyException
  schemaId_lt : schemaId < 2 ^ 32
  registered : schemaOf schemaId = some schema

/-- `from_bytes`. -/
def fromBytes (lib : AvroLibrary) (data : Bytes) : Except PyException UnsubscribeEvent := do
  match openFrame data with
  | none => throw (lib.failure data)
  | some (id, payload) =>
    match lib.schemaOf id with
    | none => throw (lib.failure data)
    | some writer =>
      if writer = schema then
        match Avro.readRecord clock schema payload with
        | none => throw (lib.failure data)
        | some (values, _) => eventFromDict values
      else eventFromDict (← lib.resolve writer payload)

end Tikblog.Contracts
