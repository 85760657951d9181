import Tikblog.Contracts.Avro

/-!
# The Avro round trip

An event written by `to_bytes` should come back from `from_bytes`: the same event, at the
same instant floored to the millisecond. It does, and to the same bytes again, for the
instants of the years 1 to 9999 in UTC. The constructor takes any aware datetime, and the
offset can put the instant outside these years: such an event is written and can never be
read.
-/

namespace Tikblog.Contracts

open Python

/-- The event a reader should find, `requested_at` aside. -/
structure SameFields (found written : UnsubscribeEvent) : Prop where
  eventId : found.eventId = written.eventId
  userId : found.userId = written.userId
  writerId : found.writerId = written.writerId
  source : found.source = written.source
  requestId : found.requestId = written.requestId
  csAgentId : found.csAgentId = written.csAgentId
  legalBatchId : found.legalBatchId = written.legalBatchId

/-- The round trip of one event. -/
structure RoundTrips (lib : AvroLibrary) (event found : UnsubscribeEvent) : Prop where
  read : fromBytes lib (toBytes lib.schemaId event) = .ok found
  fields : SameFields found event
  floored : found.requestedAt.instant = event.requestedAt.instant / 1000 * 1000
  aware : found.requestedAt.utcoffset.isSome
  again : toBytes lib.schemaId found = toBytes lib.schemaId event

/-- The event as a reader finds it, `requested_at` being in UTC. -/
def UnsubscribeEvent.floored (event : UnsubscribeEvent) : UnsubscribeEvent where
  eventId := event.eventId
  userId := event.userId
  writerId := event.writerId
  source := event.source
  requestedAt := ⟨event.requestedAt.instant / 1000 * 1000, some 0⟩
  requestId := event.requestId
  csAgentId := event.csAgentId
  legalBatchId := event.legalBatchId
  aware := rfl

theorem floored_instant (event : UnsubscribeEvent) :
    event.floored.requestedAt.instant = event.requestedAt.instant / 1000 * 1000 := by
  simp [UnsubscribeEvent.floored, Datetime.instant]

/-- The two mappings agree on every field. -/
theorem eventFromDict_eventToDict (event : UnsubscribeEvent) :
    eventFromDict (eventToDict event) = .ok event := by
  obtain ⟨eventId, userId, writerId, source, requestedAt, requestId, csAgentId, legalBatchId, aware⟩ := event
  have id : UnsubscribeEvent.new eventId userId writerId source requestedAt requestId csAgentId legalBatchId =
      .ok ⟨eventId, userId, writerId, source, requestedAt, requestId, csAgentId, legalBatchId, aware⟩ :=
    dif_pos aware
  rw [← id]
  cases source <;> cases csAgentId <;> cases legalBatchId <;> rfl

/-- The record of the event, at another time. -/
def dictAt (event : UnsubscribeEvent) (time : Datetime) : Dict :=
  [("event_id", .str event.eventId),
   ("user_id", .str event.userId),
   ("writer_id", .str event.writerId),
   ("source", .str event.source.value),
   ("requested_at", .time time),
   ("request_id", .str event.requestId),
   ("cs_agent_id", optional event.csAgentId),
   ("legal_batch_id", optional event.legalBatchId)]

theorem eventToDict_floored (event : UnsubscribeEvent) :
    eventToDict event.floored = dictAt event ⟨event.requestedAt.instant / 1000 * 1000, some 0⟩ := rfl

/-- A reader that converts times in its own way finds the record at the time it has. -/
theorem readBack_eventToDict (reader : Avro.Clock Datetime) (event : UnsubscribeEvent) :
    Avro.readBack reader (eventToDict event) schema =
      (reader.read (reader.millis event.requestedAt)).map (dictAt event) := by
  have string : ∀ s, Avro.Value.readBack reader (.str s) = some (.str s) := fun s => rfl
  have null : ∀ o, (optional o).readBack reader = some (optional o) := by
    intro o
    cases o <;> rfl
  have time : Avro.Value.readBack reader (.time event.requestedAt) =
      (reader.read (reader.millis event.requestedAt)).map .time := rfl
  cases read : reader.read (reader.millis event.requestedAt) <;>
    simp [schema, Avro.readBack, Avro.Field.value, eventToDict, List.lookup_cons, string, null, time, read, dictAt]

theorem toBytes_floored (schemaId : Nat) (event : UnsubscribeEvent) :
    toBytes schemaId event.floored = toBytes schemaId event := by
  have millis : event.floored.requestedAt.instant / 1000 = event.requestedAt.instant / 1000 := by
    rw [floored_instant]
    exact Int.mul_ediv_cancel _ (by decide)
  simp only [toBytes, payloadOf, writeRecord_eventToDict, millis]
  rfl

/-- Flooring to the millisecond does not leave the years 1 to 9999. -/
theorem readable_iff (n : Int) :
    minInstant ≤ n / 1000 * 1000 ∧ n / 1000 * 1000 ≤ maxInstant ↔ minInstant ≤ n ∧ n ≤ maxInstant := by
  show (-62135596800000000 : Int) ≤ n / 1000 * 1000 ∧ n / 1000 * 1000 ≤ (253402300799999999 : Int) ↔
    (-62135596800000000 : Int) ≤ n ∧ n ≤ (253402300799999999 : Int)
  omega

/-- What a reader makes of the payload of an event. -/
theorem readRecord_payloadOf {reader : Avro.Clock Datetime} (same : reader.millis = clock.millis)
    (event : UnsubscribeEvent) :
    Avro.readRecord reader schema (payloadOf event) =
      (reader.read (event.requestedAt.instant / 1000)).map fun time => (dictAt event time, []) := by
  have written : Avro.writeRecord reader (eventToDict event) schema = some (payloadOf event) := by
    rw [Avro.writeRecord_congr same]
    simp [payloadOf]
  have read := Avro.readRecord_writeRecord reader [] written
  rw [List.append_nil, readBack_eventToDict, same] at read
  rw [read, Option.map_map]
  rfl

/-- A reader that takes every time. -/
def everyTime : Avro.Clock Datetime where
  millis := clock.millis
  read millis := some ⟨millis * 1000, some 0⟩

/-- The bytes tell the events apart, but for the time below the millisecond. -/
theorem floored_of_toBytes {schemaId : Nat} {event event' : UnsubscribeEvent}
    (same : toBytes schemaId event = toBytes schemaId event') : event.floored = event'.floored := by
  have read : ∀ e, Avro.readRecord everyTime schema (payloadOf e) = some (eventToDict e.floored, []) :=
    fun e => readRecord_payloadOf (show everyTime.millis = clock.millis from rfl) e
  have payloads : payloadOf event = payloadOf event' := by
    have tails := congrArg (List.drop 5) same
    simpa [toBytes, confluentFrame] using tails
  have records := (read event).symm.trans (payloads ▸ read event')
  simp only [Option.some.injEq, Prod.mk.injEq, and_true] at records
  have events := (eventFromDict_eventToDict event.floored).symm.trans
    (records ▸ eventFromDict_eventToDict event'.floored)
  exact Except.ok.inj events

/-- What the library reads. -/
theorem readRecord_clock (event : UnsubscribeEvent) :
    Avro.readRecord clock schema (payloadOf event) =
      if minInstant ≤ event.requestedAt.instant ∧ event.requestedAt.instant ≤ maxInstant then
        some (eventToDict event.floored, [])
      else none := by
  rw [readRecord_payloadOf rfl, eventToDict_floored]
  simp only [clock, readable_iff]
  split <;> rfl

theorem fromBytes_toBytes (lib : AvroLibrary) (event : UnsubscribeEvent) :
    fromBytes lib (toBytes lib.schemaId event) =
      if minInstant ≤ event.requestedAt.instant ∧ event.requestedAt.instant ≤ maxInstant then
        .ok event.floored
      else .error (lib.failure (toBytes lib.schemaId event)) := by
  conv_lhs => rw [fromBytes, toBytes, openFrame_confluentFrame lib.schemaId_lt]
  simp only [lib.registered, if_true, readRecord_clock]
  by_cases inside : minInstant ≤ event.requestedAt.instant ∧ event.requestedAt.instant ≤ maxInstant
  · rw [if_pos inside, if_pos inside]
    exact eventFromDict_eventToDict event.floored
  · rw [if_neg inside, if_neg inside]
    rfl

/-- **When an event survives the round trip.** For every event and every registry,
`from_bytes` gives back what `to_bytes` wrote, floored to the millisecond, and it is
written to the same bytes again, exactly when the instant lies in the years 1 to 9999. -/
theorem event_round_trips_iff (lib : AvroLibrary) (event : UnsubscribeEvent) :
    (∃ found, RoundTrips lib event found) ↔
      minInstant ≤ event.requestedAt.instant ∧ event.requestedAt.instant ≤ maxInstant := by
  constructor
  · rintro ⟨found, back⟩
    have read := back.read
    rw [fromBytes_toBytes] at read
    by_contra outside
    rw [if_neg outside] at read
    cases read
  · intro inside
    refine ⟨event.floored, ?_, ⟨rfl, rfl, rfl, rfl, rfl, rfl, rfl⟩, floored_instant event, rfl,
      toBytes_floored lib.schemaId event⟩
    rw [fromBytes_toBytes, if_pos inside]

/-- Midnight of 1 January of the year 1, fourteen hours ahead of UTC. -/
def earliestEvent : UnsubscribeEvent :=
  ⟨"event-1", "reader-1", "writer-1", .ui, ⟨minInstant, some (14 * 3600 * microsPerSecond)⟩, "request-1",
    none, none, rfl⟩

/-- A registry that knows the repository's schema as 1 and no other. -/
def demoAvro : AvroLibrary where
  schemaId := 1
  schemaOf id := if id = 1 then some schema else none
  resolve _ _ := .error (.serializationError "no other schema")
  failure _ := .overflowError "date value out of range"
  schemaId_lt := by decide
  registered := rfl

/-- The event is written, and reading it fails. -/
theorem earliest_event_lost : ¬ ∃ found, RoundTrips demoAvro earliestEvent found := by
  rintro ⟨found, back⟩
  have read := back.read
  rw [fromBytes_toBytes, if_neg (by decide)] at read
  cases read

end Tikblog.Contracts
