import Tikblog.Analytics.Quarantine
import Tikblog.Analytics.Batching
import Tikblog.Analytics.Freshness
import Tikblog.Driver.Bronze

/-!
# Events in Bronze

What a record of the topics publishes, as far as the analytics count it (`Event`), and what
the checks of `validate_and_merge` make of its Bronze row: a row passes exactly when its
record publishes an event that is not ahead of the clock, and the row then holds the columns
of that event.
-/

namespace Tikblog.Driver

open Python Program Analytics

/-- An unsubscription as the analytics count it. -/
@[ext]
structure Event where
  eventId : String
  userId : String
  writerId : String
  source : String
  requestedAt : Instant
  eventId_filled : trim eventId ≠ ""
  userId_filled : trim userId ≠ ""
  writerId_filled : trim writerId ≠ ""
  source_known : source ∈ sources

/-- The fields of a payload that are counted. -/
structure Event.Read (e : Event) (fields : String → Option Value) : Prop where
  eventId : fields "event_id" = some (.string e.eventId)
  userId : fields "user_id" = some (.string e.userId)
  writerId : fields "writer_id" = some (.string e.writerId)
  source : fields "source" = some (.string e.source)
  requestedAt : fields "requested_at" = some (.timestamp e.requestedAt)

theorem Event.Read.unique {e e' : Event} {fields : String → Option Value} (h : e.Read fields) (h' : e'.Read fields) :
    e = e' := by
  have eventId := h.eventId.symm.trans h'.eventId
  have userId := h.userId.symm.trans h'.userId
  have writerId := h.writerId.symm.trans h'.writerId
  have source := h.source.symm.trans h'.source
  have requestedAt := h.requestedAt.symm.trans h'.requestedAt
  simp only [Option.some.injEq, Value.string.injEq, Value.timestamp.injEq] at eventId userId writerId source requestedAt
  exact Event.ext eventId userId writerId source requestedAt

/-- The columns of a row under the names of the fields. -/
def fieldsOf (row : Row) (name : String) : Option Value :=
  (eventColumns.find? fun f => f.1.name = name).bind fun f => row f.1

/-- The record is a Confluent frame under a schema with the expected columns, and its payload
is the event. -/
def Publishes (w : Platform) (record : KafkaRecord) (e : Event) : Prop :=
  ∃ value id schema fields, record.value = some value ∧ Framed value id ∧
    Expected w.config.spark w.registry id schema ∧
    w.config.spark.readAvro schema (value.drop 5) = some fields ∧ e.Read fields

/-- The columns of the event in a row. -/
structure Event.In (e : Event) (row : Row) : Prop where
  eventId : row .eventId = some (.string e.eventId)
  userId : row .userId = some (.string e.userId)
  writerId : row .writerId = some (.string e.writerId)
  source : row .source = some (.string e.source)
  requestedAt : row .requestedAt = some (.timestamp e.requestedAt)
  eventDate : row .eventDate = some (.date (toDate e.requestedAt))

theorem Event.In.read {e : Event} {row : Row} (h : e.In row) : e.Read (fieldsOf row) :=
  ⟨h.eventId, h.userId, h.writerId, h.source, h.requestedAt⟩

theorem Event.In.unique {e e' : Event} {row : Row} (h : e.In row) (h' : e'.In row) : e = e' := h.read.unique h'.read

variable {w : Platform} {c : Channel} {schema : Schema} {record : KafkaRecord} {row : BronzeRow} {e : Event}
  {now : Instant}

/-! ## The columns of a shown row -/

theorem BronzeSchema.typeOf_own (h : BronzeSchema w schema) {f : Column × DataType} (own : f ∈ bronzeColumns) :
    schema.typeOf f.1 = some f.2 := by
  obtain ⟨more, rfl⟩ := h.own
  rw [Schema.typeOf_append, (Schema.mem_iff_typeOf bronzeColumns_nodup).1 own]
  rfl

theorem shownRow_eq (h : BronzeSchema w schema) {f : Column × DataType} (own : f ∈ bronzeColumns)
    (typed : ∀ v, row.toRow f.1 = some v → v.type = f.2) : shownRow schema row f.1 = row.toRow f.1 := by
  unfold shownRow
  cases held : row.toRow f.1 with
  | none => rfl
  | some v =>
    have column : schema.typeOf f.1 = some v.type := by rw [h.typeOf_own own, typed v held]
    rw [Option.filter_some, decide_eq_true column]
    rfl

section Columns

variable (h : BronzeSchema w schema) (decodes : Decodes w.config.spark w.registry record row)

include decodes in
/-- The event columns of a decoded row have their types. -/
theorem typed_event {f : String × DataType} (expected : f ∈ expectedFields) (v : Value)
    (held : row.event f.1 = some v) : v.type = f.2 := by
  by_cases matched : ∃ value id schema, record.value = some value ∧ Framed value id ∧
      Expected w.config.spark w.registry id schema
  · obtain ⟨value, id, schema, is_value, frame, right⟩ := matched
    rw [decodes.columns value id schema is_value frame right f expected, ← payload_eq is_value] at held
    exact permissive_typed ⟨id, schemaId_eq_some_iff.2 ⟨value, is_value, frame⟩, right⟩ expected held
  · rw [decodes.nulls matched f expected] at held
    cases held

include h decodes in
/-- An event column is shown as it was decoded. -/
theorem shown_event {f : Column × DataType} (event : f ∈ eventColumns)
    (plain : row.toRow f.1 = row.event f.1.name) : shownRow schema row f.1 = row.event f.1.name := by
  rw [shownRow_eq h (List.mem_append_left _ event), plain]
  intro v held
  have expected : (f.1.name, f.2) ∈ expectedFields := List.mem_map_of_mem event
  rw [plain] at held
  exact typed_event decodes expected v held

include h in
theorem shown_decodeError : shownRow schema row .decodeError = row.decodeError.map .string := by
  refine shownRow_eq (f := (.decodeError, .string)) h (by decide) fun v held => ?_
  obtain ⟨text, -, rfl⟩ := Option.map_eq_some_iff.1 held
  rfl

include h in
theorem shown_eventDate : shownRow schema row .eventDate = row.eventDate.map .date := by
  refine shownRow_eq (f := (.eventDate, .date)) h (by decide) fun v held => ?_
  obtain ⟨day, -, rfl⟩ := Option.map_eq_some_iff.1 held
  rfl

include h in
/-- A row is shown under the coordinates of its record. -/
theorem coordinates_shown :
    coordinates (shownRow schema row) = (some row.kafkaTopic, some row.kafkaPartition, some row.kafkaOffset) := by
  have topic : shownRow schema row .kafkaTopic = some (.string row.kafkaTopic) := by
    refine shownRow_eq (f := (.kafkaTopic, .string)) h (by decide) fun v held => ?_
    cases held
    rfl
  have partition : shownRow schema row .kafkaPartition = some (.int row.kafkaPartition) := by
    refine shownRow_eq (f := (.kafkaPartition, .int)) h (by decide) fun v held => ?_
    cases held
    rfl
  have offset : shownRow schema row .kafkaOffset = some (.bigint row.kafkaOffset) := by
    refine shownRow_eq (f := (.kafkaOffset, .bigint)) h (by decide) fun v held => ?_
    cases held
    rfl
  simp only [coordinates, Row.string, Row.int, Row.bigint, topic, partition, offset]

include h decodes in
theorem shown_eventId : shownRow schema row .eventId = row.event "event_id" :=
  shown_event h decodes (f := (.eventId, .string)) (by decide) rfl

include h decodes in
theorem shown_userId : shownRow schema row .userId = row.event "user_id" :=
  shown_event h decodes (f := (.userId, .string)) (by decide) rfl

include h decodes in
theorem shown_writerId : shownRow schema row .writerId = row.event "writer_id" :=
  shown_event h decodes (f := (.writerId, .string)) (by decide) rfl

include h decodes in
theorem shown_source : shownRow schema row .source = row.event "source" :=
  shown_event h decodes (f := (.source, .string)) (by decide) rfl

include h decodes in
theorem shown_requestedAt : shownRow schema row .requestedAt = row.event "requested_at" :=
  shown_event h decodes (f := (.requestedAt, .timestamp)) (by decide) rfl

include h decodes in
/-- The date of a row is that of its request. -/
theorem dated_shown : shownRow schema row .eventDate =
    ((shownRow schema row).timestamp .requestedAt).map fun t => .date (toDate t) := by
  rw [shown_eventDate h, decodes.eventDate, Option.map_map]
  unfold Row.timestamp eventTimestamp
  rw [shown_requestedAt h decodes]
  rfl

end Columns

/-! ## The checks -/

/-- A row that passes holds the event of its record. -/
theorem publishes_of_passes (h : BronzeSchema w schema) (decodes : Decodes w.config.spark w.registry record row)
    (passes : Passes now (shownRow schema row)) :
    ∃ e, Publishes w record e ∧ e.In (shownRow schema row) ∧ e.requestedAt ≤ now := by
  have accepted := passes.accepted
  obtain ⟨eventId, is_eventId, eventId_filled⟩ := accepted.eventId
  obtain ⟨userId, is_userId, userId_filled⟩ := accepted.userId
  obtain ⟨writerId, is_writerId, writerId_filled⟩ := accepted.writerId
  obtain ⟨source, source_known, is_source⟩ := accepted.source
  obtain ⟨requestedAt, past, is_requestedAt⟩ := accepted.requestedAt
  have date : shownRow schema row .eventDate = some (.date (toDate requestedAt)) := by
    rw [dated_shown h decodes, Row.timestamp_eq_some.2 is_requestedAt]
    rfl
  have clean : row.decodeError = none := by
    have error := accepted.decodeError
    rw [shown_decodeError h] at error
    exact Option.map_eq_none_iff.1 error
  obtain ⟨value, id, schema', fields, held, frame, expected, read, -⟩ := decodes.decodeError.1 clean
  have column : ∀ f ∈ expectedFields, row.event f.1 = fields f.1 := by
    intro f listed
    rw [decodes.columns value id schema' held frame expected f listed, permissive, read]
    rfl
  refine ⟨⟨eventId, userId, writerId, source, requestedAt, eventId_filled, userId_filled, writerId_filled, source_known⟩,
    ⟨value, id, schema', fields, held, frame, expected, read, ?_⟩,
    ⟨is_eventId, is_userId, is_writerId, is_source, is_requestedAt, date⟩, past⟩
  constructor
  · rw [← column ("event_id", .string) (by decide), ← shown_eventId h decodes, is_eventId]
  · rw [← column ("user_id", .string) (by decide), ← shown_userId h decodes, is_userId]
  · rw [← column ("writer_id", .string) (by decide), ← shown_writerId h decodes, is_writerId]
  · rw [← column ("source", .string) (by decide), ← shown_source h decodes, is_source]
  · rw [← column ("requested_at", .timestamp) (by decide), ← shown_requestedAt h decodes, is_requestedAt]

/-- The row of a record holds the event that the record publishes, and only the clock can
make it fail. -/
theorem passes_of_publishes (h : BronzeSchema w schema) (decodes : Decodes w.config.spark w.registry record row)
    (publishes : Publishes w record e) (now : Instant) :
    e.In (shownRow schema row) ∧
      failedChecks now (shownRow schema row) = if e.requestedAt ≤ now then [] else [.requestedAtNotFuture] := by
  obtain ⟨value, id, schema', fields, held, frame, expected, read, is_event⟩ := publishes
  have column : ∀ f ∈ expectedFields, row.event f.1 = fields f.1 := by
    intro f listed
    rw [decodes.columns value id schema' held frame expected f listed, permissive, read]
    rfl
  have eventId : shownRow schema row .eventId = some (.string e.eventId) := by
    rw [shown_eventId h decodes, column ("event_id", .string) (by decide), is_event.eventId]
  have userId : shownRow schema row .userId = some (.string e.userId) := by
    rw [shown_userId h decodes, column ("user_id", .string) (by decide), is_event.userId]
  have writerId : shownRow schema row .writerId = some (.string e.writerId) := by
    rw [shown_writerId h decodes, column ("writer_id", .string) (by decide), is_event.writerId]
  have source : shownRow schema row .source = some (.string e.source) := by
    rw [shown_source h decodes, column ("source", .string) (by decide), is_event.source]
  have requestedAt : shownRow schema row .requestedAt = some (.timestamp e.requestedAt) := by
    rw [shown_requestedAt h decodes, column ("requested_at", .timestamp) (by decide), is_event.requestedAt]
  have date : shownRow schema row .eventDate = some (.date (toDate e.requestedAt)) := by
    rw [dated_shown h decodes, Row.timestamp_eq_some.2 requestedAt]
    rfl
  have clean : shownRow schema row .decodeError = none := by
    rw [shown_decodeError h, decodes.decodeError.2 ⟨value, id, schema', fields, held, frame, expected, read, ?_⟩]
    · rfl
    · rw [is_event.eventId]
      exact Option.some_ne_none _
  refine ⟨⟨eventId, userId, writerId, source, requestedAt, date⟩, ?_⟩
  have rules : ∀ check : Check, check.rule now (shownRow schema row) =
      some (decide (check ≠ .requestedAtNotFuture ∨ e.requestedAt ≤ now)) := by
    intro check
    cases check with
    | eventIdRequired => simpa [Check.rule] using notBlank_eq_true.2 ⟨_, eventId, e.eventId_filled⟩
    | userIdRequired => simpa [Check.rule] using notBlank_eq_true.2 ⟨_, userId, e.userId_filled⟩
    | writerIdRequired => simpa [Check.rule] using notBlank_eq_true.2 ⟨_, writerId, e.writerId_filled⟩
    | sourceValid => simp [Check.rule, Row.string_eq_some.2 source, e.source_known]
    | requestedAtRequired => simp [Check.rule, requestedAt]
    | requestedAtNotFuture => simp [Check.rule, Row.timestamp_eq_some.2 requestedAt]
    | schemaAndDecode => simp [Check.rule, clean]
  unfold failedChecks
  split
  · rename_i past
    simp [rules, past]
  · rename_i future
    simp only [rules, future, or_false]
    decide

theorem Publishes.unique {e' : Event} (h : Publishes w record e) (h' : Publishes w record e') : e = e' := by
  obtain ⟨value, id, schema, fields, held, frame, expected, read, is_event⟩ := h
  obtain ⟨value', id', schema', fields', held', frame', expected', read', is_event'⟩ := h'
  cases held.symm.trans held'
  cases frame.id_eq.trans frame'.id_eq.symm
  cases expected.1.symm.trans expected'.1
  cases read.symm.trans read'
  exact is_event.unique is_event'

/-! ## Batches of Bronze rows -/

/-- A batch of shown Bronze rows. -/
structure FromBronze (w : Platform) (batch : Frame) : Prop where
  schema : BronzeSchema w batch.schema
  rows : ∀ row ∈ batch.rows, ∃ c bronze, Sourced w c bronze ∧ row = shownRow batch.schema bronze

theorem fromBronze_frame (h : BronzeSchema w schema) {rows : List BronzeRow}
    (sourced : ∀ row ∈ rows, Sourced w c row) : FromBronze w (bronzeFrame schema h.unique rows) := by
  refine ⟨h, fun row member => ?_⟩
  obtain ⟨bronze, listed, rfl⟩ := List.mem_map.1 member
  exact ⟨c, bronze, sourced bronze listed, rfl⟩

theorem FromBronze.filter {batch : Frame} (h : FromBronze w batch) (p : Row → Bool) : FromBronze w (batch.filter p) :=
  ⟨h.schema, fun row member => h.rows row (List.mem_of_mem_filter member)⟩

theorem FromBronze.dated {batch : Frame} (h : FromBronze w batch) : Dated batch := by
  intro row member
  obtain ⟨c, bronze, ⟨record, -, decodes⟩, rfl⟩ := h.rows row member
  exact dated_shown h.schema decodes

theorem FromBronze.compatible {batch : Frame} (h : FromBronze w batch) (runId pipeline : String) :
    Compatible w.types (.validate batch runId pipeline) := by
  refine ⟨h.schema.follows, fun f event => ?_⟩
  rw [h.schema.typeOf_own (List.mem_append_left _ event)]
  exact Option.some_ne_none _

end Tikblog.Driver
