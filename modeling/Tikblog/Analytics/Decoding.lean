import Tikblog.Analytics.Garbage

/-!
# What the decoder returns

One row for each record of the batch, under the coordinates of the record. The row has no
`decode_error` exactly when the bytes are a Confluent frame whose id names a schema with the
expected event columns, and the payload gives an `event_id`; and its event columns are those
of the payload, or null where the frame or the schema is not as it should be.

The records are sorted into groups, the groups read one after another and united by column
name: each step keeps the rows in correspondence with the records (`PartRows`).
-/

namespace Tikblog.Analytics

open Python Program

/-- A Confluent frame with the schema id `id`: a zero byte, then the id in four bytes, as an
`int`. -/
structure Framed (value : Bytes) (id : Int) : Prop where
  long : 5 ≤ value.length
  magic : value.head? = some 0
  signed : bigEndian ((value.drop 1).take 4) < 2 ^ 31
  id_eq : id = bigEndian ((value.drop 1).take 4)

theorem schemaId_eq_some_iff {record : KafkaRecord} {id : Int} :
    record.schemaId = some id ↔ ∃ value, record.value = some value ∧ Framed value id := by
  unfold KafkaRecord.schemaId
  constructor
  · intro h
    split at h
    · cases h
    · rename_i value held
      simp only [headerOk, castInt, Option.ite_none_right_eq_some, Option.some.injEq, Bool.and_eq_true,
        decide_eq_true_eq, beq_iff_eq] at h
      obtain ⟨⟨long, magic⟩, signed, id_eq⟩ := h
      exact ⟨value, held, long, magic, signed, id_eq.symm⟩
  · rintro ⟨value, held, frame⟩
    have header : headerOk value = true := by
      simp [headerOk, frame.long, frame.magic]
    simp only [held, header, if_true, castInt, if_pos frame.signed, frame.id_eq]

section

variable (spark : Spark) (registry : Int → Except PyException String)

/-- `id` is registered, with a schema whose event columns have the expected types. -/
def Expected (id : Int) (schema : String) : Prop :=
  registry id = .ok schema ∧ ∃ fields, spark.avroType schema = .ok (.struct fields) ∧
    ∀ f ∈ expectedFields, fields.lookup f.1 = some f.2

/-- The schema under which the payload of a record is read. -/
def Matches (record : KafkaRecord) (schema : String) : Prop :=
  ∃ id, record.schemaId = some id ∧ Expected spark registry id schema

/-- A row made from a record. -/
structure DecodesRow (record : KafkaRecord) (row : DecodedRow) : Prop where
  topic : row.kafkaTopic = record.topic
  partition : row.kafkaPartition = record.partition
  offset : row.kafkaOffset = record.offset
  timestamp : row.kafkaTimestamp = record.timestamp
  rawValue : row.rawValue = record.value.map spark.base64
  decodeError : row.decodeError = none ↔
    ∃ schema, Matches spark registry record schema ∧ permissive spark schema record.payload "event_id" ≠ none
  columns : ∀ schema, Matches spark registry record schema →
    ∀ f ∈ expectedFields, row.event f.1 = permissive spark schema record.payload f.1
  nulls : (∀ schema, ¬ Matches spark registry record schema) → ∀ f ∈ expectedFields, row.event f.1 = none

/-- A frame of decoded records: the expected columns, and a row for each record. -/
structure PartRows (records : List KafkaRecord) (part : Part) : Prop where
  complete : ∀ f ∈ expectedFields, part.fields.lookup f.1 = some f.2
  rows : List.Forall₂ (DecodesRow spark registry) records part.rows

variable {spark registry} {now : Instant} {batch : List KafkaRecord}

theorem mismatched_eq_nil_iff {fields : Fields} :
    mismatched fields = [] ↔ ∀ f ∈ expectedFields, fields.lookup f.1 = some f.2 := by
  refine ⟨fun complete f member => expected_lookup complete member, fun complete => ?_⟩
  rw [mismatched, List.map_eq_nil_iff, List.filter_eq_nil_iff]
  intro f member
  simp [complete f member]

theorem Matches.unique {record : KafkaRecord} {schema schema' : String}
    (h : Matches spark registry record schema) (h' : Matches spark registry record schema') :
    schema = schema' := by
  obtain ⟨id, framed, registered, -⟩ := h
  obtain ⟨id', framed', registered', -⟩ := h'
  cases framed.symm.trans framed'
  cases registered.symm.trans registered'
  rfl

/-- What is read under a schema has the types of the schema. -/
theorem permissive_typed {record : KafkaRecord} {schema : String} {v : Value} {f : String × DataType}
    (h : Matches spark registry record schema) (expected : f ∈ expectedFields)
    (held : permissive spark schema record.payload f.1 = some v) : v.type = f.2 := by
  obtain ⟨id, -, -, fields, type, complete⟩ := h
  unfold permissive at held
  cases read : spark.readAvro schema record.payload with
  | none =>
    rw [read] at held
    cases held
  | some event =>
    rw [read] at held
    have typed := spark.readAvro_typed schema fields record.payload event f.1 v type read held
    rw [complete f expected] at typed
    exact (Option.some.inj typed).symm

theorem DecodesRow.typed {record : KafkaRecord} {row : DecodedRow} {v : Value} {f : String × DataType}
    (h : DecodesRow spark registry record row) (expected : f ∈ expectedFields)
    (held : row.event f.1 = some v) : v.type = f.2 := by
  by_cases found : ∃ schema, Matches spark registry record schema
  · obtain ⟨schema, matched⟩ := found
    rw [h.columns schema matched f expected] at held
    exact permissive_typed matched expected held
  · rw [h.nulls (fun schema matched => found ⟨schema, matched⟩) f expected] at held
    cases held

/-! ## One group -/

/-- The rows of a group that cannot be read. -/
theorem decodes_problem {record : KafkaRecord} {problem : String}
    (unmatched : ∀ schema, ¬ Matches spark registry record schema) :
    DecodesRow spark registry record (record.decoded spark now (fun _ => none) (some problem)) where
  topic := rfl
  partition := rfl
  offset := rfl
  timestamp := rfl
  rawValue := rfl
  decodeError := by
    constructor
    · intro clean
      cases clean
    · rintro ⟨schema, matched, -⟩
      exact absurd matched (unmatched schema)
  columns schema matched := absurd matched (unmatched schema)
  nulls _ _ _ := rfl

theorem decodes_event {record : KafkaRecord} {schema : String}
    (matched : Matches spark registry record schema) :
    DecodesRow spark registry record (record.decoded spark now (permissive spark schema record.payload)
      (if permissive spark schema record.payload "event_id" = none then some "invalid_avro_payload"
        else none)) where
  topic := rfl
  partition := rfl
  offset := rfl
  timestamp := rfl
  rawValue := rfl
  decodeError := by
    show (if _ then _ else _) = _ ↔ _
    constructor
    · intro clean
      refine ⟨schema, matched, fun null => ?_⟩
      rw [if_pos null] at clean
      cases clean
    · rintro ⟨schema', matched', given⟩
      cases matched.unique matched'
      exact if_neg given
  columns schema' matched' := by
    cases matched.unique matched'
    exact fun _ _ => rfl
  nulls unmatched := absurd matched (unmatched schema)

theorem decodePart_rows {id : Option Int} {part : Part}
    (decoded : decodePart spark registry now batch id = .ok part) :
    PartRows spark registry (batch.filter fun record => record.schemaId = id) part := by
  have rows : ∀ (make : KafkaRecord → DecodedRow),
      (∀ record, record.schemaId = id → DecodesRow spark registry record (make record)) →
      List.Forall₂ (DecodesRow spark registry) (batch.filter fun record => record.schemaId = id)
        ((batch.filter fun record => record.schemaId = id).map make) := by
    intro make each
    rw [List.forall₂_map_right_iff]
    apply List.forall₂_same.2
    intro record member
    exact each record (of_decide_eq_true (List.mem_filter.1 member).2)
  have whole := mismatched_eq_nil_iff.1 (groupFields_complete spark registry id)
  rw [← (decodePart_ok decoded).fields] at whole
  refine ⟨whole, ?_⟩
  cases decodePart_grouped decoded with
  | unframed =>
    apply rows
    intro record no_id
    apply decodes_problem
    rintro schema ⟨id, framed, -⟩
    rw [no_id] at framed
    cases framed
  | mismatch registered type incomplete =>
    apply rows
    intro record id
    apply decodes_problem
    rintro schema ⟨id', framed, registered', fields, type', complete⟩
    cases id.symm.trans framed
    cases registered.symm.trans registered'
    cases type.symm.trans type'
    exact incomplete (mismatched_eq_nil_iff.2 complete)
  | read registered type complete named =>
    apply rows
    intro record id
    exact decodes_event ⟨_, id, registered, _, type, mismatched_eq_nil_iff.1 complete⟩

/-! ## The union -/

/-- Under distinct names, a reference finds the column that is listed under the name. -/
theorem find_sameName {fields : Fields} {f : String × DataType} (distinct : DistinctNames fields)
    (listed : fields.lookup f.1 = some f.2) : fields.find? (fun g => SameName g.1 f.1) = some f := by
  have one : fields.filter (fun g => SameName g.1 f.1) = [f] :=
    Table.filter_key distinct (mem_of_lookup listed)
  rw [← List.head?_filter, one]
  rfl

/-- A column of one type on both sides keeps it. -/
theorem lookup_unitedFields {left right united : Fields} {f : String × DataType}
    (h : unitedFields spark left right = some united) (distinct : DistinctNames right)
    (on_left : left.lookup f.1 = some f.2) (on_right : right.lookup f.1 = some f.2) :
    united.lookup f.1 = some f.2 := by
  obtain ⟨common, found, joined⟩ := Option.bind_eq_some_iff.1 h
  clear h
  cases joined
  rw [List.lookup_append]
  suffices common.lookup f.1 = some f.2 by rw [this]; rfl
  induction left generalizing common with
  | nil => cases on_left
  | cons g left ih =>
    rw [List.mapM_cons] at found
    obtain ⟨g', head, found⟩ := Option.bind_eq_some_iff.1 found
    obtain ⟨rest, tail, found⟩ := Option.bind_eq_some_iff.1 found
    cases found
    rw [List.lookup_cons] at on_left ⊢
    rw [unitedField_name head]
    by_cases same : f.1 = g.1
    · have this_one : f = g := by
        simp only [same, beq_self_eq_true] at on_left
        exact Prod.ext same (Option.some.inj on_left).symm
      subst this_one
      rw [unitedField, find_sameName distinct on_right] at head
      simp only [spark.widen_self, Option.map_some, Option.some.injEq] at head
      simp [← head]
    · have other : (f.1 == g.1) = false := beq_false_of_ne same
      simp only [other] at on_left ⊢
      exact ih on_left rest tail

/-- Aligning a row to a union leaves the expected columns as they are. -/
theorem align_decodes {record : KafkaRecord} {row : DecodedRow} {fields origin : Fields}
    (distinct : DistinctNames origin) (h : DecodesRow spark registry record row)
    (complete : ∀ f ∈ expectedFields, origin.lookup f.1 = some f.2)
    (kept : ∀ f ∈ expectedFields, fields.lookup f.1 = some f.2) :
    DecodesRow spark registry record (row.align spark fields origin) := by
  have same : ∀ f ∈ expectedFields, (row.align spark fields origin).event f.1 = row.event f.1 := by
    intro f expected
    simp only [DecodedRow.align, kept f expected, find_sameName distinct (complete f expected),
      Option.bind_eq_bind, Option.bind_some]
    cases held : row.event f.1 with
    | none => rfl
    | some v =>
      have typed := h.typed expected held
      rw [Option.bind_some, ← typed, spark.cast_self]
  refine ⟨h.topic, h.partition, h.offset, h.timestamp, h.rawValue, h.decodeError, ?_, ?_⟩
  · intro schema matched f expected
    rw [same f expected, h.columns schema matched f expected]
  · intro unmatched f expected
    rw [same f expected, h.nulls unmatched f expected]

theorem PartRows.union {records records' : List KafkaRecord} {a b c : Part}
    (ha : PartRows spark registry records a) (hb : PartRows spark registry records' b)
    (united : unionByName spark a b = .ok c) : PartRows spark registry (records ++ records') c := by
  obtain ⟨distinct, distinct', fields, columns, rfl⟩ := unionByName_ok_iff.1 united
  have complete : ∀ f ∈ expectedFields, fields.lookup f.1 = some f.2 := fun f expected =>
    lookup_unitedFields columns distinct'.left (ha.complete f expected) (hb.complete f expected)
  refine ⟨complete, List.rel_append ?_ ?_⟩
  · exact List.forall₂_map_right_iff.2
      (ha.rows.imp fun _ _ h => align_decodes distinct.left h ha.complete complete)
  · exact List.forall₂_map_right_iff.2
      (hb.rows.imp fun _ _ h => align_decodes distinct'.left h hb.complete complete)

theorem PartRows.foldlM {records : List KafkaRecord} {ids : List (Option Int)} {first united : Part}
    {rest : List Part} (start : PartRows spark registry records first)
    (groups : List.Forall₂ (fun id part =>
      PartRows spark registry (batch.filter fun record => record.schemaId = id) part) ids rest)
    (union : rest.foldlM (unionByName spark) first = .ok united) :
    PartRows spark registry
      (records ++ ids.flatMap fun id => batch.filter fun record => record.schemaId = id) united := by
  induction groups generalizing records first with
  | nil =>
    cases union
    rw [List.flatMap_nil, List.append_nil]
    exact start
  | cons group _ ih =>
    obtain ⟨both, step, union⟩ := foldlM_cons_eq_ok.1 union
    rw [List.flatMap_cons, ← List.append_assoc]
    exact ih (start.union group step) union

/-! ## The batch -/

/-- A row of the result of `decode` made from a record, in terms of the bytes of the record. -/
structure Decodes (spark : Spark) (registry : Int → Except PyException String) (record : KafkaRecord)
    (row : BronzeRow) : Prop where
  topic : row.kafkaTopic = record.topic
  partition : row.kafkaPartition = record.partition
  offset : row.kafkaOffset = record.offset
  timestamp : row.kafkaTimestamp = record.timestamp
  rawValue : row.rawValue = record.value.map spark.base64
  decodeError : row.decodeError = none ↔
    ∃ value id schema event, record.value = some value ∧ Framed value id ∧ Expected spark registry id schema ∧
      spark.readAvro schema (value.drop 5) = some event ∧ event "event_id" ≠ none
  nulls : (¬ ∃ value id schema, record.value = some value ∧ Framed value id ∧ Expected spark registry id schema) →
    ∀ f ∈ expectedFields, row.event f.1 = none
  columns : ∀ value id schema, record.value = some value → Framed value id → Expected spark registry id schema →
    ∀ f ∈ expectedFields, row.event f.1 = permissive spark schema (value.drop 5) f.1
  eventDate : row.eventDate = (eventTimestamp row.event "requested_at").map toDate

theorem matches_iff {record : KafkaRecord} {schema : String} : Matches spark registry record schema ↔
    ∃ value id, record.value = some value ∧ Framed value id ∧ Expected spark registry id schema := by
  constructor
  · rintro ⟨id, framed, expected⟩
    obtain ⟨value, held, frame⟩ := schemaId_eq_some_iff.1 framed
    exact ⟨value, id, held, frame, expected⟩
  · rintro ⟨value, id, held, frame, expected⟩
    exact ⟨id, schemaId_eq_some_iff.2 ⟨value, held, frame⟩, expected⟩

theorem payload_eq {record : KafkaRecord} {value : Bytes} (held : record.value = some value) :
    record.payload = value.drop 5 := by
  rw [KafkaRecord.payload, held, Option.getD_some]

theorem permissive_ne_none_iff {schema name : String} {payload : Bytes} :
    permissive spark schema payload name ≠ none ↔
      ∃ event, spark.readAvro schema payload = some event ∧ event name ≠ none := by
  unfold permissive
  cases read : spark.readAvro schema payload with
  | none => simp
  | some event => simp

/-- The row with its date, `event_date` being no event column. -/
theorem DecodesRow.decodes {record : KafkaRecord} {row : DecodedRow} (h : DecodesRow spark registry record row) :
    Decodes spark registry record
      { row with
        event := fun name => if SameName name "event_date" then none else row.event name
        eventDate := (eventTimestamp row.event "requested_at").map toDate } := by
  have apart : ∀ f ∈ expectedFields, ¬ SameName f.1 "event_date" := by decide +kernel
  refine ⟨h.topic, h.partition, h.offset, h.timestamp, h.rawValue, ?_, ?_, ?_, ?_⟩
  · refine h.decodeError.trans ⟨?_, ?_⟩
    · rintro ⟨schema, matched, given⟩
      obtain ⟨value, id, held, frame, expected⟩ := matches_iff.1 matched
      rw [payload_eq held] at given
      obtain ⟨event, read, found⟩ := permissive_ne_none_iff.1 given
      exact ⟨value, id, schema, event, held, frame, expected, read, found⟩
    · rintro ⟨value, id, schema, event, held, frame, expected, read, found⟩
      refine ⟨schema, matches_iff.2 ⟨value, id, held, frame, expected⟩, ?_⟩
      rw [payload_eq held]
      exact permissive_ne_none_iff.2 ⟨event, read, found⟩
  · intro unmatched f expected
    show (if SameName f.1 "event_date" then none else row.event f.1) = none
    rw [if_neg (apart f expected)]
    refine h.nulls (fun schema matched => unmatched ?_) f expected
    obtain ⟨value, id, held, frame, right⟩ := matches_iff.1 matched
    exact ⟨value, id, schema, held, frame, right⟩
  · intro value id schema held frame right f expected
    show (if SameName f.1 "event_date" then none else row.event f.1) = _
    rw [if_neg (apart f expected), h.columns schema (matches_iff.2 ⟨value, id, held, frame, right⟩) f expected,
      payload_eq held]
  · show _ = Option.map toDate _
    have dated : ¬ SameName "requested_at" "event_date" := by decide +kernel
    simp only [eventTimestamp, if_neg dated]

/-- Every record of the groups has its row. -/
theorem decoded_rows {decoded : Decoded} (returned : decode spark registry now batch = .ok (some decoded)) :
    ∃ records, records.Perm batch ∧ List.Forall₂ (Decodes spark registry) records decoded.rows := by
  obtain ⟨none, -⟩ | ⟨_, first, rest, united, same, groups, union, dated⟩ := decode_ok returned
  · cases none
  · cases same
    have each := (forall₂_of_mapM groups).imp fun id part h => decodePart_rows h
    have sorted := Table.perm_flatMap_filter batch (spark.nodup_distinct (batch.map KafkaRecord.schemaId))
      (fun record member => (spark.mem_distinct _ _).2 (List.mem_map_of_mem member))
    obtain ⟨id, ids, start, later, split⟩ := List.forall₂_cons_right_iff.1 each
    rw [split, List.flatMap_cons] at sorted
    have whole := start.foldlM later union
    unfold withEventDate at dated
    split at dated
    · cases dated
    · cases dated
      exact ⟨_, sorted, List.forall₂_map_right_iff.2 (whole.rows.imp fun _ _ h => h.decodes)⟩

/-- The rows of a result; a batch without groups gives no frame. -/
def resultRows : Option Decoded → List BronzeRow
  | none => []
  | some decoded => decoded.rows

end

/-- **The decoder loses, doubles and mislabels nothing.** Whatever the bytes are, when
`decode` returns, its rows are those of the records of the batch, in some order: under the
coordinates of the record, with an error exactly where the record cannot be read, and with
the columns of its payload. -/
theorem decode_faithful (spark : Spark) (registry : Int → Except PyException String) (now : Instant)
    (batch : List KafkaRecord) (result : Option Decoded)
    (returned : decode spark registry now batch = .ok result) :
    ∃ records, records.Perm batch ∧ List.Forall₂ (Decodes spark registry) records (resultRows result) := by
  cases result with
  | none =>
    obtain ⟨-, none⟩ | ⟨_, _, _, _, some, -⟩ := decode_ok returned
    · rw [eq_nil_of_distinct none]
      exact ⟨[], .nil, .nil⟩
    · cases some
  | some decoded => exact decoded_rows returned

theorem decode_faithful_garbage :
    ∃ decoded, decode demoSpark demoRegistry 0 garbage = .ok (some decoded) ∧
      ∃ records, records.Perm garbage ∧
        List.Forall₂ (Decodes demoSpark demoRegistry) records (resultRows (some decoded)) := by
  obtain ⟨decoded, returned⟩ := exists_decode_garbage
  exact ⟨decoded, returned, decode_faithful demoSpark demoRegistry 0 garbage _ returned⟩

end Tikblog.Analytics
