import Tikblog.Legal.Runs
import Tikblog.Contracts.RoundTrip
import Tikblog.Analytics.Decoding
import Tikblog.Analytics.Acceptance

/-!
# The rows of the Legal team in the analytics

A row that `build_event` accepts, on its way through Kafka, `decode` and the checks of
`validate_and_merge`. The two validators look at different types in different engines; they
should agree on every row, except that only the analytics look at the clock. They do for the
times from 1900 on: `from_avro` refuses the earlier ones, which may have been written in the
calendar of an older Spark, and a row with such a time fails every check
(`accepted_row_fails_iff_future`).
-/

namespace Tikblog.Analytics

open Python Contracts Program

/-! ## What the ingestion accepts -/

/-- `str(uuid4())`: hexadecimal digits and dashes. -/
def UuidText (s : String) : Prop :=
  s.toList.length = 36 ∧ ∀ c ∈ s.toList, c ∈ "0123456789abcdef-".toList

-- over the characters of the text, not over all characters
instance (s : String) : Decidable (UuidText s) :=
  @instDecidableAnd _ _ _ (List.decidableBAll _ s.toList)

/-- The calls of `build_event`. -/
inductive UuidExec : (o : Legal.Op) → Unit → Legal.Ans o → Unit → Prop where
  | uuid4 {id} : UuidText id → UuidExec .uuid4 () id ()

/-- What `build_event` makes of a row. -/
structure AcceptedEvent (event : UnsubscribeEvent) : Prop where
  eventId : UuidText event.eventId
  userId : ∃ cell, event.userId = strip cell ∧ strip cell ≠ ""
  writerId : ∃ cell, event.writerId = strip cell ∧ strip cell ≠ ""
  source : event.source = .legal

theorem checkRow_ok {lib : Legal.Library} {row : List String} {userId writerId : String} {parsedAt : Datetime}
    (accepted : Legal.checkRow lib row = .ok (userId, writerId, parsedAt)) :
    (∃ cell, userId = strip cell ∧ strip cell ≠ "") ∧ ∃ cell, writerId = strip cell ∧ strip cell ≠ "" := by
  unfold Legal.checkRow at accepted
  split at accepted
  · rename_i userCell writerCell timeCell
    dsimp only at accepted
    split at accepted
    · cases accepted
    · rename_i user
      split at accepted
      · cases accepted
      · rename_i writer
        split at accepted
        · cases accepted
        · split at accepted
          · cases accepted
          · cases accepted
            exact ⟨⟨userCell, rfl, user⟩, writerCell, rfl, writer⟩
  · cases accepted

theorem buildEvent_accepts (lib : Legal.Library) (row : List String) (name : String) :
    Prog.Always UuidExec (fun _ _ => True) (fun r _ => ∀ event, r = .ok event → AcceptedEvent event)
      (Legal.buildEvent lib row name) () := by
  unfold Legal.buildEvent
  cases checked : Legal.checkRow lib row with
  | error e =>
    intro event returned
    cases returned
  | ok values =>
    obtain ⟨userId, writerId, parsedAt⟩ := values
    obtain ⟨user, writer⟩ := checkRow_ok checked
    refine ⟨trivial, fun eventId _ drawn => ⟨trivial, fun requestId _ drawn' => ?_⟩⟩
    cases drawn with
    | uuid4 text =>
      intro event returned
      change UnsubscribeEvent.new eventId userId writerId .legal parsedAt requestId none (some name) = _
        at returned
      unfold UnsubscribeEvent.new at returned
      split at returned
      · cases returned
        exact ⟨text, user, writer, rfl⟩
      · cases returned

/-! ## What the analytics read -/

/-- An Avro value as Spark reads it. -/
def sparkValue : Avro.Value Datetime → Option Value
  | .null => none
  | .str s => some (.string s)
  | .time t => some (.timestamp (t.instant / 1000 * 1000))

/-- 1900-01-01T00:00:00Z, before which the calendars of Spark's versions differ. -/
def firstReadable : Instant := -2208988800000000

theorem firstReadable_le_floor (t : Instant) : firstReadable ≤ t / 1000 * 1000 ↔ firstReadable ≤ t := by
  show (-2208988800000000 : Int) ≤ t / 1000 * 1000 ↔ (-2208988800000000 : Int) ≤ t
  omega

/-- The repository's schema as the analytics know it: registered under the id the producers
use, with the expected columns, and read by `from_avro` as it was written. In the default mode
for the change of calendars, `EXCEPTION`, a payload with an earlier timestamp is not read. -/
structure ContractSchema (spark : Spark) (registry : Int → Except PyException String) (schemaId : Nat)
    (schema : String) : Prop where
  signed : schemaId < 2 ^ 31
  expected : Expected spark registry schemaId schema
  faithful : ∀ event fields, spark.readAvro schema (payloadOf event) = some fields →
    ∀ name value, (eventToDict event).lookup name = some value → fields name = sparkValue value
  readable : ∀ event, spark.readAvro schema (payloadOf event) ≠ none ↔
    firstReadable ≤ event.requestedAt.instant / 1000 * 1000

/-- A record of a Bronze table as the jobs read it. -/
def BronzeRow.toRow (row : BronzeRow) : Row
  | .schemaId => row.schemaId.map .int
  | .kafkaTopic => some (.string row.kafkaTopic)
  | .kafkaPartition => some (.int row.kafkaPartition)
  | .kafkaOffset => some (.bigint row.kafkaOffset)
  | .kafkaTimestamp => some (.timestamp row.kafkaTimestamp)
  | .bronzeIngestedAt => some (.timestamp row.bronzeIngestedAt)
  | .eventDate => row.eventDate.map .date
  | .decodeError => row.decodeError.map .string
  | .rawValue => row.rawValue.map .string
  | c => row.event c.name

section

variable {spark : Spark} {registry : Int → Except PyException String} {schemaId : Nat} {schema : String}
  {event : UnsubscribeEvent} {record : KafkaRecord} {bronze : BronzeRow} {now : Instant}

/-- What is blank for Spark is blank for Python. -/
theorem trim_ne_empty {s : String} (filled : strip s ≠ "") : trim (strip s) ≠ "" := by
  intro blank
  obtain ⟨c, member, kept⟩ := exists_kept_of_stripWhere filled
  have space : c = ' ' := by simpa using stripWhere_eq_empty_iff.1 blank c member
  rw [space] at kept
  cases kept

theorem trim_uuid {s : String} (text : UuidText s) : trim s ≠ "" := by
  intro blank
  have spaces := stripWhere_eq_empty_iff.1 blank
  cases chars : s.toList with
  | nil =>
    have length := text.1
    rw [chars] at length
    cases length
  | cons c rest =>
    have member : c ∈ s.toList := by rw [chars]; exact List.mem_cons_self
    have digit := text.2 c member
    have space : c = ' ' := by simpa using spaces c member
    rw [space] at digit
    exact absurd digit (by decide)

/-- The frame names the producer's schema. -/
theorem framed_toBytes (signed : schemaId < 2 ^ 31) (event : UnsubscribeEvent) :
    Framed (toBytes schemaId event) schemaId := by
  have id : bigEndian (((toBytes schemaId event).drop 1).take 4) = schemaId := by
    simp only [toBytes, confluentFrame, List.map_cons, List.map_nil, List.cons_append, List.nil_append,
      List.drop_succ_cons, List.drop_zero, List.take_succ_cons, List.take_zero, bigEndian, List.foldl_cons,
      List.foldl_nil, Nat.toUInt8_eq, UInt8.toNat_ofNat']
    omega
  refine ⟨?_, rfl, ?_, ?_⟩
  · simp [toBytes, confluentFrame]
  · rw [id]
    exact signed
  · rw [id]

/-- What the record frames. -/
theorem drop_toBytes (schemaId : Nat) (event : UnsubscribeEvent) :
    (toBytes schemaId event).drop 5 = payloadOf event := by
  simp [toBytes, confluentFrame]

/-- The columns of a decoded record are what is read from the payload. -/
theorem column_of_payload (contract : ContractSchema spark registry schemaId schema)
    (published : record.value = some (toBytes schemaId event)) (decodes : Decodes spark registry record bronze)
    {f : String × DataType} (expected : f ∈ expectedFields) :
    bronze.event f.1 = permissive spark schema (payloadOf event) f.1 := by
  have frame := framed_toBytes contract.signed event
  rw [decodes.columns _ schemaId schema published frame contract.expected f expected, drop_toBytes]

/-- The columns of a record that can be read are those of the event. -/
theorem column_of_event (contract : ContractSchema spark registry schemaId schema)
    (published : record.value = some (toBytes schemaId event)) (dated : firstReadable ≤ event.requestedAt.instant)
    (decodes : Decodes spark registry record bronze) :
    bronze.decodeError = none ∧ ∀ f ∈ expectedFields, ∀ value,
      (eventToDict event).lookup f.1 = some value → bronze.event f.1 = sparkValue value := by
  obtain ⟨fields, read⟩ := Option.ne_none_iff_exists'.1 ((contract.readable event).2 ((firstReadable_le_floor _).2 dated))
  have frame := framed_toBytes contract.signed event
  constructor
  · refine decodes.decodeError.2 ⟨_, schemaId, schema, fields, published, frame, contract.expected, ?_, ?_⟩
    · rw [drop_toBytes]
      exact read
    · rw [contract.faithful event fields read "event_id" (.str event.eventId) rfl]
      exact Option.some_ne_none _
  · intro f expected value held
    rw [column_of_payload contract published decodes expected, permissive, read, Option.getD_some]
    exact contract.faithful event fields read f.1 value held

/-- A record that cannot be read has no columns of an event, and fails every check. -/
theorem failedChecks_of_unread (contract : ContractSchema spark registry schemaId schema)
    (published : record.value = some (toBytes schemaId event)) (early : event.requestedAt.instant < firstReadable)
    (decodes : Decodes spark registry record bronze) : failedChecks now bronze.toRow = Check.all := by
  have unread : spark.readAvro schema (payloadOf event) = none := by
    by_contra read
    exact absurd ((firstReadable_le_floor _).1 ((contract.readable event).1 read)) (Int.not_le.2 early)
  have null : ∀ f ∈ expectedFields, bronze.event f.1 = none := by
    intro f expected
    rw [column_of_payload contract published decodes expected, permissive, unread]
    rfl
  have eventId : bronze.toRow .eventId = none := null ("event_id", .string) (by decide)
  have userId : bronze.toRow .userId = none := null ("user_id", .string) (by decide)
  have writerId : bronze.toRow .writerId = none := null ("writer_id", .string) (by decide)
  have source : bronze.toRow .source = none := null ("source", .string) (by decide)
  have requestedAt : bronze.toRow .requestedAt = none := null ("requested_at", .timestamp) (by decide)
  have decodeError : bronze.toRow .decodeError ≠ none := by
    intro clean
    obtain ⟨value, id, schema', fields, held, frame, expected, read, -⟩ :=
      decodes.decodeError.1 (Option.map_eq_none_iff.1 clean)
    cases published.symm.trans held
    have ids : id = schemaId := frame.id_eq.trans (framed_toBytes contract.signed event).id_eq.symm
    subst ids
    cases expected.1.symm.trans contract.expected.1
    rw [drop_toBytes, unread] at read
    cases read
  have fails : ∀ check : Check, (check.rule now bronze.toRow).getD false = false := by
    intro check
    cases check with
    | schemaAndDecode => exact Option.isNone_eq_false_iff.2 (Option.isSome_iff_ne_none.2 decodeError)
    | _ =>
      simp [Check.rule, notBlank, Row.string, Row.timestamp, sqlAnd, eventId, userId, writerId, source, requestedAt]
  simp [failedChecks, fails]

/-- The checks on such a record: only the clock can fail it. -/
theorem failedChecks_of_event (accepted : AcceptedEvent event) (clean : bronze.decodeError = none)
    (columns : ∀ f ∈ expectedFields, ∀ value,
      (eventToDict event).lookup f.1 = some value → bronze.event f.1 = sparkValue value) :
    failedChecks now bronze.toRow =
      if event.requestedAt.instant / 1000 * 1000 ≤ now then [] else [.requestedAtNotFuture] := by
  have eventId : bronze.toRow .eventId = some (.string event.eventId) :=
    columns ("event_id", .string) (by decide) _ rfl
  have userId : bronze.toRow .userId = some (.string event.userId) :=
    columns ("user_id", .string) (by decide) _ rfl
  have writerId : bronze.toRow .writerId = some (.string event.writerId) :=
    columns ("writer_id", .string) (by decide) _ rfl
  have source : bronze.toRow .source = some (.string event.source.value) :=
    columns ("source", .string) (by decide) _ rfl
  have requestedAt : bronze.toRow .requestedAt = some (.timestamp (event.requestedAt.instant / 1000 * 1000)) :=
    columns ("requested_at", .timestamp) (by decide) _ rfl
  have decodeError : bronze.toRow .decodeError = none := by
    show bronze.decodeError.map Value.string = none
    rw [clean]
    rfl
  obtain ⟨user, userText, user_filled⟩ := accepted.userId
  obtain ⟨writer, writerText, writer_filled⟩ := accepted.writerId
  have rules : ∀ check : Check, check.rule now bronze.toRow =
      some (decide (check ≠ .requestedAtNotFuture ∨ event.requestedAt.instant / 1000 * 1000 ≤ now)) := by
    intro check
    cases check with
    | eventIdRequired => simpa [Check.rule] using notBlank_eq_true.2 ⟨_, eventId, trim_uuid accepted.eventId⟩
    | userIdRequired =>
      simpa [Check.rule] using notBlank_eq_true.2 ⟨_, userId, userText ▸ trim_ne_empty user_filled⟩
    | writerIdRequired =>
      simpa [Check.rule] using notBlank_eq_true.2 ⟨_, writerId, writerText ▸ trim_ne_empty writer_filled⟩
    | sourceValid =>
      rw [accepted.source] at source
      simp [Check.rule, Row.string_eq_some.2 source, sources, UnsubscribeSource.value]
    | requestedAtRequired => simp [Check.rule, requestedAt]
    | requestedAtNotFuture => simp [Check.rule, Row.timestamp_eq_some.2 requestedAt]
    | schemaAndDecode => simp [Check.rule, decodeError]
  unfold failedChecks
  split
  · rename_i past
    simp [rules, past]
  · rename_i future
    simp only [rules, future, or_false]
    decide

end

/-- The checks that the Legal team should see fail: none, or that of a time ahead of the clock. -/
def expectedChecks (event : UnsubscribeEvent) (now : Instant) : List Check :=
  if event.requestedAt.instant / 1000 * 1000 ≤ now then [] else [.requestedAtNotFuture]

/-- **When an accepted row is quarantined for its date alone.** A row that `build_event` accepts,
once it is published and passed on in a batch that fits Silver, fails no check, or, if its
instant floored to the millisecond is ahead of the clock, that one check, exactly if its
instant is not before 1900. -/
theorem accepted_row_fails_iff_future (lib : Legal.Library) (spark : Spark)
    (registry : Int → Except PyException String) (schemaId : Nat) (schema : String)
    (contract : ContractSchema spark registry schemaId schema)
    (row : List String) (name : String) (event : UnsubscribeEvent)
    (accepted : Prog.Run UuidExec (Legal.buildEvent lib row name, ()) (.done (.ok event), ()))
    (batch : List KafkaRecord) (record : KafkaRecord) (present : record ∈ batch)
    (published : record.value = some (toBytes schemaId event))
    (ingestedAt : Instant) (decoded : Decoded)
    (returned : decode spark registry ingestedAt batch = .ok (some decoded)) :
    ∃ bronze ∈ decoded.rows, bronze.toDecodedRow.position = record.position ∧
      ∀ (env : Env) (target : Schema) (frame : Frame) (now : Instant), bronze.toRow ∈ frame.rows →
        incompatible target frame.schema = [] →
        checkedRow now bronze.toRow ∈ checkedRows now (conform env target frame) ∧
          ((checkedRow now bronze.toRow).failedChecks = expectedChecks event now ↔
            firstReadable ≤ event.requestedAt.instant) := by
  have good := (buildEvent_accepts lib row name).post_of_run accepted event rfl
  obtain ⟨records, sorted, decodes⟩ := decoded_rows returned
  obtain ⟨bronze, listed, same⟩ := exists_of_forall₂ decodes.flip (sorted.symm.subset present)
  refine ⟨bronze, listed, ?_, ?_⟩
  · rw [DecodedRow.position, same.topic, same.partition, same.offset]
    rfl
  · intro env target frame now held fits
    constructor
    · rw [conform, if_pos fits]
      exact List.mem_map_of_mem held
    · constructor
      · intro checks
        by_contra early
        have failed : (checkedRow now bronze.toRow).failedChecks = Check.all :=
          failedChecks_of_unread contract published (Int.not_le.1 early) same
        rw [checks, expectedChecks] at failed
        split at failed <;> cases failed
      · intro dated
        obtain ⟨clean, columns⟩ := column_of_event contract published dated same
        exact failedChecks_of_event good clean columns

/-! ## A row that is accepted -/

/-- The times that `from_avro` reads. -/
def sparkClock : Avro.Clock Datetime where
  millis t := t.instant / 1000
  read millis := if firstReadable ≤ millis * 1000 then some ⟨millis * 1000, some 0⟩ else none

/-- A Spark that reads what Avro writes under the contract. -/
def contractSpark : Spark :=
  { demoSpark with
    readAvro := fun schema payload =>
      if schema = "UnsubscribeEvent" then
        (Avro.readRecord sparkClock Contracts.schema payload).map fun read name =>
          ((read.1.lookup name).bind sparkValue).filter fun v => expectedFields.lookup name = some v.type
      else none
    readAvro_typed := by
      intro schema fields payload event name v type read held
      simp only [Option.ite_none_right_eq_some, Option.map_eq_some_iff] at read
      obtain ⟨rfl, record, -, rfl⟩ := read
      cases type
      exact of_decide_eq_true (Option.filter_eq_some_iff.1 held).2 }

theorem contractSpark_reads (event : UnsubscribeEvent) :
    contractSpark.readAvro "UnsubscribeEvent" (payloadOf event) =
      if firstReadable ≤ event.requestedAt.instant / 1000 * 1000 then
        some fun name => (((eventToDict event.floored).lookup name).bind sparkValue).filter fun v =>
          expectedFields.lookup name = some v.type
      else none := by
  simp only [contractSpark, if_true, readRecord_payloadOf (show sparkClock.millis = clock.millis from rfl),
    eventToDict_floored]
  simp only [sparkClock]
  split <;> rfl

theorem contractSpark_contract : ContractSchema contractSpark demoRegistry 1 "UnsubscribeEvent" where
  signed := by decide
  expected := ⟨rfl, expectedFields, rfl, by decide +kernel⟩
  readable := by
    intro event
    rw [contractSpark_reads]
    split <;> simp [*]
  faithful := by
    intro event fields read name value held
    rw [contractSpark_reads] at read
    split at read
    · cases read
      have millis : event.floored.requestedAt.instant / 1000 * 1000 = event.requestedAt.instant / 1000 * 1000 := by
        rw [floored_instant, Int.mul_ediv_cancel _ (by decide)]
      have listed := mem_of_lookup held
      simp only [eventToDict, List.mem_cons, Prod.mk.injEq, List.not_mem_nil, or_false] at listed
      rcases listed with ⟨rfl, rfl⟩ | ⟨rfl, rfl⟩ | ⟨rfl, rfl⟩ | ⟨rfl, rfl⟩ | ⟨rfl, rfl⟩ | ⟨rfl, rfl⟩ |
        ⟨rfl, rfl⟩ | ⟨rfl, rfl⟩
      · rfl
      · rfl
      · rfl
      · rfl
      · show (some (Value.timestamp (event.floored.requestedAt.instant / 1000 * 1000))).filter _ = _
        rw [millis]
        rfl
      · rfl
      · show ((sparkValue (optional event.csAgentId)).filter _) = _
        cases event.csAgentId <;> rfl
      · show ((sparkValue (optional event.legalBatchId)).filter _) = _
        cases event.legalBatchId <;> rfl
    · cases read

/-- The event of the row of `demoLibrary` that is accepted. -/
def demoLegalEvent : UnsubscribeEvent :=
  ⟨"4c1f4f0e-9d7b-4d6c-8e55-0f2a3b6c7d81", "reader-1", "writer-1", .legal, ⟨1767225600000000, some 0⟩,
    "b1f6a2a0-54f3-4a53-9d0e-6a1b2c3d4e5f", none, some "batch.csv", rfl⟩

def demoPublished : KafkaRecord := kafkaRecord (some (toBytes 1 demoLegalEvent)) 0

/-- The run over a row that passes the checks: the ids are those of the event. -/
theorem buildEvent_run {lib : Legal.Library} {row : List String} {name : String} {event : UnsubscribeEvent}
    (checked : Legal.checkRow lib row = .ok (event.userId, event.writerId, event.requestedAt))
    (eventId : UuidText event.eventId) (requestId : UuidText event.requestId)
    (made : UnsubscribeEvent.new event.eventId event.userId event.writerId .legal event.requestedAt event.requestId
      none (some name) = .ok event) :
    Prog.Run UuidExec (Legal.buildEvent lib row name, ()) (.done (.ok event), ()) := by
  rw [← made]
  unfold Legal.buildEvent
  rw [checked]
  exact Prog.Run.op (.uuid4 eventId) (Prog.Run.op (.uuid4 requestId) .refl)

theorem demoRow_accepted : Prog.Run UuidExec
    (Legal.buildEvent Legal.demoLibrary ["reader-1", " writer-1", "2026-01-01T00:00:00+00:00"] "batch.csv", ())
    (.done (.ok demoLegalEvent), ()) :=
  buildEvent_run (by decide +kernel) (by decide +kernel) (by decide +kernel) rfl

theorem schemaId_published (event : UnsubscribeEvent) :
    (kafkaRecord (some (toBytes 1 event)) 0).schemaId = some 1 :=
  schemaId_eq_some_iff.2 ⟨_, rfl, framed_toBytes (by decide) event⟩

/-- A batch of one record under the contract is one group. -/
theorem decode_contract {record : KafkaRecord} {decoded : Decoded} (id : record.schemaId = some 1)
    (dated : withEventDate (eventPart contractSpark 0 "UnsubscribeEvent" expectedFields [record]) = .ok decoded) :
    decode contractSpark demoRegistry 0 [record] = .ok (some decoded) := by
  have ids : contractSpark.distinct ([record].map KafkaRecord.schemaId) = [some 1] := by
    show List.dedup [record.schemaId] = _
    rw [id]
    rfl
  have group : [record].filter (fun record => decide (record.schemaId = some 1)) = [record] := by
    rw [List.filter_eq_self]
    intro record' member
    cases List.mem_singleton.1 member
    exact decide_eq_true id
  have part : decodePart contractSpark demoRegistry 0 [record] (some 1) =
      .ok (eventPart contractSpark 0 "UnsubscribeEvent" expectedFields [record]) := by
    have complete : mismatched expectedFields = [] := by decide +kernel
    have one : (referred expectedFields "event_id").length = 1 := by decide +kernel
    unfold decodePart
    rw [group]
    simp only [show demoRegistry 1 = .ok "UnsubscribeEvent" from rfl,
      show contractSpark.avroType "UnsubscribeEvent" = .ok (.struct expectedFields) from rfl, bind, Except.bind,
      complete, one, ne_eq, not_true_eq_false, if_false]
  unfold decode
  rw [ids]
  simp only [List.mapM_cons, List.mapM_nil, part, bind, Except.bind, pure, Except.pure, List.foldlM_nil, dated]

theorem exists_decode_published :
    ∃ decoded, decode contractSpark demoRegistry 0 [demoPublished] = .ok (some decoded) := by
  obtain ⟨decoded, dated⟩ : ∃ decoded, withEventDate
      (eventPart contractSpark 0 "UnsubscribeEvent" expectedFields [demoPublished]) = .ok decoded := by
    unfold withEventDate
    rw [if_neg (by decide +kernel)]
    exact ⟨_, rfl⟩
  exact ⟨decoded, decode_contract (schemaId_published demoLegalEvent) dated⟩

theorem accepted_row_fails_iff_future_demo :
    ∃ decoded, decode contractSpark demoRegistry 0 [demoPublished] = .ok (some decoded) ∧
      ∃ bronze ∈ decoded.rows, bronze.toDecodedRow.position = demoPublished.position ∧
        ∀ (env : Env) (target : Schema) (frame : Frame) (now : Instant), bronze.toRow ∈ frame.rows →
          incompatible target frame.schema = [] →
          checkedRow now bronze.toRow ∈ checkedRows now (conform env target frame) ∧
            ((checkedRow now bronze.toRow).failedChecks = expectedChecks demoLegalEvent now ↔
              firstReadable ≤ demoLegalEvent.requestedAt.instant) := by
  obtain ⟨decoded, returned⟩ := exists_decode_published
  exact ⟨decoded, returned, accepted_row_fails_iff_future Legal.demoLibrary contractSpark demoRegistry 1
    "UnsubscribeEvent" contractSpark_contract _ _ demoLegalEvent demoRow_accepted [demoPublished] demoPublished
    List.mem_cons_self rfl 0 decoded returned⟩

/-! ## A row of 1850 -/

/-- The library on the date of the row. -/
def earlyLibrary : Legal.Library :=
  { Legal.demoLibrary with
    fromisoformat := fun text =>
      if text = "1850-01-01T00:00:00+00:00" then some ⟨-3786825600000000, some 0⟩ else none }

def earlyEvent : UnsubscribeEvent :=
  ⟨"4c1f4f0e-9d7b-4d6c-8e55-0f2a3b6c7d81", "reader-1", "writer-1", .legal, ⟨-3786825600000000, some 0⟩,
    "b1f6a2a0-54f3-4a53-9d0e-6a1b2c3d4e5f", none, some "batch.csv", rfl⟩

def earlyPublished : KafkaRecord := kafkaRecord (some (toBytes 1 earlyEvent)) 0

theorem earlyRow_accepted : Prog.Run UuidExec
    (Legal.buildEvent earlyLibrary ["reader-1", "writer-1", "1850-01-01T00:00:00+00:00"] "batch.csv", ())
    (.done (.ok earlyEvent), ()) :=
  buildEvent_run (by decide +kernel) (by decide +kernel) (by decide +kernel) rfl

/-- The record of the row in Bronze. -/
def earlyBronze : BronzeRow where
  event _ := none
  schemaId := some 1
  kafkaTopic := "unsubscribe-priority"
  kafkaPartition := 0
  kafkaOffset := 0
  kafkaTimestamp := 0
  bronzeIngestedAt := 0
  rawValue := some ""
  decodeError := some "invalid_avro_payload"
  eventDate := none

theorem decode_early : ∃ decoded, decode contractSpark demoRegistry 0 [earlyPublished] = .ok (some decoded) ∧
    decoded.rows = [earlyBronze] := by
  have id : earlyPublished.schemaId = some 1 := schemaId_published earlyEvent
  have unread : permissive contractSpark "UnsubscribeEvent" earlyPublished.payload = fun _ => none := by
    show (contractSpark.readAvro "UnsubscribeEvent" ((toBytes 1 earlyEvent).drop 5)).getD _ = _
    rw [drop_toBytes, contractSpark_reads, if_neg (by decide)]
    rfl
  have dated : ∃ decoded,
      withEventDate (eventPart contractSpark 0 "UnsubscribeEvent" expectedFields [earlyPublished]) = .ok decoded ∧
        decoded.rows = [earlyBronze] := by
    unfold withEventDate
    rw [if_neg (by decide +kernel)]
    refine ⟨_, rfl, ?_⟩
    simp only [eventPart, List.map_cons, List.map_nil, unread, if_true]
    have noEvent : (fun name : String => if SameName name "event_date" then (none : Option Value) else none) =
        fun _ => none := by
      funext name
      exact ite_self _
    simp only [KafkaRecord.decoded, id, noEvent]
    rfl
  obtain ⟨decoded, dated, rows⟩ := dated
  exact ⟨decoded, decode_contract id dated, rows⟩

/-- The microbatch with the record, in the columns of Bronze. -/
def earlyFrame : Frame where
  schema := bronzeColumns
  rows := [earlyBronze.toRow]
  unique := bronzeColumns_nodup
  typed := by
    intro row member c v held
    cases List.mem_singleton.1 member
    cases c <;> simp [BronzeRow.toRow, earlyBronze] at held <;> subst held <;> rfl

/-- **An accepted row of 1850 fails every check.** -/
theorem early_row_quarantined :
    Prog.Run UuidExec
      (Legal.buildEvent earlyLibrary ["reader-1", "writer-1", "1850-01-01T00:00:00+00:00"] "batch.csv", ())
      (.done (.ok earlyEvent), ()) ∧
    (∃ decoded, decode contractSpark demoRegistry 0 [earlyPublished] = .ok (some decoded) ∧
      decoded.rows = [earlyBronze]) ∧
    earlyBronze.toRow ∈ earlyFrame.rows ∧ incompatible silverColumns earlyFrame.schema = [] ∧
    (checkedRow 0 earlyBronze.toRow).failedChecks = Check.all ∧ expectedChecks earlyEvent 0 = [] :=
  ⟨earlyRow_accepted, decode_early, List.mem_singleton_self _, by decide, by decide, by decide⟩

end Tikblog.Analytics
