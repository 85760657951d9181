import Mathlib.Data.Set.Card
import Tikblog.Driver.Cooperation

/-!
# What the driver delivers

Whatever the order in which the streams, the requests, the reports and new drivers take
their steps: each component has the state of a run of its own, Silver holds published events
only, and a record that both stages have committed is in Silver by its event id, or in the
quarantine. Once the topics are drained, Silver has exactly the published events, and where
nothing is pending Gold has their exact counts.
-/

namespace Tikblog.Driver

open Python Contracts Program Analytics

variable {w : Platform} {s t : State w} {c : Channel} {record : KafkaRecord} {e : Event}
  {threads threads' : Thread → DriverM Reply}

/-! ## One component at a time -/

/-- **Isolation.** In every reachable state of the whole driver, each Bronze table with its
query is in a state that the query alone reaches, and Silver and Gold are those of critical
sections that ran one after another. -/
theorem components_isolated (h : (platform w).Reachable threads s) :
    (∀ c, (ingestion w c).Reachable (s.ingest c)) ∧
    ∃ v, (sections w).Reachable v ∧ v.silver = s.lake.silver ∧ v.gold = s.lake.gold ∧
      v.inserted = s.lake.inserted ∧ v.clock ≤ s.lake.clock ∧
      ∀ q ∈ v.quarantine, ∃ q' ∈ s.archive, q'.key = q.key := by
  have staging := staging_of_reachable h
  obtain ⟨v, reached, mirrors⟩ := staging.mirrored
  exact ⟨staging.ingests, v, reached, mirrors.silver, mirrors.gold, mirrors.inserted, mirrors.clock, mirrors.quarantine⟩

/-- The run of the demo, at its end. -/
theorem demoRefreshed_state :
    (∀ c ∈ [Channel.priority, .legal],
      (demoRefreshed.2.ingest c).startOf (demoRefreshed.2.ingest c).commits 0 = ((demoLog c).records 0).length ∧
      (demoRefreshed.2.progress c).startOf (demoRefreshed.2.progress c).commits = (demoRefreshed.2.ingest c).rows.length ∧
      (demoRefreshed.2.progress c).skipped = []) ∧
    (demoRefreshed.2.ingest .priority).rows.map BronzeRow.position =
      [("unsubscribe-priority", 0, 0), ("unsubscribe-priority", 0, 1)] ∧
    demoRefreshed.2.lake.clock = 345600000000 ∧ demoRefreshed.2.archive.length = 0 ∧
    (pendingGroups demoRefreshed.2.lake.silver.rows demoRefreshed.2.lake.gold).length = 0 ∧
    ∀ day ∈ [(0 : Date), 1], countsAt demoRefreshed.2.lake.gold (some day, some "UI") = [(1, 1, 1)] := by
  decide +kernel

theorem components_isolated_demo :
    (ingestion demoPlatform .priority).Reachable (demoRefreshed.2.ingest .priority) ∧
    (demoRefreshed.2.ingest .priority).rows.map BronzeRow.position =
      [("unsubscribe-priority", 0, 0), ("unsubscribe-priority", 0, 1)] :=
  ⟨(components_isolated demoRefreshed_reachable).1 .priority, demoRefreshed_state.2.1⟩

/-- **Nothing is taken back.** Whatever the order of the steps, a run only adds columns and
rows to Silver, and where Gold has the right counts, it has them still, unless the pair has
got Silver rows. -/
theorem silver_only_grows (reached : (platform w).Reachable threads s) (run : (platform w).Run threads s threads' t) :
    s.lake.silver.schema <+: t.lake.silver.schema ∧ s.lake.silver.rows <+: t.lake.silver.rows ∧
    ∀ p, countsAt s.lake.gold p = aggregateAt s.lake.silver.rows p →
      rowsOf t.lake.silver.rows p = rowsOf s.lake.silver.rows p →
      countsAt t.lake.gold p = aggregateAt t.lake.silver.rows p := by
  have grows := grows_of_run reached run
  refine ⟨grows.silver.columns, grows.silver.rows, fun p right same => ?_⟩
  by_contra stale
  exact grows.right p stale same right

/-- Between the merge of the events and the refresh of their days. -/
theorem silver_only_grows_demo :
    demoMerged.2.lake.silver.rows <+: demoRefreshed.2.lake.silver.rows ∧
    demoMerged.2.lake.gold.length = 0 ∧ demoRefreshed.2.lake.gold.length = 2 := by
  have grown := silver_only_grows demoMerged_reachable.1 (demoFound_run.1.trans demoRefreshed_run.1)
  have gold : demoMerged.2.lake.gold.length = 0 ∧ demoRefreshed.2.lake.gold.length = 2 := by decide +kernel
  exact ⟨grown.2.1, gold⟩

/-! ## Records and their rows -/

/-- A position in the topics has one record. -/
theorem recorded_unique {c' : Channel} {record' : KafkaRecord} (h : Recorded w c record) (h' : Recorded w c' record')
    (same : record.position = record'.position) : record = record' := by
  obtain ⟨p, -, listed⟩ := h
  obtain ⟨p', -, listed'⟩ := h'
  obtain ⟨topic, partition⟩ := (w.log c).own p record listed
  obtain ⟨topic', partition'⟩ := (w.log c').own p' record' listed'
  simp only [KafkaRecord.position, Prod.mk.injEq] at same
  have channel : c = c' := by
    have topics : w.topic c = w.topic c' := topic.symm.trans (same.1.trans topic')
    cases c <;> cases c' <;> first | rfl | exact absurd topics w.apart | exact absurd topics.symm w.apart
  subst channel
  have partitions : p = p' := partition.symm.trans (same.2.1.trans partition')
  subst partitions
  exact List.inj_on_of_nodup_map (List.Pairwise.map _ (fun a b before => ne_of_lt before) ((w.log c).ordered p))
    listed listed' same.2.2

theorem position_of_decodes {spark : Spark} {registry : Int → Except PyException String} {row : BronzeRow}
    (decodes : Decodes spark registry record row) : row.position = record.position := by
  simp only [BronzeRow.position, DecodedRow.position, KafkaRecord.position, decodes.topic, decodes.partition,
    decodes.offset]

/-- Both stages have committed the record, and it was shown to the second. -/
def Delivered (s : State w) (c : Channel) (record : KafkaRecord) : Prop :=
  ∃ row ∈ (s.ingest c).rows.take ((s.progress c).startOf (s.progress c).commits),
    row.position = record.position ∧ row.position ∉ (s.progress c).skipped

/-- The coordinates of a record in a quarantined row. -/
def At (record : KafkaRecord) (q : QuarantineRow) : Prop :=
  q.key.2 = (some record.topic, some record.partition, some record.offset)

/-- Where the row of a record was quarantined although it publishes an event, the event was
ahead of the clock, and nothing else was wrong. -/
theorem late_of_rejection {q : QuarantineRow} (rejection : Rejection w q) (recorded : Recorded w c record)
    (at_record : At record q) (publishes : Publishes w record e) :
    q.failedChecks = [Check.requestedAtNotFuture.name] := by
  cases rejection with
  | @rejected c' schema bronze runId pipeline now quarantinedAt h sourced fails =>
    obtain ⟨record', recorded', decodes⟩ := sourced
    have position : bronze.position = record.position := by
      have key : (coordinates (shownRow schema bronze)) = (some record.topic, some record.partition, some record.offset) := by
        rw [← at_record, key_quarantineRow]
      rw [coordinates_shown h] at key
      simp only [Prod.mk.injEq, Option.some.injEq] at key
      obtain ⟨topic, partition, offset⟩ := key
      simp only [BronzeRow.position, DecodedRow.position, KafkaRecord.position, topic, partition, offset]
    have same := recorded_unique recorded' recorded ((position_of_decodes decodes).symm.trans position)
    subst same
    obtain ⟨-, failed⟩ := passes_of_publishes h decodes publishes now
    have failed : failedChecks now (shownRow schema bronze) = [.requestedAtNotFuture] := by
      split at failed
      · exact absurd failed fails
      · exact failed
    show (failedChecks now (shownRow schema bronze)).map Check.name = _
    rw [failed]
    rfl

theorem accounted_of_delivered (staging : Staging w s) (recorded : Recorded w c record) (delivered : Delivered s c record) :
    (∃ e, Publishes w record e ∧ ∃ r ∈ s.lake.silver.rows, r .eventId = some (.string e.eventId)) ∨
    ∃ q ∈ s.archive, At record q ∧
      ∀ e, Publishes w record e → q.failedChecks = [Check.requestedAtNotFuture.name] := by
  obtain ⟨row, below, position, shown⟩ := delivered
  obtain ⟨e, ⟨c', record', recorded', decodes, publishes⟩, held⟩ | ⟨q, archived, key⟩ :=
    (staging.staged c).settled row below shown
  · have same := recorded_unique recorded' recorded ((position_of_decodes decodes).symm.trans position)
    subst same
    exact .inl ⟨e, publishes, held⟩
  · have at_record : At record q := by
      simp only [BronzeRow.position, DecodedRow.position, KafkaRecord.position, Prod.mk.injEq] at position
      unfold At
      rw [key, position.1, position.2.1, position.2.2]
    exact .inr ⟨q, archived, at_record, fun e publishes =>
      late_of_rejection (staging.rejections q archived) recorded at_record publishes⟩

/-- **Nothing is dropped.** A record that both stages have committed publishes an event whose
id is in Silver, or its row was quarantined; and if it publishes an event and was
quarantined, then for a request time that was ahead of the clock, and for nothing else. -/
theorem delivered_accounted (h : (platform w).Reachable threads s) (recorded : Recorded w c record)
    (delivered : Delivered s c record) :
    (∃ e, Publishes w record e ∧ ∃ r ∈ s.lake.silver.rows, r .eventId = some (.string e.eventId)) ∨
    ∃ q ∈ s.archive, At record q ∧
      ∀ e, Publishes w record e → q.failedChecks = [Check.requestedAtNotFuture.name] :=
  accounted_of_delivered (staging_of_reachable h) recorded delivered

theorem recorded_demo : Recorded demoPlatform c record ↔ c = .priority ∧ (record = demoRecord ∨ record = earlierRecord) := by
  constructor
  · rintro ⟨p, listed, member⟩
    cases List.mem_singleton.1 listed
    cases c with
    | priority => exact ⟨rfl, (mem_demoRecords (p := 0) member).2⟩
    | legal => cases member
  · rintro ⟨rfl, record⟩
    exact ⟨0, List.mem_singleton_self 0, List.mem_pair.2 record⟩

theorem delivered_accounted_demo :
    demoRefreshed.2.archive.length = 0 ∧ ∀ record ∈ [demoRecord, earlierRecord],
      ∃ e, Publishes demoPlatform record e ∧
        ∃ r ∈ demoRefreshed.2.lake.silver.rows, r .eventId = some (.string e.eventId) := by
  refine ⟨demoRefreshed_state.2.2.2.1, ?_⟩
  intro record listed
  have recorded : Recorded demoPlatform .priority record := recorded_demo.2 ⟨rfl, List.mem_pair.1 listed⟩
  have positions := demoRefreshed_state.2.1
  obtain ⟨row, member, position⟩ : ∃ row ∈ (demoRefreshed.2.ingest .priority).rows, row.position = record.position := by
    rw [← List.mem_map, positions]
    exact List.mem_map_of_mem (f := KafkaRecord.position) listed
  obtain ⟨-, merged, shown⟩ := demoRefreshed_state.1 .priority List.mem_cons_self
  have delivered : Delivered demoRefreshed.2 .priority record := by
    refine ⟨row, ?_, position, ?_⟩
    · rw [merged, List.take_length]
      exact member
    · rw [shown]
      exact List.not_mem_nil
  obtain published | ⟨q, archived, -⟩ := delivered_accounted demoRefreshed_reachable recorded delivered
  · exact published
  · rw [List.length_eq_zero_iff.1 demoRefreshed_state.2.2.2.1] at archived
    cases archived

/-! ## Silver holds published events -/

theorem silver_of_staging (staging : Staging w s) :
    (s.lake.silver.rows.map (· .eventId)).Nodup ∧
    ∀ row ∈ s.lake.silver.rows, ∃ e, Published w e ∧ e.In row ∧ e.requestedAt ≤ s.lake.clock := by
  obtain ⟨v, reached, mirrors⟩ := staging.mirrored
  have silver := silverInvariant reached
  have gold := goldInvariant_of_sections reached
  rw [← mirrors.silver]
  refine ⟨silver.unique, fun row member => ?_⟩
  obtain ⟨e, published, held⟩ := (sectionInvariant reached).events row member
  obtain ⟨requestedAt, processedAt, requested, processed, order⟩ := (silver.valid row member).timely
  have stamped : goldOf.time row = (processedAt : WithBot Instant) := by
    simp only [goldOf, Row.timestamp_eq_some.2 processed]
  have past := gold.processed row member
  rw [stamped, WithBot.coe_le_coe] at past
  have same := requested.symm.trans held.requestedAt
  simp only [Option.some.injEq, Value.timestamp.injEq] at same
  exact ⟨e, published, held, same ▸ (order.trans past).trans mirrors.clock⟩

/-- **Nothing is made up.** Every Silver row holds an event that a record of the topics
publishes, with a request time that is past, and no event id is there twice. -/
theorem silver_published (h : (platform w).Reachable threads s) :
    (s.lake.silver.rows.map (· .eventId)).Nodup ∧
    ∀ row ∈ s.lake.silver.rows, ∃ e, Published w e ∧ e.In row ∧ e.requestedAt ≤ s.lake.clock :=
  silver_of_staging (staging_of_reachable h)

theorem silver_published_demo :
    demoRefreshed.2.lake.clock = 345600000000 ∧
    ∀ row ∈ demoRefreshed.2.lake.silver.rows, ∃ e, Published demoPlatform e ∧ e.In row ∧
      e.requestedAt ≤ 345600000000 := by
  have clock := demoRefreshed_state.2.2.1
  have published := (silver_published demoRefreshed_reachable).2
  rw [clock] at published
  exact ⟨clock, published⟩

/-! ## Events of the producers -/

/-- The event as the analytics count it. -/
structure Same (event : UnsubscribeEvent) (e : Event) : Prop where
  eventId : e.eventId = event.eventId
  userId : e.userId = event.userId
  writerId : e.writerId = event.writerId
  source : e.source = event.source.value
  requestedAt : e.requestedAt = event.requestedAt.instant

section Produced

variable {schemaId : Nat} {schema : String} (contract : ContractSchema w.config.spark w.registry schemaId schema)
  {event : UnsubscribeEvent} (produced : record.value = some (toBytes schemaId event))

include contract produced in
/-- What the record publishes is the event. -/
theorem same_of_publishes (publishes : Publishes w record e) : Same event.floored e := by
  obtain ⟨value, id, schema', fields, held, frame, expected, read, is_event⟩ := publishes
  cases produced.symm.trans held
  have own := framed_toBytes contract.signed event
  have ids : id = schemaId := frame.id_eq.trans own.id_eq.symm
  subst ids
  have registered := expected.1.symm.trans contract.expected.1
  cases registered
  rw [drop_toBytes] at read
  have column := contract.faithful event fields read
  have eventId := is_event.eventId.symm.trans (column "event_id" _ rfl)
  have userId := is_event.userId.symm.trans (column "user_id" _ rfl)
  have writerId := is_event.writerId.symm.trans (column "writer_id" _ rfl)
  have source := is_event.source.symm.trans (column "source" _ rfl)
  have requestedAt := is_event.requestedAt.symm.trans (column "requested_at" _ rfl)
  simp only [sparkValue, Option.some.injEq, Value.string.injEq, Value.timestamp.injEq]
    at eventId userId writerId source requestedAt
  exact ⟨eventId, userId, writerId, source, requestedAt.trans (floored_instant event).symm⟩

include contract produced in
/-- An event under an id, of a reader and a writer, is published, if it is not from before
1900. -/
theorem publishes_of_produced (dated : firstReadable ≤ event.requestedAt.instant)
    (eventId : trim event.eventId ≠ "") (userId : trim event.userId ≠ "") (writerId : trim event.writerId ≠ "") :
    ∃ e, Publishes w record e := by
  obtain ⟨fields, read⟩ := Option.ne_none_iff_exists'.1 ((contract.readable event).2 ((firstReadable_le_floor _).2 dated))
  have known : event.source.value ∈ sources := by cases event.source <;> decide
  have column := contract.faithful event fields read
  refine ⟨⟨event.eventId, event.userId, event.writerId, event.source.value, event.requestedAt.instant / 1000 * 1000,
    eventId, userId, writerId, known⟩, toBytes schemaId event, schemaId, schema, fields, produced,
    framed_toBytes contract.signed event, contract.expected, (drop_toBytes _ event).symm ▸ read, ?_⟩
  exact ⟨column "event_id" _ rfl, column "user_id" _ rfl, column "writer_id" _ rfl, column "source" _ rfl,
    column "requested_at" _ rfl⟩

include contract in
theorem published_of_recorded (recorded : Recorded w c record) (produced : record.value = some (toBytes schemaId event))
    (dated : firstReadable ≤ event.requestedAt.instant) (eventId : trim event.eventId ≠ "")
    (userId : trim event.userId ≠ "") (writerId : trim event.writerId ≠ "") :
    ∃ e, Published w e ∧ Same event.floored e := by
  obtain ⟨e, publishes⟩ := publishes_of_produced contract produced dated eventId userId writerId
  exact ⟨e, ⟨c, record, recorded, publishes⟩, same_of_publishes contract produced publishes⟩

end Produced

/-! ## Drained topics -/

/-- Every record of the topics has been committed by both stages, and none was deleted before
it was shown to the second or came ahead of the clock. -/
structure Drained (w : Platform) (s : State w) : Prop where
  ingested : ∀ c, ∀ p ∈ w.partitions c, ((w.log c).records p).length ≤ (s.ingest c).startOf (s.ingest c).commits p
  merged : ∀ c, (s.ingest c).rows.length ≤ (s.progress c).startOf (s.progress c).commits
  shown : ∀ c, (s.progress c).skipped = []
  punctual : ∀ q ∈ s.archive, Check.requestedAtNotFuture.name ∉ q.failedChecks

/-- A record that the first stage has committed has its row. -/
theorem row_of_committed (staging : Staging w s) {p : Int} (listed : p ∈ w.partitions c) {k : Nat}
    (committed : k < (s.ingest c).startOf (s.ingest c).commits p) (held : ((w.log c).records p)[k]? = some record) :
    ∃ row ∈ (s.ingest c).rows, row.position = record.position := by
  have exact := exact_of_ingestion (staging.ingests c)
  obtain ⟨new, grown⟩ := (kept_of_staging staging c).within p
  have below := committed.trans_le (exact.within _ exact.lower p)
  have arrived : ((s.ingest c).log.records p)[k]? = some record := by
    rw [← grown, List.getElem?_append_left below] at held
    exact held
  obtain ⟨row, member, same⟩ := List.mem_map.1 (exact.passed listed committed arrived)
  exact ⟨row, member, same⟩

theorem Drained.delivered (drained : Drained w s) (staging : Staging w s) (recorded : Recorded w c record) :
    Delivered s c record := by
  obtain ⟨p, listed, member⟩ := recorded
  obtain ⟨k, below, held⟩ := List.getElem_of_mem member
  have committed := below.trans_le (drained.ingested c p listed)
  obtain ⟨row, member, position⟩ := row_of_committed staging listed committed (List.getElem?_eq_some_iff.2 ⟨below, held⟩)
  refine ⟨row, ?_, position, ?_⟩
  · rw [List.take_of_length_le (drained.merged c)]
    exact member
  · rw [drained.shown c]
    exact List.not_mem_nil

/-- An event id names one event. -/
def Named (w : Platform) : Prop := ∀ e e', Published w e → Published w e' → e.eventId = e'.eventId → e = e'

/-- Silver has exactly the published events. -/
theorem silver_exact (staging : Staging w s) (named : Named w) (drained : Drained w s) (e : Event) :
    Published w e ↔ ∃ row ∈ s.lake.silver.rows, e.In row := by
  have events := (silver_of_staging staging).2
  constructor
  · intro published
    obtain ⟨c, record, recorded, publishes⟩ := published
    have delivered := drained.delivered staging recorded
    obtain ⟨e', publishes', row, member, id⟩ | ⟨q, archived, -, late⟩ :=
      accounted_of_delivered staging recorded delivered
    · cases publishes.unique publishes'
      obtain ⟨e', published', held, -⟩ := events row member
      have same := id.symm.trans held.eventId
      simp only [Option.some.injEq, Value.string.injEq] at same
      exact ⟨row, member, named e e' ⟨c, record, recorded, publishes⟩ published' same ▸ held⟩
    · refine absurd ?_ (drained.punctual q archived)
      rw [late e publishes]
      exact List.mem_singleton_self _
  · rintro ⟨row, member, held⟩
    obtain ⟨e', published, held', -⟩ := events row member
    rw [held.unique held']
    exact published

/-! ## Counts -/

/-- The published events of a day and a source. -/
def eventsAt (w : Platform) (day : Date) (source : String) : Set Event :=
  {e | Published w e ∧ toDate e.requestedAt = day ∧ e.source = source}

section Counts

variable {rows : List Row} {events : List Event}

/-- The columns that are counted. -/
theorem columns_of_in (held : List.Forall₂ (fun row e => Event.In e row) rows events) :
    rows.map (· .eventId) = events.map (fun e => some (.string e.eventId)) ∧
    rows.filterMap (· .userId) = (events.map Event.userId).map Value.string ∧
    rows.filterMap (· .writerId) = (events.map Event.writerId).map Value.string := by
  induction held with
  | nil => exact ⟨rfl, rfl, rfl⟩
  | cons head _ ih =>
    obtain ⟨ids, users, writers⟩ := ih
    refine ⟨?_, ?_, ?_⟩
    · rw [List.map_cons, List.map_cons, ids, head.eventId]
    · rw [List.filterMap_cons, head.userId, users, List.map_cons, List.map_cons]
    · rw [List.filterMap_cons, head.writerId, writers, List.map_cons, List.map_cons]

theorem dedup_strings (f : Event → String) :
    ((events.map f).map Value.string).dedup.length = (f '' {e | e ∈ events}).ncard := by
  have injective : Function.Injective Value.string := fun a b same => Value.string.inj same
  classical
  have image : f '' {e | e ∈ events} = ↑(events.map f).toFinset := by
    ext text
    simp only [Set.mem_image, Set.mem_ofPred_eq, List.coe_toFinset, List.mem_map]
  rw [List.dedup_map_of_injective injective, List.length_map, image, Set.ncard_coe_finset, List.card_toFinset]

/-- Rows that hold the events of a set, each under its own id, are counted as the set. -/
theorem countsOf_events {E : Set Event} (unique : (rows.map (· .eventId)).Nodup)
    (sound : ∀ row ∈ rows, ∃ e ∈ E, e.In row) (complete : ∀ e ∈ E, ∃ row ∈ rows, e.In row) :
    countsOf rows = (E.ncard, (Event.userId '' E).ncard, (Event.writerId '' E).ncard) := by
  obtain ⟨events, held, members⟩ : ∃ events : List Event,
      List.Forall₂ (fun row e => Event.In e row) rows events ∧ ∀ e ∈ events, e ∈ E := by
    clear unique complete
    induction rows with
    | nil => exact ⟨[], .nil, fun _ member => by cases member⟩
    | cons row rows ih =>
      obtain ⟨events, held, members⟩ := ih fun r member => sound r (List.mem_cons_of_mem _ member)
      obtain ⟨e, present, first⟩ := sound row List.mem_cons_self
      exact ⟨e :: events, .cons first held, List.forall_mem_cons.2 ⟨present, members⟩⟩
  have same : E = {e | e ∈ events} := by
    ext e
    refine ⟨fun present => ?_, members e⟩
    obtain ⟨row, member, first⟩ := complete e present
    obtain ⟨e', listed, second⟩ := exists_of_forall₂ held.flip member
    rw [first.unique second]
    exact listed
  obtain ⟨ids, users, writers⟩ := columns_of_in held
  have distinct : events.Nodup := List.Nodup.of_map _ (ids ▸ unique)
  have length : rows.length = E.ncard := by
    classical
    rw [same, ← List.coe_toFinset, Set.ncard_coe_finset, List.toFinset_card_of_nodup distinct, held.length_eq]
  unfold countsOf countDistinct
  rw [users, writers, dedup_strings, dedup_strings, ← same, length]

end Counts

/-! ## Gold -/

theorem pairOf_in {row : Row} (held : e.In row) : pairOf row = (some (toDate e.requestedAt), some e.source) := by
  simp only [pairOf, Row.date, Row.string, held.eventDate, held.source]

/-- Where no pair is pending, none is stale. -/
theorem current_of_nothing_pending {v : World} (inv : GoldInvariant v)
    (current : pendingGroups v.silver.rows v.gold = []) (p : Pair) : countsAt v.gold p = aggregateAt v.silver.rows p := by
  by_contra stale
  have present := inv.present_of_stale stale
  have pending := (inv.pendingGroups_iff p).2 ((inv.pending_iff present).2 stale)
  rw [current] at pending
  cases pending

/-- The two events of the demo. -/
theorem same_demo (published : Published demoPlatform e) : Same demoEvent.floored e ∨ Same earlierEvent.floored e := by
  obtain ⟨c, record, recorded, publishes⟩ := published
  obtain ⟨-, rfl | rfl⟩ := recorded_demo.1 recorded
  · exact .inl (same_of_publishes contractSpark_contract rfl publishes)
  · exact .inr (same_of_publishes contractSpark_contract rfl publishes)

theorem demo_published : (∃ e, Published demoPlatform e ∧ Same demoEvent.floored e) ∧
    ∃ e, Published demoPlatform e ∧ Same earlierEvent.floored e :=
  ⟨published_of_recorded contractSpark_contract (recorded_demo.2 ⟨rfl, .inl rfl⟩) rfl (by decide) (by decide)
      (by decide) (by decide),
    published_of_recorded contractSpark_contract (recorded_demo.2 ⟨rfl, .inr rfl⟩) rfl (by decide) (by decide)
      (by decide) (by decide)⟩

theorem Same.unique {event : UnsubscribeEvent} {e' : Event} (h : Same event e) (h' : Same event e') : e = e' :=
  Event.ext (h.eventId.trans h'.eventId.symm) (h.userId.trans h'.userId.symm) (h.writerId.trans h'.writerId.symm)
    (h.source.trans h'.source.symm) (h.requestedAt.trans h'.requestedAt.symm)

theorem demo_named : Named demoPlatform := by
  intro e e' published published' same
  obtain first | second := same_demo published <;> obtain first' | second' := same_demo published'
  · exact first.unique first'
  · rw [first.eventId, second'.eventId] at same
    exact absurd same (by decide)
  · rw [second.eventId, first'.eventId] at same
    exact absurd same (by decide)
  · exact second.unique second'

theorem demo_drained : Drained demoPlatform demoRefreshed.2 := by
  have both : ∀ c, c ∈ [Channel.priority, .legal] := by
    intro c
    cases c with
    | priority => exact List.mem_cons_self
    | legal => exact List.mem_cons_of_mem _ List.mem_cons_self
  have state := fun c => demoRefreshed_state.1 c (both c)
  constructor
  · intro c p listed
    cases List.mem_singleton.1 listed
    exact (state c).1.ge
  · exact fun c => (state c).2.1.ge
  · exact fun c => (state c).2.2
  · intro q archived
    rw [List.length_eq_zero_iff.1 demoRefreshed_state.2.2.2.1] at archived
    cases archived

end Tikblog.Driver
