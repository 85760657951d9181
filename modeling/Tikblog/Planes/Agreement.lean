import Tikblog.Operational.Agreement
import Tikblog.Driver.Delivery

/-!
# Two planes over one stream of events

The consumers of the operational plane and the driver of the analytics plane read the same
topics, each at its own pace, with its own Avro library and its own failures. They agree:
what the subscription table holds is in Silver, and what is in Silver was applied to the
table, or its record was parked. Only what happened before 1900 is in one plane alone: the
consumers read it, and `from_avro` does not.
-/

namespace Tikblog.Planes

open Python Contracts Kafka Program Analytics
open Consumer (CopyOf)
open Unsubscribeme (UnsubscribedBy)

variable {δ π : Type} {op : Operational.Platform δ π} {an : Driver.Platform} {m : Message} {event : UnsubscribeEvent}
  {e : Driver.Event} {timestamp : Instant}

/-! ## One stream -/

/-- A message as the Kafka source of Spark has it. -/
def recordOf (m : Message) (timestamp : Instant) : KafkaRecord where
  value := m.value
  topic := m.topic
  partition := m.partition
  offset := m.offset
  timestamp := timestamp

/-- The planes read the same records, and these are what the producers send: events under
their own ids, as `to_bytes` writes them. -/
structure OneStream (op : Operational.Platform δ π) (an : Driver.Platform) : Prop where
  messages : ∀ d k m, Operational.Recorded op d k m → ∃ c timestamp, Driver.Recorded an c (recordOf m timestamp)
  records : ∀ c record, Driver.Recorded an c record →
    ∃ d k m, Operational.Recorded op d k m ∧ record = recordOf m record.timestamp
  produced : ∀ d k m, Operational.Recorded op d k m →
    ∃ event, m.value = some (toBytes op.avro.schemaId event) ∧ trim event.eventId ≠ ""

/-! ## One event -/

/-- The consumers are given the event, floored to the millisecond. -/
theorem carries_iff {given : UnsubscribeEvent} (produced : m.value = some (toBytes op.avro.schemaId event)) :
    Operational.Carries op.avro m given ↔
      (minInstant ≤ event.requestedAt.instant ∧ event.requestedAt.instant ≤ maxInstant) ∧ given = event.floored := by
  unfold Operational.Carries
  rw [produced]
  constructor
  · rintro ⟨value, held, read⟩
    cases held
    rw [fromBytes_toBytes] at read
    split at read
    · rename_i inside
      cases read
      exact ⟨inside, rfl⟩
    · cases read
  · rintro ⟨inside, rfl⟩
    refine ⟨_, rfl, ?_⟩
    rw [fromBytes_toBytes, if_pos inside]

section Planes

variable {s : Operational.State δ π} {t : Driver.State an} {schema : String} (stream : OneStream op an)
  (contract : ContractSchema an.config.spark an.registry op.avro.schemaId schema)

include stream in
/-- An event that the consumers are given is that of a record of the driver. -/
theorem recorded_of_sourced (sourced : Operational.Sourced op event) :
    trim event.eventId ≠ "" ∧
      ∃ c record, Driver.Recorded an c record ∧ record.value = some (toBytes op.avro.schemaId event) := by
  obtain ⟨d, k, m, recorded, carries⟩ := sourced
  obtain ⟨sent, produced, eventId⟩ := stream.produced d k m recorded
  obtain ⟨-, rfl⟩ := (carries_iff produced).1 carries
  obtain ⟨c, timestamp, listed⟩ := stream.messages d k m recorded
  exact ⟨eventId, c, _, listed, produced.trans (congrArg some (toBytes_floored op.avro.schemaId sent).symm)⟩

include stream contract in
/-- It is published, unless it is from before 1900, or its reader or its writer is blank. -/
theorem published_of_sourced (sourced : Operational.Sourced op event) (dated : firstReadable ≤ event.requestedAt.instant)
    (userId : trim event.userId ≠ "") (writerId : trim event.writerId ≠ "") :
    ∃ e, Driver.Published an e ∧ Driver.Same event e := by
  obtain ⟨d, k, m, recorded, carries⟩ := sourced
  obtain ⟨sent, produced, eventId⟩ := stream.produced d k m recorded
  obtain ⟨-, rfl⟩ := (carries_iff produced).1 carries
  obtain ⟨c, timestamp, listed⟩ := stream.messages d k m recorded
  rw [floored_instant, firstReadable_le_floor] at dated
  exact Driver.published_of_recorded contract listed produced dated eventId userId writerId

include stream contract in
/-- A published event is that of a record of the consumers, whatever they made of it. -/
theorem sourced_of_published (published : Driver.Published an e) :
    ∃ d k m, Operational.Recorded op d k m ∧
      (∃ c timestamp, Driver.Recorded an c (recordOf m timestamp) ∧ Driver.Publishes an (recordOf m timestamp) e) ∧
      ∀ event, Operational.Carries op.avro m event → Driver.Same event e := by
  obtain ⟨c, record, listed, publishes⟩ := published
  obtain ⟨d, k, m, recorded, same⟩ := stream.records c record listed
  obtain ⟨sent, produced, -⟩ := stream.produced d k m recorded
  have value : record.value = some (toBytes op.avro.schemaId sent) := by
    rw [same]
    exact produced
  have as_sent := Driver.same_of_publishes contract value publishes
  rw [same] at publishes listed
  refine ⟨d, k, m, recorded, ⟨c, _, listed, publishes⟩, fun event carries => ?_⟩
  obtain ⟨-, rfl⟩ := (carries_iff produced).1 carries
  exact as_sent

/-- A record of the driver has the event, and once the driver is past it, Silver has the event,
or the record was quarantined: as ahead of the clock, if the event is not from before 1900. -/
def ReachesSilver (op : Operational.Platform δ π) (t : Driver.State an) (event : UnsubscribeEvent) : Prop :=
  ∃ c record, Driver.Recorded an c record ∧ record.value = some (toBytes op.avro.schemaId event) ∧
    (Driver.Delivered t c record →
      (∃ r ∈ t.lake.silver.rows, r .eventId = some (.string event.eventId)) ∨
      ∃ q ∈ t.archive, Driver.At record q ∧
        (firstReadable ≤ event.requestedAt.instant → q.failedChecks = [Check.requestedAtNotFuture.name]))

include contract in
/-- A record of the driver with an event under an id, of a reader and a writer. -/
theorem reachesSilver_of_recorded (staging : Driver.Staging an t) {c : Channel} {record : KafkaRecord}
    (recorded : Driver.Recorded an c record) (value : record.value = some (toBytes op.avro.schemaId event))
    (eventId : trim event.eventId ≠ "") (userId : trim event.userId ≠ "") (writerId : trim event.writerId ≠ "") :
    ReachesSilver op t event := by
  refine ⟨c, record, recorded, value, fun delivered => ?_⟩
  obtain ⟨e, publishes, held⟩ | ⟨q, archived, at_record, late⟩ := Driver.accounted_of_delivered staging recorded delivered
  · have same := Driver.same_of_publishes contract value publishes
    exact .inl (same.eventId ▸ held)
  · refine .inr ⟨q, archived, at_record, fun dated => ?_⟩
    obtain ⟨e, publishes⟩ := Driver.publishes_of_produced contract value dated eventId userId writerId
    exact late e publishes

/-- The request times of a pair in Silver. -/
def timesInSilver (t : Driver.State an) (key : Unsubscribeme.Key) : Set Instant :=
  {time | ∃ row ∈ t.lake.silver.rows, row .userId = some (.string key.1) ∧ row .writerId = some (.string key.2) ∧
    row .requestedAt = some (.timestamp time)}

/-- Once everything is consumed, Silver has the times at which the topics ask for a pair. -/
theorem timesInSilver_eq (stream : OneStream op an)
    (contract : ContractSchema an.config.spark an.registry op.avro.schemaId schema)
    (sound : Operational.Sound op s) (drained : Operational.Drained op s) (staging : Driver.Staging an t)
    (named : Driver.Named an) (drained' : Driver.Drained an t) {key : Unsubscribeme.Key}
    (userId : trim key.1 ≠ "") (writerId : trim key.2 ≠ "")
    (dated : ∀ time ∈ Operational.timesAsked op key, firstReadable ≤ time) :
    timesInSilver t key = Operational.timesAsked op key := by
  have exact := Driver.silver_exact staging named drained'
  ext time
  constructor
  · rintro ⟨row, member, user, writer, requested⟩
    obtain ⟨e, published, held, -⟩ := (Driver.silver_of_staging staging).2 row member
    obtain ⟨d, k, m, recorded, -, carried⟩ := sourced_of_published stream contract published
    obtain ⟨event, carries, -⟩ | ⟨record, copy, copied⟩ :=
      sound.settled d k m recorded (drained.committed d k m recorded)
    · have same := carried event carries
      have user := user.symm.trans held.userId
      have writer := writer.symm.trans held.writerId
      have requested := requested.symm.trans held.requestedAt
      simp only [Option.some.injEq, Value.string.injEq, Value.timestamp.injEq] at user writer requested
      refine ⟨event, ⟨d, k, m, recorded, carries⟩, ?_, requested.trans same.requestedAt⟩
      exact Prod.ext (user.trans same.userId) (writer.trans same.writerId)
    · exact absurd copied (drained.unparked d k m recorded record copy)
  · rintro ⟨event, sourced, rfl, rfl⟩
    obtain ⟨e, published, same⟩ := published_of_sourced stream contract sourced
      (dated event.requestedAt.instant ⟨event, sourced, rfl, rfl⟩) userId writerId
    obtain ⟨row, member, held⟩ := (exact e).1 published
    refine ⟨row, member, ?_, ?_, ?_⟩
    · rw [held.userId, same.userId]
    · rw [held.writerId, same.writerId]
    · rw [held.requestedAt, same.requestedAt]

end Planes

/-! ## Two events on both -/

theorem demo_stream : OneStream Operational.demoPlatform Driver.demoPlatform where
  messages d k m recorded := by
    obtain ⟨rfl, rfl | rfl⟩ := Operational.mem_demoMessages recorded
    · exact ⟨.priority, 0, Driver.recorded_demo.2 ⟨rfl, .inl rfl⟩⟩
    · exact ⟨.priority, 0, Driver.recorded_demo.2 ⟨rfl, .inr rfl⟩⟩
  records c record recorded := by
    obtain ⟨-, rfl | rfl⟩ := Driver.recorded_demo.1 recorded
    · exact ⟨(), 0, Operational.laterRecord, List.mem_cons_self, rfl⟩
    · exact ⟨(), 0, Operational.earlierRecord, List.mem_cons_of_mem _ List.mem_cons_self, rfl⟩
  produced d k m recorded := by
    obtain ⟨rfl, rfl | rfl⟩ := Operational.mem_demoMessages recorded
    · exact ⟨Operational.laterEvent, rfl, by decide⟩
    · exact ⟨Operational.earlierEvent, rfl, by decide⟩

end Tikblog.Planes
