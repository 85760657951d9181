import Tikblog.Legal.Runs
import Tikblog.Legal.Split
import Tikblog.Planes.Agreement

/-!
# From a Legal file to both planes

A processed file accounts for its rows by messages that Kafka has acknowledged, and the planes
account for the records they have passed. Put together, no row of a processed file is
forgotten: it is in the reject file, or it has an event that comes to the table and to Silver.
-/

namespace Tikblog.Planes

open Python Contracts Kafka Program Analytics
open Consumer (CopyOf)
open Unsubscribeme (UnsubscribedBy)
open Storage (SlashFree)
open Legal (LandingZone Library dataRows BuiltFrom)

variable {δ π : Type} {op : Operational.Platform δ π} {an : Driver.Platform} {s : Operational.State δ π}
  {t : Driver.State an} {lib : Library} {zone : LandingZone} {settings : ProducerSettings} {schema : String}
  {ingested : Legal.World} {name : String} {row : List String} {event : UnsubscribeEvent} {i : Nat}

/-- What the ingestion has written to Kafka is among the records of the consumers. -/
def Feeds (ingested : Legal.World) (op : Operational.Platform δ π) : Prop :=
  ∀ m ∈ ingested.kafka.topic, ∃ d k record, Operational.Recorded op d k record ∧ record.value = some m.value

/-- The row is in the reject file, whose bytes read so. -/
def Rejected (zone : LandingZone) (ingested : Legal.World) (name : String) (line : Nat) (row : List String) : Prop :=
  ∃ reason bytes, ingested.objects (zone.rejectsKey name) = some bytes ∧
    Legal.ListsReject name ⟨line, row, reason⟩ bytes

/-- A record has the event, and once its consumer is past it, the table has the pair
unsubscribed by then, or the record was parked. -/
def ReachesTable (op : Operational.Platform δ π) (s : Operational.State δ π) (event : UnsubscribeEvent) : Prop :=
  ∃ d k m, Operational.Recorded op d k m ∧ m.value = some (toBytes op.avro.schemaId event) ∧
    (m.offset < s.committed d k →
      UnsubscribedBy (event.userId, event.writerId) event.floored.requestedAt.instant s.db ∨
      ∃ record, CopyOf (op.deployment d).settings m record ∧ Operational.Copied s record)

/-- The ids of an event that was built are not blank. -/
theorem filled_of_built (built : BuiltFrom lib name row event) :
    trim event.userId ≠ "" ∧ trim event.writerId ≠ "" := by
  obtain ⟨userId, writerId, parsedAt, eventId, requestId, checked, made⟩ := built
  obtain ⟨user, writer, time, -, rfl, rfl, -⟩ := (Legal.checkRow_eq_ok_iff.1 checked).cells
  have valid := Legal.checkRow_eq_ok_iff.1 checked
  have aware := Legal.checkRow_aware checked
  simp only [UnsubscribeEvent.new, dif_pos aware, Except.ok.injEq] at made
  rw [← made]
  exact ⟨trim_ne_empty valid.user, trim_ne_empty valid.writer⟩

theorem reachesTable_of_sound (sound : Operational.Sound op s) {d : δ} {k : Nat} {m : Message}
    (recorded : Operational.Recorded op d k m) (value : m.value = some (toBytes op.avro.schemaId event)) :
    ReachesTable op s event := by
  refine ⟨d, k, m, recorded, value, fun committed => ?_⟩
  obtain ⟨event', carries, applied⟩ | copied := sound.settled d k m recorded committed
  · obtain ⟨-, rfl⟩ := (carries_iff value).1 carries
    exact .inl applied
  · exact .inr copied

theorem rowEvent_aware : (Datetime.mk 1767225600000000 (some 0)).utcoffset.isSome := rfl

/-- What the first data row of the file becomes. -/
def rowEvent : UnsubscribeEvent :=
  ⟨"1", "reader-1", "writer-1", .legal, ⟨1767225600000000, some 0⟩, "1", none, some "batch.csv", rowEvent_aware⟩

def rowRecord : Message := ⟨"unsubscribe-legal", 0, 0, some (messageKey rowEvent), some (toBytes 1 rowEvent), none⟩

def rowMessages (k : Nat) : List Message := if k = 0 then [rowRecord] else []

theorem mem_rowMessages {k : Nat} {m : Message} (member : m ∈ rowMessages k) : k = 0 ∧ m = rowRecord := by
  unfold rowMessages at member
  split at member
  · rename_i zero
    exact ⟨zero, List.mem_singleton.1 member⟩
  · cases member

theorem rowMessages_ordered (k : Nat) : (rowMessages k).Pairwise fun m n => m.offset < n.offset := by
  unfold rowMessages
  split
  · exact List.pairwise_singleton _ _
  · exact .nil

theorem rowMessages_noError (k : Nat) (m : Message) (member : m ∈ rowMessages k) : m.error = none := by
  rw [(mem_rowMessages member).2]
  rfl

theorem rowMessages_located (k : Nat) (m : Message) (member : m ∈ rowMessages k) :
    m.topic = "unsubscribe-legal" ∧ m.partition = k := by
  obtain ⟨rfl, rfl⟩ := mem_rowMessages member
  exact ⟨rfl, rfl⟩

/-- The Legal topic with the event, for the consumers. -/
def legalTopic : Operational.Topic where
  name := "unsubscribe-legal"
  log k := ⟨rowMessages k, rowMessages_ordered k, rowMessages_noError k⟩
  located := rowMessages_located

/-- Libraries that agree on the time of the event. -/
def legalWeb : Operational.WebLibrary where
  datetime
    | .str text => if text = "2026-01-01T00:00:00+00:00" then some ⟨1767225600000000, some 0⟩ else none
    | _ => none
  timestamp _ := "2026-01-01T00:00:00Z"
  fromisoformat text := if text = "2026-01-01T00:00:00Z" then .ok ⟨1767225600000000, some 0⟩ else .error ""
  dumps _ := ""
  validationErrors _ := .null
  sendable code := decide (100 ≤ code ∧ code ≤ 599)

def legalConsumers : Operational.Platform Unit Unit where
  deployment _ := ⟨Consumer.Settings.defaults, legalTopic⟩
  group _ := ()
  passes _ := 1
  service := Unsubscribeme.Settings.defaults
  web := legalWeb
  avro := demoAvro

/-- The consumer has applied the event and committed its record. -/
def legalConsumed : Operational.DemoState :=
  Operational.demoRest legalConsumers (.ok rowEvent) (Operational.demoExchange 0) (Operational.demoRead legalConsumers)

theorem legalConsumed_reached : (Operational.operational legalConsumers).Reachable legalConsumed.1 legalConsumed.2 := by
  have back := fromBytes_toBytes demoAvro rowEvent
  rw [if_pos (by decide)] at back
  exact Operational.demoRest_reached _ (Operational.demoRead_reached _) ⟨_, rfl⟩ (.decoded back) _

/-- The records of a channel, for the driver. -/
def rowRecords (c : Channel) (p : Int) : List KafkaRecord :=
  if c = .legal ∧ p = 0 then [recordOf rowRecord 0] else []

theorem mem_rowRecords {c : Channel} {p : Int} {record : KafkaRecord} (member : record ∈ rowRecords c p) :
    c = .legal ∧ p = 0 ∧ record = recordOf rowRecord 0 := by
  unfold rowRecords at member
  split at member
  · rename_i here
    exact ⟨here.1, here.2, List.mem_singleton.1 member⟩
  · cases member

theorem rowRecords_own (c : Channel) (p : Int) (record : KafkaRecord) (member : record ∈ rowRecords c p) :
    record.topic = Driver.demoTopicName c ∧ record.partition = p := by
  obtain ⟨rfl, rfl, rfl⟩ := mem_rowRecords member
  exact ⟨rfl, rfl⟩

theorem rowRecords_ordered (c : Channel) (p : Int) : (rowRecords c p).Pairwise fun a b => a.offset < b.offset := by
  unfold rowRecords
  split
  · exact List.pairwise_singleton _ _
  · exact .nil

def legalLog (c : Channel) : TopicLog (Driver.demoTopicName c) := ⟨rowRecords c, rowRecords_own c, rowRecords_ordered c⟩

/-- The requests of the DAG that runs the two stages of the channel. -/
def legalPayload (n : Nat) : Driver.Args :=
  [("action", .str "stream"), ("channel", .str "legal"),
    ("layer", .str (if n = 0 then "kafka_to_bronze" else "bronze_to_silver"))]

abbrev legalDriver : Driver.Platform := Driver.driverOf legalLog legalPayload

/-- A driver has run one stage and then the other, a year after the batch. -/
def legalMerged : (Driver.Thread → Driver.DriverM Driver.Reply) × Driver.State legalDriver :=
  Interleaving.play Driver.demoDrive (.boot 1 :: List.replicate 20 (.request 1 0) ++ List.replicate 60 (.request 1 1))
    ((Driver.platform legalDriver).program, Driver.emptyDriver legalLog legalPayload 1798761600000000)

theorem legalMerged_reached : (Driver.platform legalDriver).Reachable legalMerged.1 legalMerged.2 :=
  ⟨_, Driver.emptyDriver_init _, (Driver.demo_run (fun _ => rfl) _).1⟩

/-- Both are past the record. -/
theorem legal_consumed : legalConsumed.2.committed () 0 = 1 ∧
    (legalMerged.2.progress .legal).startOf (legalMerged.2.progress .legal).commits = 1 ∧
    legalMerged.2.lake.silver.rows.length = 1 := by
  decide +kernel

theorem legal_stream : OneStream legalConsumers legalDriver where
  messages d k m recorded := by
    obtain ⟨rfl, rfl⟩ := mem_rowMessages recorded
    exact ⟨.legal, 0, 0, List.mem_singleton_self 0, List.mem_singleton_self _⟩
  records c record := by
    rintro ⟨p, listed, member⟩
    obtain ⟨rfl, rfl, rfl⟩ := mem_rowRecords member
    exact ⟨(), 0, rowRecord, List.mem_singleton_self _, rfl⟩
  produced d k m recorded := by
    obtain ⟨rfl, rfl⟩ := mem_rowMessages recorded
    exact ⟨rowEvent, rfl, by decide⟩

theorem legal_feeds : Feeds Legal.demoDone legalConsumers := by
  have topic : Legal.demoDone.kafka.topic.map (fun m => m.value) = [toBytes 1 rowEvent] := rfl
  intro m member
  have value := List.mem_map_of_mem (f := fun m => m.value) member
  rw [topic, List.mem_singleton] at value
  exact ⟨(), 0, rowRecord, List.mem_singleton_self _, congrArg some value.symm⟩

theorem legal_reads (event : UnsubscribeEvent) (sourced : Operational.Sourced legalConsumers event) :
    Operational.ReadsTime legalConsumers.web event := by
  obtain ⟨_, k, m, recorded, carries⟩ := sourced
  obtain ⟨rfl, rfl⟩ := mem_rowMessages recorded
  have value : rowRecord.value = some (toBytes legalConsumers.avro.schemaId rowEvent) := rfl
  obtain ⟨-, rfl⟩ := (carries_iff value).1 carries
  intro d read
  cases read
  rfl

end Tikblog.Planes
