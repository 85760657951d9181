import Tikblog.Analytics.ExactlyOnce
import Tikblog.Analytics.LegalRows
import Tikblog.Driver.Jobs

/-!
# The driver

All that runs on the lake, at the same time: the two streams of the priority channel, the
`/run` requests, and the reports of the main loop and of `/failure`. A driver that dies is
started again with its streams; the requests of the one before, its locks and its queries
are gone, and the tables, the logs of the queries and Kafka are still there.

The Bronze rows of a channel are those its query has appended, `removed` the positions that
housekeeping has deleted from the table. A stream of the table goes through the appended
rows; only what was deleted before its first batch is never shown to it. `archive` is
history: every row that was ever put into the quarantine.
-/

namespace Tikblog.Driver

open Python Contracts Program Analytics

/-- What runs: the start of a driver, its streams, requests and reports. -/
inductive Thread where
  | boot (life : Nat)
  | stream (life : Nat) (layer : Layer)
  | request (life n : Nat)
  | reporter (life n : Nat)
  deriving DecidableEq, Repr

/-- The driver a thread is of. -/
def Thread.life : Thread → Nat
  | boot life | stream life _ | request life _ | reporter life _ => life

/-- A deployment: the drivers one after another, what they are asked, and what the topics
will ever hold. A topic belongs to one channel, and the registry keeps what it has under an
id. -/
structure Platform where
  config : Config
  topic : Channel → String
  apart : topic .priority ≠ topic .legal
  log : (c : Channel) → TopicLog (topic c)
  partitions : Channel → List Int
  registry : Int → Except PyException String
  types : Column → DataType
  typed : Follows types silverColumns
  payload : Nat → Nat → Args
  triggers : Thread → Nat
  report : Nat → LakeM Unit
  reports : ∀ n, (report n).Uses Reporting

/-- Where a `bronze_to_silver` query is. A position is the number of rows before it. -/
structure Progress where
  offsets : List Nat
  commits : Nat
  skipped : List Position

structure State (w : Platform) where
  life : Nat
  batchLock : Option Thread
  silverGoldLock : Option Thread
  ingest : (c : Channel) → Ingestion (w.topic c)
  progress : Channel → Progress
  removed : Channel → List Position
  lake : World
  archive : List QuarantineRow

/-! ## What a stream of Bronze shows -/

/-- A Bronze row in the columns of a schema. -/
def shownRow (schema : Schema) (row : BronzeRow) : Row :=
  fun c => (row.toRow c).filter fun v => schema.typeOf c = some v.type

/-- Bronze rows as a frame. -/
def bronzeFrame (schema : Schema) (unique : schema.columns.Nodup) (rows : List BronzeRow) : Frame where
  schema := schema
  rows := rows.map (shownRow schema)
  unique := unique
  typed row member c v held := by
    obtain ⟨r, -, rfl⟩ := List.mem_map.1 member
    exact of_decide_eq_true (Option.filter_eq_some_iff.1 held).2

/-- A schema the Bronze tables have had: their own columns, and further ones of the types the
contract gives them. -/
structure BronzeSchema (w : Platform) (schema : Schema) : Prop where
  unique : schema.columns.Nodup
  own : bronzeColumns <+: schema
  follows : Follows w.types schema

/-- Where the batch before `batchId` ends. -/
def Progress.startOf (progress : Progress) : (batchId : Nat) → Nat
  | 0 => 0
  | previous + 1 => (progress.offsets[previous]?).getD 0

section

variable {w : Platform}

/-- The Bronze rows of a batch. -/
def State.batchRows (s : State w) (c : Channel) (batchId : Nat) : List BronzeRow :=
  let stop := (s.progress c).startOf (batchId + 1)
  let rows := ((s.ingest c).rows.take stop).drop ((s.progress c).startOf batchId)
  rows.filter fun row => row.position ∉ (s.progress c).skipped

/-- The rows of the table. -/
def State.tableRows (s : State w) (c : Channel) : List BronzeRow :=
  (s.ingest c).rows.filter fun row => row.position ∉ s.removed c

/-- The next batch is planned up to `stop`. -/
def State.plan (s : State w) (c : Channel) (stop : Nat) : State w :=
  let before := s.progress c
  { s with
    progress := Function.update s.progress c
      { before with
        offsets := before.offsets ++ [stop]
        skipped := if before.offsets = [] then s.removed c else before.skipped } }

def State.commitBatch (s : State w) (c : Channel) (batchId : Nat) : State w :=
  { s with progress := Function.update s.progress c { s.progress c with commits := batchId + 1 } }

/-- The lake moves on; what comes into the quarantine is archived. -/
def State.within (s : State w) (lake : World) : State w :=
  { s with
    lake := lake
    archive := s.archive ++ lake.quarantine.drop s.lake.quarantine.length }

def State.ingested (s : State w) (c : Channel) (t : Ingestion (w.topic c)) : State w :=
  { s with ingest := Function.update s.ingest c t }

/-! ## Deletion -/

/-- Older than a number of days. -/
def Expired (now : Instant) (days : Int) (t : Instant) : Prop := t < now - days * microsPerDay

instance (now : Instant) (days : Int) (t : Instant) : Decidable (Expired now days t) :=
  inferInstanceAs (Decidable (_ < _))

/-- The rows of Bronze that arrived too long ago are gone. -/
def State.deleteBronze (s : State w) (c : Channel) (now : Instant) (days : Int) : State w :=
  { s with
    removed := Function.update s.removed c
      (s.removed c ++ ((s.ingest c).rows.filter fun row => Expired now days row.bronzeIngestedAt).map
        BronzeRow.position) }

/-- The monitoring rows that are too old are gone. -/
def World.deleteMonitoring (s : World) (now : Instant) (days : Int) : MonitoringTable → World
  | .dqResults => { s with dqResults := s.dqResults.filter fun r => ¬ Expired now days r.checkedAt }
  | .dqQuarantine => { s with quarantine := s.quarantine.filter fun r => ¬ Expired now days r.quarantinedAt }
  | .pipelineMetrics => { s with metrics := s.metrics.filter fun r => ¬ Expired now days r.observedAt }
  | .alertEvents => { s with alerts := s.alerts.filter fun r => ¬ Expired now days r.createdAt }

/-! ## The operations -/

/-- The registry has one answer for an id, or raises. -/
def Admits (w : Platform) : (o : IngestOp) → o.Answer → Prop
  | .registry, answers => ∀ id, answers id = w.registry id ∨ ∃ e, answers id = .error e
  | _, _ => True

/-- The topic holds what its log has so far. -/
def Within (w : Platform) (c : Channel) (s : Ingestion (w.topic c)) : Prop :=
  ∀ p, s.log.records p <+: (w.log c).records p

/-- The calls of a query of Kafka. -/
def IngestCall (w : Platform) (c : Channel) : Program.Exec IngestOp IngestOp.Answer (Ingestion (w.topic c)) :=
  fun o s a t => IngestExec (w.partitions c) o s a t ∧ Admits w o a ∧ Within w c t

/-- The calls on the lake without the lock: reads, clocks and reports. -/
inductive Outside : LakeOp → Prop where
  | reporting {o} : Reporting o → Outside o
  | readSilver : Outside .readSilver
  | readGold : Outside .readGold
  | freshness : Outside (.currentTimestamp .freshness)

/-- The operations of a thread of the running driver. Time passes between two critical
sections. -/
inductive ThreadExec (w : Platform) (i : Thread) : Program.Exec Op Ans (State w) where
  | lockBatch {s} : s.batchLock = none → ThreadExec w i .lockBatch s () { s with batchLock := some i }
  | unlockBatch {s} : s.batchLock = some i → ThreadExec w i .unlockBatch s () { s with batchLock := none }
  | acquire {s k begin} : s.silverGoldLock = none → s.lake.clock < begin →
      ThreadExec w i (.acquire k) s () { s with silverGoldLock := some i, lake := s.lake.at begin }
  | release {s} : s.silverGoldLock = some i → ThreadExec w i .release s () { s with silverGoldLock := none }
  | inside {s k o a lake} : s.silverGoldLock = some i → LakeExec k.runId o s.lake a lake →
      ThreadExec w i (.inside k o) s a (s.within lake)
  | outside {s o a lake} : Outside o → LakeExec "" o s.lake a lake →
      ThreadExec w i (.outside o) s a { s with lake := lake }
  | startQuery {s c layer} : ThreadExec w i (.startQuery c layer) s () s
  | awaitTermination {s reported} : ThreadExec w i .awaitTermination s reported s
  | ingest {s c o a t} : IngestCall w c o (s.ingest c) a t →
      ThreadExec w i (.ingest c o) s a (s.ingested c t)
  | replayed {s c schema} (h : BronzeSchema w schema) : (s.progress c).commits < (s.progress c).offsets.length →
      ThreadExec w i (.nextBatch c) s
        ((s.progress c).commits, bronzeFrame schema h.unique (s.batchRows c (s.progress c).commits)) s
  | planned {s c stop schema} (h : BronzeSchema w schema) :
      (s.progress c).commits = (s.progress c).offsets.length →
      (s.progress c).startOf (s.progress c).commits ≤ stop → stop ≤ (s.ingest c).rows.length →
      ThreadExec w i (.nextBatch c) s
        ((s.progress c).commits, bronzeFrame schema h.unique ((s.plan c stop).batchRows c (s.progress c).commits))
        (s.plan c stop)
  | commitBatch {s c batchId} : ThreadExec w i (.commitBatch c batchId) s () (s.commitBatch c batchId)
  | readBronze {s c schema} (h : BronzeSchema w schema) :
      ThreadExec w i (.readBronze c) s (.ok (bronzeFrame schema h.unique (s.tableRows c))) s
  | unread {s c e} : ThreadExec w i (.readBronze c) s (.error e) s
  | optimize {s table r} : ThreadExec w i (.optimize table) s r s
  | vacuum {s table r} : ThreadExec w i (.vacuum table) s r s
  | deleteBronze {s c days now r} : s.lake.clock ≤ now →
      ThreadExec w i (.deleteBronze c days) s r ({ s with lake := s.lake.at now }.deleteBronze c now days)
  | keptBronze {s c days e} : ThreadExec w i (.deleteBronze c days) s (.error e) s
  | deleteMonitoring {s table days now r} : s.lake.clock ≤ now →
      ThreadExec w i (.deleteMonitoring table days) s r
        { s with lake := World.deleteMonitoring (s.lake.at now) now days table }
  | keptMonitoring {s table days e} : ThreadExec w i (.deleteMonitoring table days) s (.error e) s
  | random {s drawn} : ThreadExec w i .random s drawn s
  | sleep {s seconds} : ThreadExec w i (.sleep seconds) s () s

/-- Only the threads of the running driver do anything; a new driver holds no lock. -/
inductive Exec (w : Platform) : Thread → Program.Exec Op Ans (State w) where
  | started {life s} : s.life < life →
      Exec w (.boot life) .start s () { s with life := life, batchLock := none, silverGoldLock := none }
  | ran {i o s a t} : i.life = s.life → ThreadExec w i o s a t → Exec w i o s a t

end

/-- The whole platform, from empty tables. -/
def platform (w : Platform) : Interleaving Thread Op Ans PyException Reply (State w) where
  init s := s.batchLock = none ∧ s.silverGoldLock = none ∧
    (∀ c, (s.ingest c).Fresh ∧ Within w c (s.ingest c)) ∧
    (∀ c, s.progress c = ⟨[], 0, []⟩) ∧ (∀ c, s.removed c = []) ∧
    (∃ t, s.lake = World.bootstrap t) ∧ s.archive = []
  program
    | .boot _ => do
      call .start
      return none
    | .stream life layer => do
      query w.config .priority layer (w.triggers (.stream life layer))
      return none
    | .request life n => request w.config (w.triggers (.request life n)) (w.payload life n)
    | .reporter _ n => do
      (w.report n).embed Op.outside fun _ a => a
      return none
  exec := Exec w

/-! ## A platform with two events of one pair -/

theorem demoEvent_aware : (Datetime.mk 86401000000 (some 0)).utcoffset.isSome := rfl

/-- An event requested on the second day. -/
def demoEvent : UnsubscribeEvent :=
  ⟨"event-1", "reader-1", "writer-1", .ui, ⟨86401000000, some 0⟩, "request-1", none, none, demoEvent_aware⟩

theorem earlierEvent_aware : (Datetime.mk 1000000 (some 0)).utcoffset.isSome := rfl

/-- The same pair, requested on the first day. -/
def earlierEvent : UnsubscribeEvent :=
  ⟨"event-2", "reader-1", "writer-1", .ui, ⟨1000000, some 0⟩, "request-2", none, none, earlierEvent_aware⟩

/-- The days that can be written: the first two. -/
def demoDates : DateLibrary where
  isoformat d :=
    if d = 0 then .ok "1970-01-01"
    else if d = 1 then .ok "1970-01-02"
    else .error (.valueError "year is out of range")
  fromisoformat text :=
    if text = "1970-01-01" then .ok 0
    else if text = "1970-01-02" then .ok 1
    else .error (.valueError "Invalid isoformat string")
  instant _ := .ok 0
  fromisoformat_isoformat d text written := by
    split at written
    · rename_i first
      cases written
      rw [first]
      rfl
    · split at written
      · rename_i second
        cases written
        rw [second]
        rfl
      · cases written

def demoConfig : Config where
  delta := Settings.defaults
  env := demoEnv
  spark := contractSpark
  dates := demoDates
  checkpoint c layer := "checkpoints/" ++ pipelineOf c layer
  bronzeRetentionDays := 365
  monitoringRetentionDays := 90
  optimizeGold := false

def demoRecord : KafkaRecord := kafkaRecord (some (toBytes 1 demoEvent)) 0

def earlierRecord : KafkaRecord := kafkaRecord (some (toBytes 1 earlierEvent)) 1

def demoRecords (p : Int) : List KafkaRecord := if p = 0 then [demoRecord, earlierRecord] else []

theorem mem_demoRecords {p : Int} {record : KafkaRecord} (member : record ∈ demoRecords p) :
    p = 0 ∧ (record = demoRecord ∨ record = earlierRecord) := by
  unfold demoRecords at member
  split at member
  · rename_i zero
    rw [List.mem_pair] at member
    exact ⟨zero, member⟩
  · cases member

theorem demoRecords_own (p : Int) (record : KafkaRecord) (member : record ∈ demoRecords p) :
    record.topic = "unsubscribe-priority" ∧ record.partition = p := by
  obtain ⟨rfl, rfl | rfl⟩ := mem_demoRecords member
  · exact ⟨rfl, rfl⟩
  · exact ⟨rfl, rfl⟩

theorem demoRecords_ordered (p : Int) : (demoRecords p).Pairwise fun a b => a.offset < b.offset := by
  unfold demoRecords
  split
  · exact List.pairwise_pair.2 (by decide)
  · exact .nil

/-- A topic with the records. -/
def demoPriority : TopicLog "unsubscribe-priority" := ⟨demoRecords, demoRecords_own, demoRecords_ordered⟩

def demoLegal : TopicLog "unsubscribe-legal" where
  records _ := []
  own _ _ member := by cases member
  ordered _ := .nil

def demoTopicName : Channel → String
  | .priority => "unsubscribe-priority"
  | .legal => "unsubscribe-legal"

def demoLog : (c : Channel) → TopicLog (demoTopicName c)
  | .priority => demoPriority
  | .legal => demoLegal

/-- A driver over some topics, of one partition each, and asked for some jobs. -/
def driverOf (log : (c : Channel) → TopicLog (demoTopicName c)) (payload : Nat → Args) : Platform where
  config := demoConfig
  topic := demoTopicName
  apart := by decide
  log := log
  partitions _ := [0]
  registry := demoRegistry
  types := demoTypes
  typed := follows_of_unique (by decide) (by decide)
  payload _ := payload
  triggers _ := 1
  report _ := .done (.ok ())
  reports _ := trivial

/-- It has not been started. -/
def emptyDriver (log : (c : Channel) → TopicLog (demoTopicName c)) (payload : Nat → Args) (begin : Instant) :
    State (driverOf log payload) where
  life := 0
  batchLock := none
  silverGoldLock := none
  ingest c := ⟨log c, [], 0, [], fun _ => none, []⟩
  progress _ := ⟨[], 0, []⟩
  removed _ := []
  lake := .bootstrap begin
  archive := []

/-- The first request asks for the dates, the second rebuilds Gold for them. -/
def demoPayload (n : Nat) : Args :=
  if n = 0 then [("action", .str "touched"), ("run_id", .str "gold"), ("start", .str ""), ("end", .str "")]
  else [("action", .str "gold"), ("run_id", .str "gold"), ("dates", .arr [.str "1970-01-02", .str "1970-01-01"])]

abbrev demoPlatform : Platform := driverOf demoLog demoPayload

def demoStart : State demoPlatform := emptyDriver demoLog demoPayload 0

section Play

variable {log : (c : Channel) → TopicLog (demoTopicName c)} {payload : Nat → Args}

theorem demo_bronzeSchema : BronzeSchema (driverOf log payload) bronzeColumns :=
  ⟨bronzeColumns_nodup, List.prefix_rfl,
    follows_of_unique bronzeColumns_nodup (by decide : ∀ f ∈ bronzeColumns, demoTypes f.1 = f.2)⟩

/-- What a thread of the running driver is answered: each batch takes all there is, nothing
fails, and a critical section begins two days later. -/
def demoStep (i : Thread) : (o : Op) → State (driverOf log payload) → Option (Ans o × State (driverOf log payload))
  | .lockBatch, s => if s.batchLock = none then some ((), { s with batchLock := some i }) else none
  | .unlockBatch, s => if s.batchLock = some i then some ((), { s with batchLock := none }) else none
  | .acquire _, s =>
    if s.silverGoldLock = none then
      some ((), { s with silverGoldLock := some i, lake := s.lake.at (s.lake.clock + 172800000000) })
    else none
  | .release, s => if s.silverGoldLock = some i then some ((), { s with silverGoldLock := none }) else none
  | .inside k o, s =>
    if s.silverGoldLock = some i then some ((perform k.runId o s.lake).1, s.within (perform k.runId o s.lake).2)
    else none
  | .outside .readSilver, s => some (.ok s.lake.silver, s)
  | .outside .readGold, s => some (.ok s.lake.gold, s)
  | .startQuery .., s => some ((), s)
  | .awaitTermination, s => some (.ok (), s)
  | .ingest c o, s => (demoEngine o (s.ingest c)).map fun r => (r.1, s.ingested c r.2)
  | .nextBatch c, s =>
    let planned := s.plan c (s.ingest c).rows.length
    if (s.progress c).commits = (s.progress c).offsets.length ∧
        (s.progress c).startOf (s.progress c).commits ≤ (s.ingest c).rows.length then
      some (((s.progress c).commits,
        bronzeFrame bronzeColumns bronzeColumns_nodup (planned.batchRows c (s.progress c).commits)), planned)
    else none
  | .commitBatch c batchId, s => some ((), s.commitBatch c batchId)
  | _, _ => none

/-- The driver of the demo. -/
def demoDrive (i : Thread) (o : Op) (s : State (driverOf log payload)) : Option (Ans o × State (driverOf log payload)) :=
  if i.life = s.life then demoStep i o s
  else
    match i, o with
    | .boot life, .start =>
      if s.life < life then some ((), { s with life := life, batchLock := none, silverGoldLock := none }) else none
    | _, _ => none

/-- All records are there from the start. -/
def Arrived (s : State (driverOf log payload)) : Prop := ∀ c, (s.ingest c).log = log c

theorem demoEngine_log {topic : String} {o : IngestOp} {x y : Ingestion topic} {a : o.Answer}
    (answered : demoEngine o x = some (a, y)) : y.log = x.log ∧ Admits (driverOf log payload) o a := by
  cases o with
  | nextBatch =>
    simp only [demoEngine] at answered
    split at answered
    · cases answered
      exact ⟨rfl, trivial⟩
    · split at answered
      · cases answered
        exact ⟨rfl, trivial⟩
      · cases answered
  | registry => cases answered; exact ⟨rfl, fun _ => .inl rfl⟩
  | append app version rows =>
    simp only [demoEngine] at answered
    split at answered
    · cases answered
      exact ⟨rfl, trivial⟩
    · cases answered
      exact ⟨rfl, trivial⟩
  | _ => cases answered; exact ⟨rfl, trivial⟩

theorem Arrived.ingested {s : State (driverOf log payload)} (h : Arrived s) {c : Channel} {x : Ingestion ((driverOf log payload).topic c)}
    (kept : x.log = log c) : Arrived (s.ingested c x) := by
  intro c'
  show (Function.update s.ingest c x c').log = log c'
  by_cases same : c' = c
  · subst same
    rw [Function.update_self]
    exact kept
  · rw [Function.update_of_ne same]
    exact h c'

theorem demoStep_sound {i : Thread} {o : Op} {s t : State (driverOf log payload)} {a : Ans o} (arrived : Arrived s)
    (answered : demoStep i o s = some (a, t)) : ThreadExec (driverOf log payload) i o s a t ∧ Arrived t := by
  cases o with
  | lockBatch =>
    obtain ⟨free, same⟩ := Option.ite_none_right_eq_some.1 answered
    cases same
    exact ⟨.lockBatch free, arrived⟩
  | unlockBatch =>
    obtain ⟨held, same⟩ := Option.ite_none_right_eq_some.1 answered
    cases same
    exact ⟨.unlockBatch held, arrived⟩
  | acquire k =>
    obtain ⟨free, same⟩ := Option.ite_none_right_eq_some.1 answered
    cases same
    exact ⟨.acquire free (Int.lt_add_of_pos_right _ (by decide)), arrived⟩
  | release =>
    obtain ⟨held, same⟩ := Option.ite_none_right_eq_some.1 answered
    cases same
    exact ⟨.release held, arrived⟩
  | inside k o =>
    obtain ⟨held, same⟩ := Option.ite_none_right_eq_some.1 answered
    cases same
    exact ⟨.inside held (perform_sound k.runId o s.lake), arrived⟩
  | outside o =>
    cases o with
    | readSilver =>
      cases answered
      exact ⟨.outside .readSilver (perform_sound "" .readSilver s.lake), arrived⟩
    | readGold =>
      cases answered
      exact ⟨.outside .readGold (perform_sound "" .readGold s.lake), arrived⟩
    | _ => cases answered
  | startQuery c layer =>
    cases answered
    exact ⟨.startQuery, arrived⟩
  | awaitTermination =>
    cases answered
    exact ⟨.awaitTermination, arrived⟩
  | ingest c o =>
    obtain ⟨⟨b, x⟩, performed, same⟩ := Option.map_eq_some_iff.1 answered
    cases same
    obtain ⟨kept, admits⟩ := demoEngine_log performed
    have within : Within (driverOf log payload) c x := by
      intro p
      rw [kept, arrived c]
      exact List.prefix_rfl
    exact ⟨.ingest ⟨demoEngine_sound o (s.ingest c) b x performed, admits, within⟩,
      arrived.ingested (kept.trans (arrived c))⟩
  | nextBatch c =>
    obtain ⟨⟨first, above⟩, same⟩ := Option.ite_none_right_eq_some.1 answered
    cases same
    exact ⟨.planned demo_bronzeSchema first above (Nat.le_refl _), arrived⟩
  | commitBatch c batchId =>
    cases answered
    exact ⟨.commitBatch, arrived⟩
  | _ => cases answered

theorem demoDrive_sound (i : Thread) (o : Op) (s : State (driverOf log payload)) (a : Ans o) (t : State (driverOf log payload))
    (arrived : Arrived s) (answered : demoDrive i o s = some (a, t)) : Exec (driverOf log payload) i o s a t ∧ Arrived t := by
  unfold demoDrive at answered
  split at answered
  · rename_i running
    obtain ⟨performed, kept⟩ := demoStep_sound arrived answered
    exact ⟨.ran running performed, kept⟩
  · split at answered
    · obtain ⟨newer, same⟩ := Option.ite_none_right_eq_some.1 answered
      cases same
      exact ⟨.started newer, arrived⟩
    · cases answered

theorem demo_run {threads : Thread → DriverM Reply} {s : State (driverOf log payload)} (arrived : Arrived s) (schedule : List Thread) :
    (platform (driverOf log payload)).Run threads s (Interleaving.play demoDrive schedule (threads, s)).1
      (Interleaving.play demoDrive schedule (threads, s)).2 ∧
    Arrived (Interleaving.play demoDrive schedule (threads, s)).2 :=
  Interleaving.run_play demoDrive_sound schedule arrived

theorem emptyDriver_init (begin : Instant) : (platform (driverOf log payload)).init (emptyDriver log payload begin) := by
  have here : ∀ c, ((emptyDriver log payload begin).ingest c).Fresh ∧
      Within (driverOf log payload) c ((emptyDriver log payload begin).ingest c) :=
    fun c => ⟨⟨rfl, rfl, rfl, fun _ => rfl, rfl⟩, fun _ => List.prefix_rfl⟩
  exact ⟨rfl, rfl, here, fun _ => rfl, fun _ => rfl, ⟨begin, rfl⟩, rfl⟩

end Play

def demoStreams : List Thread :=
  List.replicate 10 (.stream 1 .kafkaToBronze) ++ List.replicate 40 (.stream 1 .bronzeToSilver)

/-- A driver starts, and its first stream and then its second runs to the end. -/
def demoMerged : (Thread → DriverM Reply) × State demoPlatform :=
  Interleaving.play demoDrive (.boot 1 :: demoStreams) ((platform demoPlatform).program, demoStart)

/-- Then one request asks for the dates. -/
def demoFound : (Thread → DriverM Reply) × State demoPlatform :=
  Interleaving.play demoDrive (List.replicate 10 (.request 1 0)) demoMerged

/-- And another rebuilds Gold for them. -/
def demoRefreshed : (Thread → DriverM Reply) × State demoPlatform :=
  Interleaving.play demoDrive (List.replicate 20 (.request 1 1)) demoFound

theorem demoMerged_reachable : (platform demoPlatform).Reachable demoMerged.1 demoMerged.2 ∧ Arrived demoMerged.2 := by
  obtain ⟨run, arrived⟩ := demo_run (s := demoStart) (fun _ => rfl) _
  exact ⟨⟨demoStart, emptyDriver_init 0, run⟩, arrived⟩

theorem demoFound_run :
    (platform demoPlatform).Run demoMerged.1 demoMerged.2 demoFound.1 demoFound.2 ∧ Arrived demoFound.2 :=
  demo_run demoMerged_reachable.2 _

theorem demoRefreshed_run :
    (platform demoPlatform).Run demoFound.1 demoFound.2 demoRefreshed.1 demoRefreshed.2 ∧ Arrived demoRefreshed.2 :=
  demo_run demoFound_run.2 _

theorem demoRefreshed_reachable : (platform demoPlatform).Reachable demoRefreshed.1 demoRefreshed.2 :=
  (demoMerged_reachable.1.run demoFound_run.1).run demoRefreshed_run.1

end Tikblog.Driver
