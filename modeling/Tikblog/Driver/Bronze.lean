import Tikblog.Driver.Path

/-!
# Bronze rows in the driver

The Bronze tables of a channel on their own: `ingestion` runs the query of the channel with
the registry and the topic of the platform, and every row it has appended decodes a record of
the topic (`Sourced`). A frame of such rows is a batch that fits Silver (`FromBronze`), and a
row of it passes the checks as the event that its record publishes does.
-/

namespace Tikblog.Driver

open Python Program Analytics

variable {w : Platform} {c : Channel}

/-- A record of a subscribed partition of the channel's topic. -/
def Recorded (w : Platform) (c : Channel) (record : KafkaRecord) : Prop :=
  ∃ p ∈ w.partitions c, record ∈ (w.log c).records p

/-- The row decodes a record of the topic. -/
def Sourced (w : Platform) (c : Channel) (row : BronzeRow) : Prop :=
  ∃ record, Recorded w c record ∧ Decodes w.config.spark w.registry record row

/-! ## The query of Kafka -/

/-- The `kafka_to_bronze` query of a channel, started and stopped at any point. -/
def ingestion (w : Platform) (c : Channel) :
    System Nat IngestOp IngestOp.Answer PyException Unit (Ingestion (w.topic c)) where
  init s := s.Fresh ∧ Within w c s
  begins _ s t := t = s
  program := runQuery w.config.delta w.config.spark (w.config.checkpoint c .kafkaToBronze)
  exec _ := IngestCall w c

theorem expected_of_admits {answers registry : Int → Except PyException String} {spark : Spark} {id : Int}
    {schema : String} (admits : ∀ id, answers id = registry id ∨ ∃ e, answers id = .error e)
    (expected : Expected spark answers id schema) : Expected spark registry id schema := by
  obtain ⟨registered, fields⟩ := expected
  refine ⟨?_, fields⟩
  obtain same | ⟨e, raised⟩ := admits id
  · exact same ▸ registered
  · rw [raised] at registered
    cases registered

/-- What was read under the answers of the registry is what its contents say: an id of the
batch had an answer. -/
theorem decodes_of_admits {answers registry : Int → Except PyException String} {spark : Spark}
    {record : KafkaRecord} {row : BronzeRow}
    (admits : ∀ id, answers id = registry id ∨ ∃ e, answers id = .error e)
    (readable : Readable spark answers record.schemaId) (decodes : Decodes spark answers record row) :
    Decodes spark registry record row := by
  -- an id of a frame in the batch was not refused
  have back : ∀ value id schema, record.value = some value → Framed value id →
      Expected spark registry id schema → Expected spark answers id schema := by
    intro value id schema held frame expected
    rw [schemaId_eq_some_iff.2 ⟨value, held, frame⟩] at readable
    obtain ⟨schema', fields', registered, -⟩ := readable
    refine ⟨?_, expected.2⟩
    obtain same | ⟨e, raised⟩ := admits id
    · exact same.trans expected.1
    · rw [raised] at registered
      cases registered
  constructor
  · exact decodes.topic
  · exact decodes.partition
  · exact decodes.offset
  · exact decodes.timestamp
  · exact decodes.rawValue
  · refine decodes.decodeError.trans ⟨?_, ?_⟩
    · rintro ⟨value, id, schema, event, held, frame, expected, rest⟩
      exact ⟨value, id, schema, event, held, frame, expected_of_admits admits expected, rest⟩
    · rintro ⟨value, id, schema, event, held, frame, expected, rest⟩
      exact ⟨value, id, schema, event, held, frame, back value id schema held frame expected, rest⟩
  · intro unmatched f expected_field
    refine decodes.nulls ?_ f expected_field
    rintro ⟨value, id, schema, held, frame, expected⟩
    exact unmatched ⟨value, id, schema, held, frame, expected_of_admits admits expected⟩
  · intro value id schema held frame expected
    exact decodes.columns value id schema held frame (back value id schema held frame expected)
  · exact decodes.eventDate

/-- All rows of the table decode records of the topic. -/
def AllSourced (w : Platform) (c : Channel) (s : Ingestion (w.topic c)) : Prop :=
  ∀ row ∈ s.rows, Sourced w c row

/-- What is kept at every operation of the query. -/
structure Kept (w : Platform) (c : Channel) (s : Ingestion (w.topic c)) : Prop where
  sourced : AllSourced w c s
  within : Within w c s

/-- What the query knows when it appends. -/
def AppendsSourced (w : Platform) (c : Channel) : IngestOp → Prop
  | .append _ _ rows => ∀ row ∈ rows, Sourced w c row
  | _ => True

theorem Kept.step {o : IngestOp} {s t : Ingestion (w.topic c)} {a : o.Answer} (kept : Kept w c s)
    (step : IngestCall w c o s a t) (appends : AppendsSourced w c o) : Kept w c t := by
  obtain ⟨⟨u, arrives, step⟩, -, within⟩ := step
  refine ⟨?_, within⟩
  have before : AllSourced w c u := by
    rw [arrives.2]
    exact kept.sourced
  cases step with
  | appended fresh | appendLost fresh =>
    intro row member
    obtain old | new := List.mem_append.1 member
    · exact before row old
    · exact appends row new
  | _ => exact before

theorem mem_slice_records {records : List KafkaRecord} {start stop : Nat} {r : KafkaRecord}
    (member : r ∈ slice records start stop) : r ∈ records :=
  List.mem_of_mem_take (List.mem_of_mem_drop member)

/-- A batch is made of records of the topic. -/
theorem recorded_of_batch {s : Ingestion (w.topic c)} (within : Within w c s) {i : Nat} {r : KafkaRecord}
    (member : r ∈ s.batch (w.partitions c) i) : Recorded w c r := by
  obtain ⟨p, listed, present⟩ := List.mem_flatMap.1 member
  exact ⟨p, listed, (within p).subset (mem_slice_records present)⟩

/-- The decoded rows of a batch. -/
theorem sourced_of_decode {answers : Int → Except PyException String} {now : Instant} {batch : List KafkaRecord}
    {decoded : Decoded} (admits : ∀ id, answers id = w.registry id ∨ ∃ e, answers id = .error e)
    (recorded : ∀ r ∈ batch, Recorded w c r)
    (returned : decode w.config.spark answers now batch = .ok (some decoded)) :
    ∀ row ∈ decoded.rows, Sourced w c row := by
  obtain ⟨records, sorted, rows⟩ := decoded_rows returned
  intro row member
  obtain ⟨record, present, decodes⟩ := exists_of_forall₂ rows member
  have in_batch : record ∈ batch := sorted.subset present
  have readable := readable_of_decode returned record in_batch
  exact ⟨record, recorded record in_batch, decodes_of_admits admits readable decodes⟩

abbrev Knows (w : Platform) (c : Channel) (o : IngestOp) (s : Ingestion (w.topic c)) : Prop :=
  AppendsSourced w c o ∧ Kept w c s

theorem always_pause {cfg : Settings} {attempt : Nat} {s : Ingestion (w.topic c)} (kept : Kept w c s) :
    Prog.Always (IngestCall w c) (Knows w c) (fun _ => Kept w c) (Analytics.pauseAfter cfg attempt) s := by
  refine ⟨⟨trivial, kept⟩, fun drawn t drawing => ?_⟩
  have kept := kept.step drawing trivial
  exact ⟨⟨trivial, kept⟩, fun _ u sleeping => kept.step sleeping trivial⟩

theorem always_append {cfg : Settings} {rows : List BronzeRow} {identity : String} {batchId : Nat}
    {s : Ingestion (w.topic c)} (kept : Kept w c s) (sourced : ∀ row ∈ rows, Sourced w c row) :
    Prog.Always (IngestCall w c) (Knows w c) (fun _ => Kept w c) (appendBronze cfg rows identity batchId) s := by
  apply always_retry (fun _ => Kept w c) (fun _ => Kept w c) _ _ kept
  · intro n t _ kept
    refine ⟨⟨sourced, kept⟩, fun answer u step => ?_⟩
    have kept := kept.step step sourced
    cases answer with
    | ok value => exact kept
    | error exc => exact ⟨kept, kept⟩
  · intro n t kept
    apply (always_pause kept).mono fun _ _ knows => knows
    rintro (exc | ⟨⟩) u kept
    · exact kept
    · exact kept

theorem always_process {identity : String} {batch : List KafkaRecord} {batchId : Nat} {s : Ingestion (w.topic c)}
    (kept : Kept w c s) (recorded : ∀ r ∈ batch, Recorded w c r) :
    Prog.Always (IngestCall w c) (Knows w c) (fun _ => Kept w c)
      (process w.config.delta w.config.spark identity batch batchId) s := by
  unfold process
  split
  · exact kept
  refine ⟨⟨trivial, kept⟩, fun answers t asked => ?_⟩
  have kept := kept.step asked trivial
  have admits := asked.2.1
  refine ⟨⟨trivial, kept⟩, fun now u asked => ?_⟩
  have kept := kept.step asked trivial
  show Prog.Always _ _ _ (Prog.bind (.done (decode w.config.spark answers now batch)) _) u
  cases returned : decode w.config.spark answers now batch with
  | error exc => exact kept
  | ok frame =>
    cases frame with
    | none => exact kept
    | some decoded =>
      apply Prog.Always.seq (always_append kept (sourced_of_decode admits recorded returned))
      rintro (exc | result) x kept
      · exact kept
      · exact kept

/-- The answer to `nextBatch` is made of records of the topic. -/
theorem recorded_nextBatch {planned : Nat × List KafkaRecord} {s t : Ingestion (w.topic c)}
    (step : IngestCall w c .nextBatch s planned t) : ∀ r ∈ planned.2, Recorded w c r := by
  obtain ⟨⟨u, arrives, step⟩, -, within⟩ := step
  cases step with
  | replayed => exact fun r member => recorded_of_batch within member
  | planned => exact fun r member => recorded_of_batch within member

/-- **The query appends decoded records only.** -/
theorem always_ingests {identity : String} (triggers : Nat) {s : Ingestion (w.topic c)} (kept : Kept w c s) :
    Prog.Always (IngestCall w c) (Knows w c) (fun _ => Kept w c)
      (runQuery w.config.delta w.config.spark identity triggers) s := by
  induction triggers generalizing s with
  | zero => exact kept
  | succ triggers ih =>
    refine ⟨⟨trivial, kept⟩, fun planned t step => ?_⟩
    have kept := kept.step step trivial
    apply Prog.Always.seq (always_process kept (recorded_nextBatch step))
    rintro (exc | ⟨⟩) u kept
    · exact kept
    · exact ⟨⟨trivial, kept⟩, fun _ v committing => ih (kept.step committing trivial)⟩

theorem kept_fresh {s : Ingestion (w.topic c)} (fresh : s.Fresh) (within : Within w c s) : Kept w c s := by
  refine ⟨fun row member => ?_, within⟩
  rw [fresh.2.2.1] at member
  cases member

theorem kept_of_ingestion {s : Ingestion (w.topic c)} (h : (ingestion w c).Reachable s) : Kept w c s := by
  apply h.invariant
  · rintro s ⟨fresh, within⟩
    exact kept_fresh fresh within
  · rintro triggers s s₀ kept rfl
    exact (always_ingests triggers kept).mono (fun _ _ knows => knows.2) fun _ _ kept => kept

theorem exact_of_ingestion {s : Ingestion (w.topic c)} (h : (ingestion w c).Reachable s) :
    Exact (w.config.checkpoint c .kafkaToBronze) (w.partitions c) s := by
  apply h.invariant
  · rintro s ⟨fresh, -⟩
    exact exact_fresh fresh
  · rintro triggers s s₀ exact rfl
    exact (always_runQuery triggers exact).of_le fun _ _ _ _ performed => performed.1

end Tikblog.Driver
