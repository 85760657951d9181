import Tikblog.Program.History
import Tikblog.Analytics.Records

/-!
# Silver does not depend on batching

A schedule is any history of the lake's sections over batches whose columns have one type
each. An execution of `validate_and_merge` processes its batch where its merge takes effect;
the history records the call and the time its checks read. Whatever the order and the batches,
the event ids of Silver are those of the records that passed when they were processed.
-/

namespace Tikblog.Analytics

open Python Program

/-! ## Schedules -/

/-- Every column of the schema has its type here. -/
def Follows (types : Column → DataType) (schema : Schema) : Prop :=
  ∀ c t, schema.typeOf c = some t → types c = t

/-- A batch is type-compatible with Silver and with the other batches: it has the columns of
the event, and each of its columns has its one type. -/
def Compatible (types : Column → DataType) : Call → Prop
  | .validate batch _ _ => Follows types batch.schema ∧ ∀ f ∈ eventColumns, batch.schema.typeOf f.1 ≠ none
  | .refresh _ _ => True

/-- The records a call passes to `validate_and_merge`. -/
def Call.records : Call → List Row
  | validate batch _ _ => batch.rows
  | refresh _ _ => []

/-- The processed calls, each with the time of its checks. -/
abbrev Log := List (Call × Instant)

/-- A merge that takes effect is recorded. -/
inductive Merges (k : Call) : LakeOp → World → World → Log → Prop where
  | merged {frame s t} : Effect k.runId (.mergeSilver frame) s () t →
      Merges k (.mergeSilver frame) s t [(k, s.checkedAt)]
  | unmerged {frame s t} : ¬ Effect k.runId (.mergeSilver frame) s () t → Merges k (.mergeSilver frame) s t []
  | other {o s t} : (∀ frame, o ≠ .mergeSilver frame) → Merges k o s t []

theorem exists_merges (k : Call) (o : LakeOp) (s t : World) : ∃ notes, Merges k o s t notes := by
  by_cases merge : ∃ frame, o = .mergeSilver frame
  · obtain ⟨frame, rfl⟩ := merge
    by_cases took : Effect k.runId (.mergeSilver frame) s () t
    · exact ⟨_, .merged took⟩
    · exact ⟨_, .unmerged took⟩
  · exact ⟨_, .other fun frame same => merge ⟨frame, same⟩⟩

/-- The schedules. -/
def schedule (env : Env) (tick : Instant → Instant → Prop) (types : Column → DataType) :
    System Call LakeOp LakeOp.Answer PyException Unit (World × Log) :=
  (lake env tick (Compatible types)).recorded Merges

def World.eventIds (s : World) : List (Option Value) := s.silver.rows.map (· .eventId)

/-- The record was processed. -/
def Processed (log : Log) (row : Row) : Prop := ∃ p ∈ log, row ∈ p.1.records

/-- Some record with the event id satisfied all checks at a time it was processed. -/
def ValidIn (log : Log) (eventId : Option Value) : Prop :=
  ∃ p ∈ log, ∃ row ∈ p.1.records, Passes p.2 row ∧ row .eventId = eventId

theorem validIn_append {log more : Log} {eventId : Option Value} :
    ValidIn (log ++ more) eventId ↔ ValidIn log eventId ∨ ValidIn more eventId := by
  unfold ValidIn
  constructor
  · intro h
    obtain ⟨p, member, valid⟩ := h
    obtain old | new := List.mem_append.1 member
    · exact .inl ⟨p, old, valid⟩
    · exact .inr ⟨p, new, valid⟩
  · intro h
    obtain ⟨p, member, valid⟩ | ⟨p, member, valid⟩ := h
    · exact ⟨p, List.mem_append_left _ member, valid⟩
    · exact ⟨p, List.mem_append_right _ member, valid⟩

theorem validIn_singleton {k : Call} {now : Instant} {eventId : Option Value} :
    ValidIn [(k, now)] eventId ↔ ∃ row ∈ k.records, Passes now row ∧ row .eventId = eventId := by
  simp [ValidIn]

/-! ## Batches that fit -/

variable {types : Column → DataType}

theorem Follows.fits {target : Frame} {actual : Schema} (silver : Follows types target.schema)
    (batch : Follows types actual) (complete : ∀ f ∈ eventColumns, actual.typeOf f.1 ≠ none) :
    incompatible target.schema actual = [] := by
  apply incompatible_eq_nil_iff.2
  intro f member
  have typed : types f.1 = f.2 := silver f.1 f.2 ((Schema.mem_iff_typeOf target.unique).1 member)
  constructor
  · cases found : actual.typeOf f.1 with
    | none => exact .inl rfl
    | some t => exact .inr (congrArg some ((batch f.1 t found).symm.trans typed))
  · intro event
    obtain ⟨t, listed⟩ := Option.ne_none_iff_exists'.1 event
    exact complete (f.1, t) ((Schema.mem_iff_typeOf (by decide)).2 listed)

/-- A merge keeps the types. -/
theorem Follows.merged {target actual unique : Frame} {now processedAt : Instant}
    (own : Follows types silverColumns) (silver : Follows types target.schema)
    (batch : Follows types actual.schema) (schema : unique.schema = (validFrame now actual).schema) :
    Follows types (Frame.mergedSchema target.schema (preparedFrame unique processedAt).schema) := by
  intro c t found
  rw [Frame.typeOf_mergedSchema] at found
  cases held : target.schema.typeOf c with
  | some t' =>
    rw [held] at found
    exact silver c t (held.trans found)
  | none =>
    rw [held, Option.none_or, typeOf_prepared schema] at found
    split at found
    · rename_i processed
      exact own c t (processed ▸ found)
    split at found
    · cases found
    split at found
    · rename_i source
      exact own c t (source ▸ found)
    · exact batch c t found

/-- The ids of the prepared rows are those of the records that passed. -/
theorem mem_preparedIds {actual unique : Frame} {now processedAt : Instant}
    (distinct : Table.DistinctBy (· .eventId) (validFrame now actual).rows unique.rows)
    {eventId : Option Value} :
    eventId ∈ (preparedFrame unique processedAt).rows.map (· .eventId) ↔
      ∃ row ∈ actual.rows, Passes now row ∧ row .eventId = eventId := by
  have same : (preparedFrame unique processedAt).rows.map (· .eventId) = unique.rows.map (· .eventId) := by
    rw [rows_preparedFrame, List.map_map]
    exact List.map_congr_left fun row _ => processedRow_of_ne (by decide)
  rw [same]
  constructor
  · intro member
    obtain ⟨u, u_unique, rfl⟩ := List.mem_map.1 member
    obtain ⟨row, present, passes, rfl⟩ := mem_validFrame.1 (distinct.subset u_unique)
    exact ⟨row, present, passes, (validRow_of_ne (by decide) (by decide)).symm⟩
  · intro valid
    obtain ⟨row, present, passes, rfl⟩ := valid
    have covered := distinct.covers _ (mem_validFrame.2 ⟨row, present, passes, rfl⟩)
    rwa [validRow_of_ne (by decide) (by decide)] at covered

/-! ## One execution -/

/-- The ids of Silver are those of the records that passed. -/
structure Accounted (types : Column → DataType) (c : World × Log) : Prop where
  schema : Follows types c.1.silver.schema
  ids : ∀ eventId, eventId ∈ c.1.eventIds ↔ ValidIn c.2 eventId

section Execution

variable {k : Call} {α β : Type} {G I : World × Log → Prop} {Q : Except PyException α → World × Log → Prop}

/-- The operations of a call, with the history. -/
abbrev ScheduleExec (k : Call) : Exec LakeOp LakeOp.Answer (World × Log) :=
  Exec.recorded (LakeExec k.runId) (Merges k)

/-- One call, then the rest. -/
theorem always_recorded_call {o : LakeOp} {f : o.Result → LakeM α} {c : World × Log}
    (P : o.Result → World × Log → Prop) (fails : ∀ e d, G d → Q (.error e) d) (start : G c)
    (effect : ∀ a t notes, Effect k.runId o c.1 a t → Merges k o c.1 t notes → P a (t, c.2 ++ notes))
    (guard : ∀ a d, P a d → G d)
    (next : ∀ a d, P a d → Prog.Always (ScheduleExec k) (fun _ => G) Q (f a) d) :
    Prog.Always (ScheduleExec k) (fun _ => G) Q ((call o).bind f) c := by
  unfold call
  refine Prog.Always.bind (Prog.Always.bind (Prog.Always.perform start ?_))
  intro r d performed
  obtain ⟨t, log⟩ := d
  obtain ⟨performed, notes, noted, appended⟩ := performed
  dsimp only at performed noted appended
  subst appended
  cases performed with
  | answered took => exact next _ _ (effect _ _ _ took noted)
  | lost took => exact fails _ _ (guard _ _ (effect _ _ _ took noted))
  | raised =>
    cases noted with
    | merged took => exact fails _ _ (guard _ _ (effect _ _ _ took (.merged took)))
    | unmerged | other =>
      rw [List.append_nil]
      exact fails _ _ start

/-- What no reporting changes. -/
structure Still (c d : World × Log) : Prop where
  silver : d.1.silver = c.1.silver
  checkedAt : d.1.checkedAt = c.1.checkedAt
  log : d.2 = c.2

theorem Reporting.still {o : LakeOp} (reporting : Reporting o) {c d : World × Log} {a : o.Answer}
    (performed : ScheduleExec k o c a d) : Still c d := by
  obtain ⟨performed, notes, noted, appended⟩ := performed
  have quiet := performed.quiet reporting
  refine ⟨quiet.silver, quiet.checkedAt, ?_⟩
  cases noted with
  | merged | unmerged => cases reporting
  | other => rw [appended, List.append_nil]

/-- A part that only reports, then the rest. -/
theorem always_recorded_reporting {p : LakeM β} {f : β → LakeM α} {c : World × Log}
    (uses : p.Uses Reporting)
    (stable : ∀ c d, I c → Still c d → I d) (fails : ∀ e d, G d → Q (.error e) d) (start : I c)
    (guard : ∀ d, I d → G d) (next : ∀ b d, I d → Prog.Always (ScheduleExec k) (fun _ => G) Q (f b) d) :
    Prog.Always (ScheduleExec k) (fun _ => G) Q (p.bind f) c := by
  have kept : Prog.Always (ScheduleExec k) (fun _ => I) (fun _ => I) p c := by
    apply Prog.Always.of_uses _ (fun _ _ _ h => h) uses start
    intro o reporting c a d h performed
    exact stable c d h (reporting.still performed)
  apply Prog.Always.seq (kept.mono (fun _ d h => guard d h) fun _ _ h => h)
  intro r d h
  cases r with
  | error e => exact fails e d (guard d h)
  | ok b => exact next b d h

theorem always_recorded_require {schema : Schema} {columns : List Column} {f : Unit → LakeM α}
    {c : World × Log} (fails : ∀ e d, G d → Q (.error e) d) (start : G c)
    (next : Prog.Always (ScheduleExec k) (fun _ => G) Q (f ()) c) :
    Prog.Always (ScheduleExec k) (fun _ => G) Q ((requireColumns schema columns).bind f) c := by
  unfold requireColumns
  split
  · exact fails _ c start
  · exact next

end Execution

section Validate

variable {env : Env} {batch : Frame} {runId pipeline : String} {c₀ : World × Log}

/-- Nothing is merged yet. -/
structure Waiting (c₀ c : World × Log) : Prop where
  silver : c.1.silver = c₀.1.silver
  log : c.2 = c₀.2

/-- The checks have read the time `now`. -/
structure Checking (c₀ : World × Log) (now : Instant) (c : World × Log) : Prop extends Waiting c₀ c where
  checkedAt : c.1.checkedAt = now

/-- The call has been processed, with the checks at `now`. -/
structure ProcessedAt (types : Column → DataType) (c₀ : World × Log) (k : Call) (now : Instant)
    (c : World × Log) : Prop where
  accounted : Accounted types c
  log : c.2 = c₀.2 ++ [(k, now)]
  checkedAt : c.1.checkedAt = now

theorem Waiting.accounted {c : World × Log} (h : Waiting c₀ c) (accounted : Accounted types c₀) :
    Accounted types c where
  schema := h.silver ▸ accounted.schema
  ids eventId := by
    unfold World.eventIds
    rw [h.silver, h.log]
    exact accounted.ids eventId

theorem Checking.still {now : Instant} {c d : World × Log} (h : Checking c₀ now c) (still : Still c d) :
    Checking c₀ now d where
  silver := still.silver.trans h.silver
  log := still.log.trans h.log
  checkedAt := still.checkedAt.trans h.checkedAt

theorem ProcessedAt.still {k : Call} {now : Instant} {c d : World × Log} (h : ProcessedAt types c₀ k now c)
    (still : Still c d) : ProcessedAt types c₀ k now d where
  accounted := Waiting.accounted ⟨still.silver, still.log⟩ h.accounted
  log := still.log.trans h.log
  checkedAt := still.checkedAt.trans h.checkedAt

/-- How an execution ends. -/
abbrev Executed (types : Column → DataType) (c₀ : World × Log) (k : Call) (r : Except PyException Unit)
    (c : World × Log) : Prop :=
  Accounted types c ∧ (r = .ok () → k.records = [] ∧ c.2 = c₀.2 ∨ ProcessedAt types c₀ k c.1.checkedAt c)

theorem executed_failed {k : Call} (e : PyException) (c : World × Log) (h : Accounted types c) :
    Executed types c₀ k (.error e) c :=
  ⟨h, fun returned => by cases returned⟩

/-- The merge accounts for the records that passed. -/
theorem Checking.merge {k : Call} {now processedAt : Instant} {unique : Frame} {c : World × Log} {t : World}
    {notes : Log} (own : Follows types silverColumns) (accounted : Accounted types c₀)
    (follows : Follows types batch.schema) (records : k.records = batch.rows) (h : Checking c₀ now c)
    (schema : unique.schema = (validFrame now batch).schema)
    (distinct : Table.DistinctBy (· .eventId) (validFrame now batch).rows unique.rows)
    (took : Effect k.runId (.mergeSilver (preparedFrame unique processedAt)) c.1 () t)
    (noted : Merges k (.mergeSilver (preparedFrame unique processedAt)) c.1 t notes) :
    ProcessedAt types c₀ k now (t, c.2 ++ notes) := by
  have log : notes = [(k, now)] := by
    cases noted with
    | merged => rw [h.checkedAt]
    | unmerged absent => exact absurd took absent
    | other no_merge => exact absurd rfl (no_merge _)
  subst log
  cases took with
  | mergeSilver mergeable =>
    refine ⟨⟨?_, ?_⟩, ?_, h.checkedAt⟩
    · exact own.merged (h.silver ▸ accounted.schema) follows schema
    · intro eventId
      show eventId ∈ (Table.insertNew (· .eventId) c.1.silver.rows _).map (· .eventId) ↔ _
      rw [Table.mem_keys_insertNew, mem_preparedIds distinct, validIn_append, validIn_singleton, records]
      exact or_congr ((h.toWaiting.accounted accounted).ids eventId) Iff.rfl
    · rw [h.log]

theorem always_mergeAccepted {now : Instant} {c : World × Log} (own : Follows types silverColumns)
    (accounted : Accounted types c₀) (follows : Follows types batch.schema) (h : Checking c₀ now c) :
    Prog.Always (ScheduleExec (.validate batch runId pipeline)) (fun _ => Accounted types)
      (Executed types c₀ (.validate batch runId pipeline))
      (mergeAccepted env (validFrame now batch) runId pipeline) c := by
  have waiting (d : World × Log) (h : Checking c₀ now d) : Accounted types d :=
    h.toWaiting.accounted accounted
  unfold mergeAccepted
  apply always_recorded_call (P := fun (unique : Frame) d => Checking c₀ now d ∧
    unique.schema = (validFrame now batch).schema ∧
    Table.DistinctBy (· .eventId) (validFrame now batch).rows unique.rows) executed_failed (waiting c h)
  · intro unique t notes took noted
    cases noted
    rw [List.append_nil]
    cases took with
    | dropDuplicates schema distinct => exact ⟨h, schema, distinct⟩
  · exact fun _ d hd => waiting d hd.1
  rintro unique c ⟨h, schema, distinct⟩
  apply always_recorded_call (P := fun _ d => Checking c₀ now d) executed_failed (waiting c h)
  · intro processedAt t notes took noted
    cases noted
    rw [List.append_nil]
    cases took
    exact ⟨⟨h.silver, h.log⟩, h.checkedAt⟩
  · exact fun _ d hd => waiting d hd
  intro processedAt c h
  apply always_recorded_call (P := fun _ d => ProcessedAt types c₀ (.validate batch runId pipeline) now d)
    executed_failed (waiting c h)
  · intro _ t notes took noted
    exact h.merge own accounted follows rfl schema distinct took noted
  · exact fun _ d hd => hd.accounted
  intro _ c h
  apply always_recorded_require executed_failed h.accounted
  apply always_recorded_reporting (uses_timing (yields_latencyMetrics ..)) (fun _ _ => ProcessedAt.still) executed_failed h
    fun _ hd => hd.accounted
  intro metrics c h
  have kept : Prog.Always (ScheduleExec (.validate batch runId pipeline))
      (fun _ => ProcessedAt types c₀ (.validate batch runId pipeline) now)
      (fun _ => ProcessedAt types c₀ (.validate batch runId pipeline) now) (writeMetrics env metrics) c := by
    apply Prog.Always.of_uses _ (fun _ _ _ h => h) (uses_writeMetrics ..) h
    exact fun o reporting c a d h performed => h.still (reporting.still performed)
  apply kept.mono (fun _ _ hd => hd.accounted)
  intro r d hd
  refine ⟨hd.accounted, fun _ => .inr ?_⟩
  rw [hd.checkedAt]
  exact hd

theorem always_acceptValid {now : Instant} {results : List DqReport} {c : World × Log}
    (own : Follows types silverColumns) (accounted : Accounted types c₀)
    (follows : Follows types batch.schema)
    (h : Checking c₀ now c) :
    Prog.Always (ScheduleExec (.validate batch runId pipeline)) (fun _ => Accounted types)
      (Executed types c₀ (.validate batch runId pipeline))
      (acceptValid env (validFrame now batch) results runId pipeline) c := by
  have waiting (d : World × Log) (h : Checking c₀ now d) : Accounted types d :=
    h.toWaiting.accounted accounted
  unfold acceptValid
  apply always_recorded_reporting (uses_timing (yields_duplicateResults ..)) (fun _ _ => Checking.still) executed_failed h waiting
  intro inBatch c h
  apply always_recorded_call (P := fun _ d => Checking c₀ now d) executed_failed (waiting c h)
  · intro existing t notes took noted
    cases noted
    rw [List.append_nil]
    cases took
    exact h
  · exact fun _ d hd => waiting d hd
  intro existing c h
  apply always_recorded_call (P := fun _ d => Checking c₀ now d) executed_failed (waiting c h)
  · intro unique t notes took noted
    cases noted
    rw [List.append_nil]
    cases took
    exact h
  · exact fun _ d hd => waiting d hd
  intro unique c h
  apply always_recorded_reporting (uses_timing (yields_duplicateResults ..)) (fun _ _ => Checking.still) executed_failed h waiting
  intro inSilver c h
  apply always_recorded_reporting (uses_writeDq ..) (fun _ _ => Checking.still) executed_failed h waiting
  intro _ c h
  exact always_mergeAccepted own accounted follows h

theorem always_validateAndMerge (own : Follows types silverColumns)
    (compatible : Compatible types (.validate batch runId pipeline)) (accounted : Accounted types c₀) :
    Prog.Always (ScheduleExec (.validate batch runId pipeline)) (fun _ => Accounted types)
      (Executed types c₀ (.validate batch runId pipeline)) (validateAndMerge env batch runId pipeline)
      c₀ := by
  obtain ⟨follows, complete⟩ := compatible
  have fits : conform env c₀.1.silver.schema batch = batch := by
    unfold conform
    rw [if_pos (accounted.schema.fits follows complete)]
  have begun : Waiting c₀ c₀ := ⟨rfl, rfl⟩
  unfold validateAndMerge
  split
  · rename_i empty
    exact ⟨accounted, fun _ => .inl ⟨List.isEmpty_iff.1 empty, rfl⟩⟩
  unfold validateBatch
  apply always_recorded_call (P := fun (silver : Frame) d => silver = c₀.1.silver ∧ Waiting c₀ d)
    executed_failed accounted
  · intro silver t notes took noted
    cases noted
    rw [List.append_nil]
    cases took
    exact ⟨rfl, begun⟩
  · exact fun _ d hd => hd.2.accounted accounted
  rintro _ c ⟨rfl, h⟩
  dsimp only
  rw [fits]
  apply always_recorded_require executed_failed (h.accounted accounted)
  apply always_recorded_call (P := fun (now : Instant) d => Checking c₀ now d) executed_failed
    (h.accounted accounted)
  · intro now t notes took noted
    cases noted
    rw [List.append_nil]
    cases took
    exact ⟨⟨h.silver, h.log⟩, rfl⟩
  · exact fun _ d hd => hd.toWaiting.accounted accounted
  intro now c h
  apply always_recorded_reporting (uses_timing (yields_checkResults ..)) (fun _ _ => Checking.still) executed_failed h
    fun _ hd => hd.toWaiting.accounted accounted
  intro results c h
  apply always_recorded_require executed_failed (h.toWaiting.accounted accounted)
  apply always_recorded_call (P := fun _ d => Checking c₀ now d) executed_failed (h.toWaiting.accounted accounted)
  · intro quarantinedAt t notes took noted
    cases noted
    rw [List.append_nil]
    cases took
    exact ⟨⟨h.silver, h.log⟩, h.checkedAt⟩
  · exact fun _ d hd => hd.toWaiting.accounted accounted
  intro quarantinedAt c h
  apply always_recorded_call (P := fun _ d => Checking c₀ now d) executed_failed (h.toWaiting.accounted accounted)
  · intro _ t notes took noted
    cases noted
    rw [List.append_nil]
    cases took
    exact ⟨⟨h.silver, h.log⟩, h.checkedAt⟩
  · exact fun _ d hd => hd.toWaiting.accounted accounted
  intro _ c h
  exact always_acceptValid own accounted follows h

end Validate

/-! ## Every section -/

section Refresh

variable {env : Env} {dates : List Date} {runId : String} {c : World × Log}

/-- The calls of a refresh. -/
inductive RefreshOp : LakeOp → Prop where
  | reporting {o} : Reporting o → RefreshOp o
  | readSilver : RefreshOp .readSilver
  | readGold : RefreshOp .readGold
  | currentTimestamp {purpose} : RefreshOp (.currentTimestamp purpose)
  | overwriteGold {dates rows} : RefreshOp (.overwriteGold dates rows)

theorem uses_refresh (env : Env) (dates : List Date) (runId : String) :
    (refresh env dates runId).Uses RefreshOp :=
  uses_refresh_of env runId (fun _ => .reporting) .readSilver .currentTimestamp (fun _ _ => .overwriteGold) .readGold

/-- A refresh leaves Silver and the history alone. -/
theorem RefreshOp.waiting {k : Call} {c₀ d : World × Log} {o : LakeOp} {a : o.Answer}
    (refreshing : RefreshOp o)
    (h : Waiting c₀ c) (performed : ScheduleExec k o c a d) : Waiting c₀ d := by
  obtain ⟨s, log⟩ := c
  obtain ⟨t, log'⟩ := d
  obtain ⟨performed, notes, noted, appended⟩ := performed
  dsimp only at performed noted appended
  have silver : t.silver = s.silver := by
    cases refreshing with
    | reporting reporting => exact (performed.quiet reporting).silver
    | readSilver | readGold | currentTimestamp | overwriteGold =>
      cases performed with
      | raised => rfl
      | answered took | lost took => cases took; rfl
  have same : log' = log := by
    cases noted with
    | merged | unmerged =>
      cases refreshing with
      | reporting reporting => cases reporting
    | other => rw [appended, List.append_nil]
  exact ⟨silver.trans h.silver, same.trans h.log⟩

theorem always_refresh (k : Call) :
    Prog.Always (ScheduleExec k) (fun _ => Waiting c) (fun _ => Waiting c) (refresh env dates runId) c :=
  Prog.Always.of_uses (fun _ refreshing _ _ _ h performed => refreshing.waiting h performed) (fun _ _ _ h => h)
    (uses_refresh env dates runId) ⟨rfl, rfl⟩

end Refresh

variable {env : Env} {tick : Instant → Instant → Prop}

/-- **One section of a schedule.** -/
theorem always_section {k : Call} {c : World × Log} (own : Follows types silverColumns)
    (compatible : Compatible types k) (accounted : Accounted types c) :
    Prog.Always (ScheduleExec k) (fun _ => Accounted types) (Executed types c k)
      ((schedule env tick types).program k) c := by
  cases k with
  | validate batch runId pipeline => exact always_validateAndMerge own compatible accounted
  | refresh dates runId =>
    have waiting : Prog.Always (ScheduleExec (.refresh dates runId)) (fun _ => Waiting c) (fun _ => Waiting c)
        (refresh env dates runId) c := always_refresh _
    apply waiting.mono fun _ _ h => Waiting.accounted h accounted
    exact fun _ _ h => ⟨h.accounted accounted, fun _ => .inl ⟨rfl, h.log⟩⟩

theorem accounted_begin {k : Call} {c c₀ : World × Log} (accounted : Accounted types c)
    (begins : (schedule env tick types).begins k c c₀) : Compatible types k ∧ c₀.2 = c.2 ∧ Accounted types c₀ := by
  obtain ⟨s₀, log⟩ := c₀
  obtain ⟨⟨compatible, begin, -, rfl⟩, rfl⟩ := begins
  have waiting : Waiting c (c.1.at begin, c.2) := ⟨rfl, rfl⟩
  exact ⟨compatible, rfl, waiting.accounted accounted⟩

theorem accounted_of_reachable {c : World × Log} (own : Follows types silverColumns)
    (h : (schedule env tick types).Reachable c) : Accounted types c := by
  apply h.invariant
  · intro c start
    obtain ⟨s, log⟩ := c
    obtain ⟨⟨begin, rfl⟩, rfl⟩ := start
    refine ⟨own, ?_⟩
    simp [World.eventIds, World.bootstrap, ValidIn]
  · intro k c c₀ accounted begins
    obtain ⟨compatible, -, accounted⟩ := accounted_begin accounted begins
    exact (always_section own compatible accounted).mono (fun _ _ h => h) fun _ _ h => h.1

/-- An execution that returns has processed its records. -/
theorem processed_of_returned {k : Call} {c d : World × Log} (own : Follows types silverColumns)
    (accounted : Accounted types c) (session : (schedule env tick types).Session k c (.done (.ok ())) d) :
    Accounted types d ∧ (k.records = [] ∧ d.2 = c.2 ∨ ∃ now, d.2 = c.2 ++ [(k, now)]) := by
  obtain ⟨c₀, begins, run⟩ := session
  obtain ⟨compatible, log, start⟩ := accounted_begin accounted begins
  obtain ⟨after, returned⟩ := (always_section own compatible start).post_of_run run
  refine ⟨after, ?_⟩
  rw [← log]
  exact (returned rfl).imp_right fun processed => ⟨_, processed.log⟩

/-! ## Two schedules -/

/-- No record passes from future to past between two of these times. -/
def NoneComesDue (log : Log) : Prop :=
  ∀ row, Processed log row → ∀ requestedAt, row .requestedAt = some (.timestamp requestedAt) →
    ∀ p ∈ log, ∀ p' ∈ log, requestedAt ≤ p.2 → requestedAt ≤ p'.2

theorem ValidIn.transfer {log log' : Log} (same : ∀ row, Processed log row → Processed log' row)
    (steady : NoneComesDue (log ++ log')) {eventId : Option Value} (valid : ValidIn log eventId) :
    ValidIn log' eventId := by
  obtain ⟨p, p_log, row, present, passes, is_id⟩ := valid
  obtain ⟨p', p'_log, present'⟩ := same row ⟨p, p_log, present⟩
  refine ⟨p', p'_log, row, present', passes.at ?_, is_id⟩
  intro requestedAt value past
  exact steady row ⟨p, List.mem_append_left _ p_log, present⟩ requestedAt value p
    (List.mem_append_left _ p_log) p' (List.mem_append_right _ p'_log) past

theorem NoneComesDue.symm {log log' : Log} (steady : NoneComesDue (log ++ log')) :
    NoneComesDue (log' ++ log) := by
  have swap {p : Call × Instant} (member : p ∈ log' ++ log) : p ∈ log ++ log' :=
    List.mem_append.2 (List.mem_append.1 member).symm
  intro row processed requestedAt value p member p' member'
  obtain ⟨q, q_log, present⟩ := processed
  exact steady row ⟨q, swap q_log, present⟩ requestedAt value p (swap member) p' (swap member')

/-! ## Backfills -/

inductive Channel where
  | priority
  | legal
  deriving DecidableEq, Repr

def Channel.name : Channel → String
  | priority => "priority"
  | legal => "legal"

/-- `F.col("event_date").between(start, end)`. -/
def inRange (start stop : Date) (row : Row) : Bool :=
  (row.date .eventDate).any fun d => start ≤ d ∧ d ≤ stop

/-- `validate_and_merge` of a channel, as `backfill` calls it. -/
def backfillCall (bronze : Channel → Frame) (start stop : Date) (runId : String)
    (channel : Channel) : Call :=
  .validate ((bronze channel).filter (inRange start stop)) (runId ++ ":" ++ channel.name) "backfill_silver"

/-- The calls of `backfill`; `bronze` are the tables it reads, and `dates` those it finds in
Silver and Gold. -/
def backfill (layer : String) (bronze : Channel → Frame) (start stop : Date) (runId : String)
    (dates : List Date) : Except PyException (List Call) :=
  if start > stop then .error (.valueError "from_date must not exceed to_date")
  else
    let events :=
      if layer = "silver" then [.priority, .legal].map (backfillCall bronze start stop runId) else []
    .ok (events ++ [.refresh dates runId])

/-- The record has been processed, was valid at none of those times, and is now. -/
structure BecameValid (log : Log) (now : Instant) (row : Row) : Prop where
  processed : Processed log row
  before : ∀ p ∈ log, row ∈ p.1.records → ¬ Passes p.2 row
  passes : Passes now row

/-- An execution that returns adds what its records that pass name. -/
theorem exists_checkedAt {k : Call} {c d : World × Log} (own : Follows types silverColumns)
    (accounted : Accounted types c) (session : (schedule env tick types).Session k c (.done (.ok ())) d) :
    Accounted types d ∧ ∃ now more, d.2 = c.2 ++ more ∧ (k.records ≠ [] → (k, now) ∈ more) ∧
      ∀ eventId, ValidIn more eventId ↔ ∃ row ∈ k.records, Passes now row ∧ row .eventId = eventId := by
  obtain ⟨after, empty, same⟩ | ⟨after, now, log⟩ :=
    and_or_left.1 (processed_of_returned own accounted session)
  · refine ⟨after, 0, [], by rw [same, List.append_nil], fun nonempty => absurd empty nonempty, ?_⟩
    simp [ValidIn, empty]
  · exact ⟨after, now, [(k, now)], log, fun _ => List.mem_singleton_self _, fun _ => validIn_singleton⟩

theorem mem_backfillCall {bronze : Channel → Frame} {start stop : Date} {runId : String} {channel : Channel}
    {row : Row} : row ∈ (backfillCall bronze start stop runId channel).records ↔
      row ∈ (bronze channel).rows ∧ inRange start stop row = true :=
  List.mem_filter

/-- A record that passes was valid at a time it was processed, or has become so. -/
theorem valid_or_becameValid {log : Log} {rows : List Row} (streamed : ∀ row ∈ rows, Processed log row)
    {now : Instant} {eventId : Option Value}
    (valid : ∃ row ∈ rows, Passes now row ∧ row .eventId = eventId) :
    ValidIn log eventId ∨ ∃ row ∈ rows, BecameValid log now row ∧ row .eventId = eventId := by
  obtain ⟨row, present, passes, is_id⟩ := valid
  by_cases was : ∃ p ∈ log, row ∈ p.1.records ∧ Passes p.2 row
  · obtain ⟨p, member, records, passed⟩ := was
    exact .inl ⟨p, member, row, records, passed, is_id⟩
  · have never : ∀ p ∈ log, row ∈ p.1.records → ¬ Passes p.2 row :=
      fun p member records passed => was ⟨p, member, records, passed⟩
    exact .inr ⟨row, present, ⟨streamed row present, never, passes⟩, is_id⟩

/-- **What a backfill adds.** -/
theorem eventIds_backfill {bronze : Channel → Frame} {start stop : Date} {runId : String}
    {dates : List Date}
    {calls : List Call} {c d : World × Log} (own : Follows types silverColumns)
    (accounted : Accounted types c)
    (made : backfill "silver" bronze start stop runId dates = .ok calls)
    (returned : (schedule env tick types).Returned calls c d)
    (streamed : ∀ channel, ∀ row ∈ (bronze channel).rows, inRange start stop row = true → Processed c.2 row) :
    ∃ checkedAt : Channel → Instant,
      (∀ channel, (backfillCall bronze start stop runId channel).records ≠ [] →
        (backfillCall bronze start stop runId channel, checkedAt channel) ∈ d.2) ∧
      ∀ eventId, eventId ∈ d.1.eventIds ↔ eventId ∈ c.1.eventIds ∨ ∃ channel,
        ∃ row ∈ (backfillCall bronze start stop runId channel).records,
          BecameValid c.2 (checkedAt channel) row ∧ row .eventId = eventId := by
  unfold backfill at made
  split at made
  · cases made
  cases made
  cases returned with
  | cons first returned =>
  cases returned with
  | cons second returned =>
  cases returned with
  | cons third returned =>
  cases returned
  obtain ⟨accounted₁, priorityAt, more₁, log₁, entry₁, valid₁⟩ := exists_checkedAt own accounted first
  obtain ⟨accounted₂, legalAt, more₂, log₂, entry₂, valid₂⟩ := exists_checkedAt own accounted₁ second
  obtain ⟨accounted₃, _, more₃, log₃, _, valid₃⟩ := exists_checkedAt own accounted₂ third
  have log : d.2 = c.2 ++ more₁ ++ more₂ ++ more₃ := by rw [log₃, log₂, log₁]
  have processed (channel : Channel) :
      ∀ row ∈ (backfillCall bronze start stop runId channel).records, Processed c.2 row := by
    intro row member
    obtain ⟨present, dated⟩ := mem_backfillCall.1 member
    exact streamed channel row present dated
  refine ⟨fun channel => match channel with | .priority => priorityAt | .legal => legalAt, ?_, ?_⟩
  · intro channel nonempty
    rw [log]
    cases channel with
    | priority => exact List.mem_append_left _ (List.mem_append_left _ (List.mem_append_right _ (entry₁ nonempty)))
    | legal => exact List.mem_append_left _ (List.mem_append_right _ (entry₂ nonempty))
  · intro eventId
    rw [accounted₃.ids, accounted.ids, log, validIn_append, validIn_append, validIn_append, valid₁, valid₂, valid₃]
    constructor
    · intro h
      obtain ((before | priority) | legal) | ⟨_, none, _⟩ := h
      · exact .inl before
      · exact (valid_or_becameValid (processed .priority) priority).imp_right fun became => ⟨.priority, became⟩
      · exact (valid_or_becameValid (processed .legal) legal).imp_right fun became => ⟨.legal, became⟩
      · cases none
    · intro h
      obtain before | ⟨channel, row, member, became, is_id⟩ := h
      · exact .inl (.inl (.inl before))
      cases channel with
      | priority => exact .inl (.inl (.inr ⟨row, member, became.passes, is_id⟩))
      | legal => exact .inl (.inr ⟨row, member, became.passes, is_id⟩)

/-- **Silver does not depend on batching.** In every state of every schedule over
type-compatible batches, with any order, repetition and stops: an execution that returns has
processed its records; the event ids of Silver are those with a record that passed every check
at a time it was processed; two schedules of the same records, none of which comes due, have
the same event ids; and a backfill of a date range whose records have been processed adds the
event ids of those that have become valid. -/
theorem silver_independent_of_batching (env : Env) (tick : Instant → Instant → Prop)
    (types : Column → DataType)
    (own : Follows types silverColumns) (s : World) (log : Log)
    (h : (schedule env tick types).Reachable (s, log)) :
    (∀ k t log', (schedule env tick types).Session k (s, log) (.done (.ok ())) (t, log') →
      k.records = [] ∧ log' = log ∨ ∃ now, log' = log ++ [(k, now)]) ∧
    (∀ eventId, eventId ∈ s.eventIds ↔ ValidIn log eventId) ∧
    (∀ s' log', (schedule env tick types).Reachable (s', log') →
      (∀ row, Processed log row ↔ Processed log' row) → NoneComesDue (log ++ log') →
      ∀ eventId, eventId ∈ s.eventIds ↔ eventId ∈ s'.eventIds) ∧
    ∀ bronze start stop runId dates calls t log',
      backfill "silver" bronze start stop runId dates = .ok calls →
      (schedule env tick types).Returned calls (s, log) (t, log') →
      (∀ channel, ∀ row ∈ (bronze channel).rows, inRange start stop row = true → Processed log row) →
      ∃ checkedAt : Channel → Instant,
        (∀ channel, (backfillCall bronze start stop runId channel).records ≠ [] →
          (backfillCall bronze start stop runId channel, checkedAt channel) ∈ log') ∧
        ∀ eventId, eventId ∈ t.eventIds ↔ eventId ∈ s.eventIds ∨ ∃ channel,
          ∃ row ∈ (backfillCall bronze start stop runId channel).records,
            BecameValid log (checkedAt channel) row ∧ row .eventId = eventId := by
  have accounted := accounted_of_reachable own h
  refine ⟨?_, accounted.ids, ?_, ?_⟩
  · intro k t log' session
    exact (processed_of_returned own accounted session).2
  · intro s' log' h' same steady eventId
    have accounted' := accounted_of_reachable own h'
    rw [accounted.ids, accounted'.ids]
    constructor
    · exact fun valid => valid.transfer (fun row => (same row).1) steady
    · exact fun valid => valid.transfer (fun row => (same row).2) steady.symm
  · intro bronze start stop runId dates calls t log' made returned streamed
    exact eventIds_backfill own accounted made returned streamed

/-! ## A record that comes due -/

/-- The types of Silver. -/
def demoTypes (c : Column) : DataType := (silverColumns.typeOf c).getD .string

theorem follows_of_unique {schema : Schema} (unique : schema.columns.Nodup)
    (each : ∀ f ∈ schema, types f.1 = f.2) :
    Follows types schema :=
  fun c t found => each (c, t) ((Schema.mem_iff_typeOf unique).2 found)

/-- Bronze with the record of the demo, and nothing from Legal. -/
def demoBronze : Channel → Frame
  | .priority => demoBatch
  | .legal => demoBatch.filter fun _ => false

theorem demoCall_compatible : Compatible demoTypes demoCall :=
  ⟨follows_of_unique (by decide) (by decide), by decide⟩

theorem demoBackfill_compatible (channel : Channel) :
    Compatible demoTypes (backfillCall demoBronze 0 0 "backfill" channel) := by
  cases channel with
  | priority => exact demoCall_compatible
  | legal => exact demoCall_compatible

/-- The record is streamed at 5, ahead of its date. -/
def demoStreamed : World := (World.bootstrap 0).played demoEnv demoCall 5

/-- The backfill runs at 20. -/
def demoReplayed : World := demoStreamed.played demoEnv
    (backfillCall demoBronze 0 0 "backfill" .priority) 20

def demoBackfilled : World := demoReplayed.played demoEnv (backfillCall demoBronze 0 0 "backfill" .legal) 20

def demoRefreshed : World := demoBackfilled.played demoEnv (.refresh [0] "backfill") 20

theorem silver_independent_of_batching_backfill :
    ∃ log checkedAt row, (schedule demoEnv (· ≤ ·) demoTypes).Reachable (demoStreamed, log) ∧
      BecameValid log checkedAt row ∧ row .eventId = some (.string "event-1") := by
  have own : Follows demoTypes silverColumns := follows_of_unique (by decide) (by decide)
  have start : (schedule demoEnv (· ≤ ·) demoTypes).Reachable (World.bootstrap 0, []) :=
    .init ⟨⟨0, rfl⟩, rfl⟩
  have streamed : (lake demoEnv (· ≤ ·) (Compatible demoTypes)).Session demoCall (.bootstrap 0)
      (.done (.ok ())) demoStreamed := session_returned demoCall_compatible (by decide) (by decide +kernel)
  obtain ⟨log, streamed⟩ := streamed.recorded exists_merges []
  have reached := start.session streamed
  obtain ⟨nothing, -⟩ | ⟨now, processed⟩ :=
    (silver_independent_of_batching demoEnv (· ≤ ·) demoTypes own _ _ start).1 demoCall _ _ streamed
  · cases nothing
  have replayed : (lake demoEnv (· ≤ ·) (Compatible demoTypes)).Session
      (backfillCall demoBronze 0 0 "backfill" .priority) demoStreamed (.done (.ok ())) demoReplayed :=
    session_returned (demoBackfill_compatible .priority) (by decide +kernel) (by decide +kernel)
  have backfilled : (lake demoEnv (· ≤ ·) (Compatible demoTypes)).Session
      (backfillCall demoBronze 0 0 "backfill" .legal) demoReplayed (.done (.ok ())) demoBackfilled :=
    session_returned (demoBackfill_compatible .legal) (by decide +kernel) (by decide +kernel)
  have refreshed : (lake demoEnv (· ≤ ·) (Compatible demoTypes)).Session (.refresh [0] "backfill")
      demoBackfilled (.done (.ok ())) demoRefreshed :=
    session_returned trivial (by decide +kernel) (by decide +kernel)
  obtain ⟨log₁, replayed⟩ := replayed.recorded exists_merges log
  obtain ⟨log₂, backfilled⟩ := backfilled.recorded exists_merges log₁
  obtain ⟨log₃, refreshed⟩ := refreshed.recorded exists_merges log₂
  have returned := System.Returned.cons replayed (.cons backfilled (.cons refreshed .nil))
  have all_streamed : ∀ channel, ∀ row ∈ (demoBronze channel).rows, inRange 0 0 row = true → Processed log row := by
    intro channel row present _
    cases channel with
    | priority => exact ⟨(demoCall, now), processed ▸ List.mem_singleton_self _, present⟩
    | legal => cases present
  obtain ⟨checkedAt, -, ids⟩ :=
    (silver_independent_of_batching demoEnv (· ≤ ·) demoTypes own _ _ reached).2.2.2
    demoBronze 0 0 "backfill" [0] _ demoRefreshed log₃ rfl returned all_streamed
  obtain before | ⟨channel, row, -, became, is_id⟩ := (ids (some (.string "event-1"))).1 (by decide +kernel)
  · exact absurd before (by decide +kernel)
  · exact ⟨log, checkedAt channel, row, reached, became, is_id⟩

end Tikblog.Analytics
