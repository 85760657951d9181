import Tikblog.Analytics.Maintenance
import Tikblog.Analytics.Recomputation

/-!
# A backfill rebuilds its range

What a critical section does from any tables, and not only from those that earlier sections
have filled: a batch of the range adds one row for each new event id that is valid (`Added`),
and changes Silver no more when it is merged again (`Validates.unchanged`). The dates that a
backfill refreshes are all those of the range at which Silver or Gold has a row, so that Gold
and Silver agree on every other date of the range as well: both have nothing there.
-/

namespace Tikblog.Analytics

open Python Program Table

/-! ## A batch of the range -/

/-- The columns that a merge of the batch brings to Silver. -/
def mergedColumns (batch : Frame) : Schema := (preparedFrame (validFrame 0 batch) 0).schema

/-- A batch without rows is not merged. -/
def Call.columns : Call → Schema
  | validate batch _ _ => if batch.rows.isEmpty then [] else mergedColumns batch
  | refresh _ _ => []

/-- What validated batches of a range have done to the tables: they added to Silver one row for
each event id that it did not have and that is valid in the history. -/
structure Added (types : Column → DataType) (start stop : Date) (s : World) (log : Log) (t : World) :
    Prop where
  follows : Follows types t.silver.schema
  gold : t.gold = s.gold
  grown : s.silver.schema <+: t.silver.schema
  columns : ∀ p ∈ log, ∀ f ∈ p.1.columns, t.silver.schema.typeOf f.1 ≠ none
  rows : ∃ new, t.silver.rows = s.silver.rows ++ new ∧ (new.map (· .eventId)).Nodup ∧
    (∀ row ∈ new, inRange start stop row = true) ∧
    ∀ eventId, eventId ∈ new.map (· .eventId) ↔ eventId ∉ s.eventIds ∧ ValidIn log eventId

section Batch

variable {types : Column → DataType} {env : Env} {batch : Frame} {runId pipeline : String} {start stop : Date}
  {s₀ s t u : World}

theorem typeOf_grown {schema schema' : Schema} (grown : schema <+: schema') {c : Column}
    (held : schema.typeOf c ≠ none) : schema'.typeOf c ≠ none := by
  obtain ⟨more, rfl⟩ := grown
  obtain ⟨t, found⟩ := Option.ne_none_iff_exists'.1 held
  rw [Schema.typeOf_append, found]
  exact Option.some_ne_none t

theorem Added.trans {log more : Log} (h : Added types start stop s log t)
    (h' : Added types start stop t more u) : Added types start stop s (log ++ more) u := by
  obtain ⟨new, rows, unique, dated, ids⟩ := h.rows
  obtain ⟨new', rows', unique', dated', ids'⟩ := h'.rows
  have held : t.eventIds = s.eventIds ++ new.map (· .eventId) := by
    unfold World.eventIds
    rw [rows, List.map_append]
  refine ⟨h'.follows, h'.gold.trans h.gold, h.grown.trans h'.grown, ?_, new ++ new', ?_, ?_, ?_, ?_⟩
  · intro p member f brought
    obtain earlier | later := List.mem_append.1 member
    · exact typeOf_grown h'.grown (h.columns p earlier f brought)
    · exact h'.columns p later f brought
  · rw [rows', rows, List.append_assoc]
  · rw [List.map_append]
    refine List.nodup_append'.2 ⟨unique, unique', ?_⟩
    intro eventId added added'
    have absent := ((ids' eventId).1 added').1
    rw [held] at absent
    exact absent (List.mem_append_right _ added)
  · intro row member
    obtain added | added := List.mem_append.1 member
    · exact dated row added
    · exact dated' row added
  · intro eventId
    rw [List.map_append, List.mem_append, ids, ids', held, validIn_append, List.mem_append, ids]
    tauto

theorem Added.nil (follows : Follows types s.silver.schema) : Added types start stop s [] s where
  follows := follows
  gold := rfl
  grown := List.prefix_rfl
  columns p member := by cases member
  rows := by
    refine ⟨[], (List.append_nil _).symm, List.nodup_nil, List.forall_mem_nil _, ?_⟩
    simp [ValidIn]

theorem typeOf_mergedColumn {target source : Schema} {f : Column × DataType} (member : f ∈ source) :
    (Frame.mergedSchema target source).typeOf f.1 ≠ none := by
  rw [Ne, Schema.typeOf_eq_none_iff, Frame.mergedSchema, Schema.columns_append, List.mem_append, not_or]
  rintro ⟨absent, missing⟩
  apply missing
  exact Schema.mem_columns (List.mem_filter.2 ⟨member, decide_eq_true (Schema.typeOf_eq_none_iff.2 absent)⟩)

theorem Merged.schema_batch {now quarantinedAt processedAt : Instant} {unique : Frame}
    (h : Merged env batch runId pipeline s₀ now quarantinedAt processedAt unique s)
    (fits : incompatible s₀.silver.schema batch.schema = []) :
    s.silver.schema = Frame.mergedSchema s₀.silver.schema (mergedColumns batch) := by
  have schema := h.schema
  rw [conformed_of_fits fits] at schema
  rw [h.schema_eq]
  show Frame.mergedSchema _ (unique.schema.set .silverProcessedAt .timestamp) = _
  rw [schema]
  rfl

/-- The merged rows of a batch of the range are in the range: `event_date` is a Bronze column. -/
theorem Merged.inRange {now quarantinedAt processedAt : Instant} {unique : Frame}
    (h : Merged env batch runId pipeline s₀ now quarantinedAt processedAt unique s)
    (dated : ∀ row ∈ batch.rows, inRange start stop row = true) :
    ∀ row ∈ newRows (· .eventId) s₀.silver.rows (preparedFrame unique processedAt).rows,
      inRange start stop row = true := by
  intro row member
  obtain ⟨r, checked, passes, rfl⟩ := h.origin member
  have in_range := dated r (passes_conform checked passes).2
  have date : processedRow processedAt (validRow r) .eventDate = r .eventDate :=
    processedRow_validRow (by decide)
  unfold Analytics.inRange Row.date at in_range ⊢
  rwa [date]

/-- An execution that has returned. -/
theorem merged_or_empty
    (run : Prog.Run (LakeExec runId) (validateAndMerge env batch runId pipeline, s) (.done (.ok ()), t)) :
    (batch.rows = [] ∧ t = s) ∨ batch.rows ≠ [] ∧ ∃ now quarantinedAt processedAt unique,
      Merged env batch runId pipeline s now quarantinedAt processedAt unique t := by
  by_cases empty : batch.rows = []
  · have always : Prog.Always (LakeExec runId) (fun _ _ => True) (fun _ t => t = s)
        (validateAndMerge env batch runId pipeline) s := by
      unfold validateAndMerge
      rw [if_pos (List.isEmpty_iff.2 empty)]
      rfl
    exact .inl ⟨empty, always.post_of_run run⟩
  · exact .inr ⟨empty, merged_of_run empty run⟩

theorem Call.columns_of_empty (empty : batch.rows = []) :
    (Call.validate batch runId pipeline).columns = [] := by
  rw [Call.columns, empty]
  rfl

theorem Call.columns_of_nonempty (nonempty : batch.rows ≠ []) :
    (Call.validate batch runId pipeline).columns = mergedColumns batch := by
  rw [Call.columns, if_neg fun empty => nonempty (List.isEmpty_iff.1 empty)]

/-- A batch that fits. -/
structure Fits (types : Column → DataType) (batch : Frame) : Prop where
  follows : Follows types batch.schema
  complete : ∀ f ∈ eventColumns, batch.schema.typeOf f.1 ≠ none

/-- A batch of the range that fits, after an execution that returned. -/
theorem added_of_run (own : Follows types silverColumns) (silver : Follows types s.silver.schema)
    (batch_fits : Fits types batch) (dated : ∀ row ∈ batch.rows, inRange start stop row = true)
    (run : Prog.Run (LakeExec runId) (validateAndMerge env batch runId pipeline, s) (.done (.ok ()), t)) :
    Added types start stop s [(.validate batch runId pipeline, t.checkedAt)] t := by
  have fits := silver.fits batch_fits.follows batch_fits.complete
  obtain ⟨empty, rfl⟩ | ⟨nonempty, now, quarantinedAt, processedAt, unique, h⟩ := merged_or_empty run
  · refine ⟨silver, rfl, List.prefix_rfl, ?_, [], (List.append_nil _).symm, List.nodup_nil,
      List.forall_mem_nil _, ?_⟩
    · intro p member f brought
      rw [List.mem_singleton.1 member, Call.columns_of_empty empty] at brought
      cases brought
    · intro eventId
      rw [validIn_singleton]
      simp [Call.records, empty]
  have schema := h.schema_batch fits
  have same : conformed env batch s = batch := conformed_of_fits fits
  have distinct := h.distinct
  rw [same] at distinct
  refine ⟨?_, h.gold, h.grown, ?_, _, h.rows, h.unique_prepared.sublist (List.filter_sublist.map _), ?_, ?_⟩
  · have follows : Follows types (conformed env batch s).schema := by
      rw [same]
      exact batch_fits.follows
    rw [h.schema_eq]
    exact own.merged silver follows h.schema
  · intro p member f brought
    rw [List.mem_singleton.1 member, Call.columns_of_nonempty nonempty] at brought
    rw [schema]
    exact typeOf_mergedColumn brought
  · exact h.inRange dated
  · intro eventId
    rw [validIn_singleton, h.checkedAt]
    exact mem_keys_newRows.trans (and_congr_right' (mem_preparedIds distinct))

/-- What the checks of a call passed, Silver has. -/
def Known (s : World) (log : Log) : Prop := ∀ eventId, ValidIn log eventId → eventId ∈ s.eventIds

/-- A merge of what Silver knows, with no new column, leaves it as it is. -/
theorem unchanged_of_run (silver : Follows types s.silver.schema) (batch_fits : Fits types batch)
    (held : ∀ f ∈ (Call.validate batch runId pipeline).columns, s.silver.schema.typeOf f.1 ≠ none)
    (known : Known s [(.validate batch runId pipeline, t.checkedAt)])
    (run : Prog.Run (LakeExec runId) (validateAndMerge env batch runId pipeline, s) (.done (.ok ()), t)) :
    t.silver = s.silver := by
  have fits := silver.fits batch_fits.follows batch_fits.complete
  obtain ⟨_, rfl⟩ | ⟨nonempty, now, quarantinedAt, processedAt, unique, h⟩ := merged_or_empty run
  · rfl
  have same : conformed env batch s = batch := conformed_of_fits fits
  have distinct := h.distinct
  rw [same] at distinct
  rw [Call.columns_of_nonempty nonempty] at held
  have no_column : s.silver.schema.missing (mergedColumns batch) = [] := by
    apply List.filter_eq_nil_iff.2
    intro f brought absent
    exact held f brought (of_decide_eq_true absent)
  have no_row : newRows (· .eventId) s.silver.rows (preparedFrame unique processedAt).rows = [] := by
    apply List.eq_nil_iff_forall_not_mem.2
    intro row member
    obtain ⟨prepared, absent⟩ := mem_newRows.1 member
    apply absent
    apply known
    rw [validIn_singleton, h.checkedAt]
    exact (mem_preparedIds distinct).1 (List.mem_map_of_mem prepared)
  apply Frame.ext
  · rw [h.schema_batch fits, Frame.mergedSchema, no_column, List.append_nil]
  · rw [h.rows, no_row, List.append_nil]

end Batch

/-! ## Several batches -/

/-- A call on a batch of the range that fits. -/
def Ranged (types : Column → DataType) (start stop : Date) : Call → Prop
  | .validate batch _ _ => Fits types batch ∧ ∀ row ∈ batch.rows, inRange start stop row = true
  | .refresh _ _ => False

section Validates

variable {types : Column → DataType} {env : Env} {tick : Instant → Instant → Prop} {start stop : Date}
  {s t : World} {log : Log}

theorem Validates.added (validates : Validates env tick s log t) (own : Follows types silverColumns)
    (ranged : ∀ p ∈ log, Ranged types start stop p.1) (silver : Follows types s.silver.schema) :
    Added types start stop s log t := by
  induction validates with
  | nil => exact Added.nil silver
  | cons session _ ih =>
    rename_i k s t log u _
    have first := ranged _ List.mem_cons_self
    cases k with
    | refresh dates runId => exact first.elim
    | validate batch runId pipeline =>
      obtain ⟨s₀, ⟨_, begin, _, rfl⟩, run⟩ := session
      have added : Added types start stop s [(.validate batch runId pipeline, t.checkedAt)] t := by
        have h := added_of_run (s := s.at begin) own silver first.1 first.2 run
        exact ⟨h.follows, h.gold, h.grown, h.columns, h.rows⟩
      exact added.trans (ih (fun p member => ranged p (List.mem_cons_of_mem _ member)) added.follows)

/-- Batches that Silver knows leave it as it is. -/
theorem Validates.unchanged (validates : Validates env tick s log t)
    (ranged : ∀ p ∈ log, Ranged types start stop p.1) (silver : Follows types s.silver.schema)
    (held : ∀ p ∈ log, ∀ f ∈ p.1.columns, s.silver.schema.typeOf f.1 ≠ none) (known : Known s log) :
    t.silver = s.silver := by
  induction validates with
  | nil => rfl
  | cons session _ ih =>
    rename_i k s t log u _
    have first := ranged _ List.mem_cons_self
    cases k with
    | refresh dates runId => exact first.elim
    | validate batch runId pipeline =>
      obtain ⟨s₀, ⟨_, begin, _, rfl⟩, run⟩ := session
      have known_first : Known (s.at begin) [(.validate batch runId pipeline, t.checkedAt)] := by
        intro eventId valid
        exact known eventId (validIn_append.2 (.inl valid))
      have same : t.silver = s.silver :=
        unchanged_of_run (s := s.at begin) silver first.1 (held _ List.mem_cons_self) known_first run
      rw [← same]
      apply ih fun p member => ranged p (List.mem_cons_of_mem _ member)
      · rw [same]
        exact silver
      · rw [same]
        exact fun p member => held p (List.mem_cons_of_mem _ member)
      · intro eventId valid
        unfold World.eventIds
        rw [same]
        have known_later : ValidIn ([(.validate batch runId pipeline, t.checkedAt)] ++ log) eventId :=
          validIn_append.2 (.inr valid)
        exact known eventId known_later

end Validates

/-! ## The program -/

/-- What is outside the range, and Bronze, is as it was; and Silver too, unless it is rebuilt. -/
structure Spared (layer : String) (start stop : Date) (s t : Warehouse) : Prop where
  bronze : t.bronze = s.bronze
  silver : layer ≠ "silver" → t.lake.silver = s.lake.silver
  rows : (t.lake.silver.rows.filter fun row => !inRange start stop row) =
    s.lake.silver.rows.filter fun row => !inRange start stop row
  gold : (t.lake.gold.filter fun g => !between start stop g.eventDate) =
    s.lake.gold.filter fun g => !between start stop g.eventDate

section Job

variable {env : Env} {tick : Instant → Instant → Prop} {layer : String} {start stop : Date} {runId : String}
  {s t u : Warehouse}

theorem Spared.refl (layer : String) (start stop : Date) (s : Warehouse) : Spared layer start stop s s :=
  ⟨rfl, fun _ => rfl, rfl, rfl⟩

theorem Spared.trans (h : Spared layer start stop s t) (h' : Spared layer start stop t u) :
    Spared layer start stop s u where
  bronze := h'.bronze.trans h.bronze
  silver gold := (h'.silver gold).trans (h.silver gold)
  rows := h'.rows.trans h.rows
  gold := h'.gold.trans h.gold

theorem JobExec.read {o : JobOp} {r : o.Answer} (reads : o.Reads) (performed : JobExec env tick o s r t) :
    t = s := by
  cases performed with
  | validateAndMerge | refresh => exact reads.elim
  | _ => rfl

/-- A read, then the rest. -/
theorem always_read {o : JobOp} {α : Type} {f : o.Result → JobM α}
    {Q : Except PyException α → Warehouse → Prop}
    (reads : o.Reads) (raised : ∀ e, Q (.error e) s)
    (next : ∀ a, JobExec env tick o s (.ok a) s →
      Prog.Always (JobExec env tick) (fun _ _ => True) Q (f a) s) :
    Prog.Always (JobExec env tick) (fun _ _ => True) Q (o.call.bind f) s := by
  unfold JobOp.call
  refine Prog.Always.bind (Prog.Always.bind (Prog.Always.perform trivial ?_))
  intro r t performed
  obtain rfl := performed.read reads
  cases r with
  | ok a => exact next a performed
  | error e => exact raised e

/-- A call at the end. -/
theorem always_section_last {o : JobOp} {Q : Except PyException o.Result → Warehouse → Prop}
    (ends : ∀ r t, JobExec env tick o s r t → Q r t) :
    Prog.Always (JobExec env tick) (fun _ _ => True) Q o.call s := by
  unfold JobOp.call
  refine Prog.Always.bind (Prog.Always.perform trivial ?_)
  intro r t performed
  cases r <;> exact ends _ t performed

/-- A section on a batch of the range, however it ends. -/
theorem Stage.spared {batch : Frame} {pipeline : String} {s t : World}
    (dated : ∀ row ∈ batch.rows, inRange start stop row = true) (stage : Stage env batch runId pipeline s t) :
    (t.silver.rows.filter fun row => !inRange start stop row) =
      (s.silver.rows.filter fun row => !inRange start stop row) ∧ t.gold = s.gold := by
  cases stage with
  | begun h => exact ⟨by rw [h.silver], h.gold⟩
  | rejected h => exact ⟨by rw [h.silver], h.gold⟩
  | merged h =>
    rename_i now quarantinedAt processedAt unique
    refine ⟨?_, h.gold⟩
    have none_outside : ((newRows (· .eventId) s.silver.rows (preparedFrame unique processedAt).rows).filter
        fun row => !inRange start stop row) = [] := by
      apply List.filter_eq_nil_iff.2
      intro row member outside
      rw [h.inRange dated row member] at outside
      cases outside
    rw [h.rows, List.filter_append, none_outside, List.append_nil]

theorem RefreshStage.spared {dates : List Date} {s t : World}
    (dated : ∀ date ∈ dates, between start stop (some date) = true) (stage : RefreshStage dates s t) :
    (t.gold.filter fun g => !between start stop g.eventDate) =
      s.gold.filter fun g => !between start stop g.eventDate := by
  cases stage with
  | begun h => rw [h.gold]
  | refreshed h =>
    rw [h.gold]
    apply filter_replaceDates_other _ listed_goldRows
    intro g outside listed
    obtain ⟨date, member, same⟩ := List.mem_map.1 listed
    rw [← same, dated date member] at outside
    cases outside

theorem Validates.returned {s t u : World} {log : Log} {rest : List Call}
    (validates : Validates env tick s log t) (later : (lake env tick fun _ => True).Returned rest t u) :
    (lake env tick fun _ => True).Returned (log.map (·.1) ++ rest) s u := by
  induction validates with
  | nil => exact later
  | cons session _ ih => exact .cons session (ih later)

/-- The channels have been validated, one after another. -/
structure Channels (env : Env) (tick : Instant → Instant → Prop) (start stop : Date) (runId : String)
    (channels : List Channel) (s : Warehouse) (log : Log) (t : Warehouse) : Prop where
  calls : log.map (·.1) = channels.map (backfillCall s.bronze start stop runId)
  validates : Validates env tick s.lake log t.lake
  checks : t.checks = s.checks ++ log

/-- The section on a channel, however it ends. -/
theorem JobExec.channel {channel : Channel} {r : Except PyException Unit}
    (performed : JobExec env tick (.validateAndMerge ((s.bronze channel).filter (inRange start stop))
      (runId ++ ":" ++ channel.name) "backfill_silver") s r t) :
    Spared "silver" start stop s t ∧
      (r = .ok () → ∃ log, Channels env tick start stop runId [channel] s log t) := by
  cases performed with
  | unread reads => exact reads.elim
  | validateAndMerge session =>
    obtain ⟨begin, _, _, stage, _⟩ := session_stage session
    have stage : Stage env ((s.bronze channel).filter (inRange start stop)) _ _ (s.lake.at begin) _ := stage
    obtain ⟨rows, gold⟩ := stage.spared fun row member => (List.mem_filter.1 member).2
    refine ⟨⟨rfl, fun other => absurd rfl other, rows, ?_⟩, ?_⟩
    · dsimp only
      rw [gold]
      rfl
    · rintro rfl
      exact ⟨_, rfl, .cons session .nil, rfl⟩

theorem Validates.append {s t u : World} {log more : Log} (validates : Validates env tick s log t)
    (later : Validates env tick t more u) : Validates env tick s (log ++ more) u := by
  induction validates with
  | nil => exact later
  | cons session _ ih => exact .cons session (ih later)

/-- The section that refreshes the dates of the range, however it ends. -/
theorem JobExec.refreshed {dates : List Date} {r : Except PyException Unit}
    (dated : ∀ date ∈ dates, between start stop (some date) = true)
    (performed : JobExec env tick (.refresh dates runId) s r t) :
    Spared layer start stop s t ∧ t.checks = s.checks ∧
      (r = .ok () →
        (lake env tick fun _ => True).Session (.refresh dates runId) s.lake (.done (.ok ())) t.lake) := by
  cases performed with
  | unread reads => exact reads.elim
  | refresh session =>
    rename_i lake
    obtain ⟨begin, _, _, stage, _⟩ := session_stage session
    have stage : RefreshStage dates (s.lake.at begin) lake := stage
    have silver : lake.silver = s.lake.silver := stage.silver
    have gold := stage.spared dated
    refine ⟨⟨rfl, fun _ => silver, ?_, gold⟩, rfl, ?_⟩
    · dsimp only
      rw [silver]
    · rintro rfl
      exact session

theorem always_channel (channel : Channel) (s : Warehouse) :
    Prog.Always (JobExec env tick) (fun _ _ => True)
      (fun r t => Spared "silver" start stop s t ∧
        (r = .ok () → ∃ log, Channels env tick start stop runId [channel] s log t))
      (backfillChannel start stop runId channel) s := by
  unfold backfillChannel
  apply always_read (o := .readBronze channel) trivial fun e => ⟨.refl .., fun returned => by cases returned⟩
  rintro _ ⟨⟩
  apply always_section_last
  intro r t performed
  exact performed.channel

theorem always_channels (channels : List Channel) (s : Warehouse) :
    Prog.Always (JobExec env tick) (fun _ _ => True)
      (fun r t => Spared "silver" start stop s t ∧
        ∀ units, r = .ok units → ∃ log, Channels env tick start stop runId channels s log t)
      (Prog.mapEach channels (backfillChannel start stop runId)) s := by
  induction channels generalizing s with
  | nil => exact ⟨.refl .., fun _ _ => ⟨[], rfl, .nil, (List.append_nil _).symm⟩⟩
  | cons channel channels ih =>
    apply (always_channel channel s).seq
    rintro (e | ⟨⟩) t ⟨spared, returned⟩
    · exact ⟨spared, fun _ impossible => by cases impossible⟩
    apply (ih t).seq
    rintro (e | units) u ⟨spared', returned'⟩
    · exact ⟨spared.trans spared', fun _ impossible => by cases impossible⟩
    refine ⟨spared.trans spared', fun _ _ => ?_⟩
    obtain ⟨log, first⟩ := returned rfl
    obtain ⟨more, rest⟩ := returned' units rfl
    refine ⟨log ++ more, ?_, first.validates.append rest.validates, ?_⟩
    · rw [List.map_append, first.calls, rest.calls, spared.bronze]
      rfl
    · rw [rest.checks, first.checks, List.append_assoc]

theorem mem_backfillDates {silver : Frame} {gold : List GoldRow} {date : Date} :
    date ∈ backfillDates start stop silver gold ↔ between start stop (some date) = true ∧
      ((∃ row ∈ silver.rows, row.date .eventDate = some date) ∨ ∃ g ∈ gold, g.eventDate = some date) := by
  unfold backfillDates
  simp only [List.mem_dedup, List.mem_append, List.mem_filterMap, Frame.filter, List.mem_filter]
  constructor
  · rintro (⟨row, ⟨present, dated⟩, found⟩ | ⟨g, ⟨present, dated⟩, found⟩)
    · refine ⟨?_, .inl ⟨row, present, found⟩⟩
      rw [← found]
      exact dated
    · exact ⟨found ▸ dated, .inr ⟨g, present, found⟩⟩
  · rintro ⟨dated, ⟨row, present, found⟩ | ⟨g, present, found⟩⟩
    · refine .inl ⟨row, ⟨present, ?_⟩, found⟩
      rw [← found] at dated
      exact dated
    · exact .inr ⟨g, ⟨present, found.symm ▸ dated⟩, found⟩

/-- A backfill that has returned. -/
structure Backfilled (env : Env) (tick : Instant → Instant → Prop) (layer : String) (start stop : Date)
    (runId : String) (s : Warehouse) (log : Log) (mid : World) (t : Warehouse) : Prop where
  ordered : start ≤ stop
  calls : log.map (·.1) = (backfillChannels layer).map (backfillCall s.bronze start stop runId)
  validates : Validates env tick s.lake log mid
  checks : t.checks = s.checks ++ log
  refreshed : (lake env tick fun _ => True).Session
    (.refresh (backfillDates start stop mid.silver mid.gold) runId) mid (.done (.ok ())) t.lake

theorem always_backfill (layer : String) (start stop : Date) (runId : String) (s : Warehouse) :
    Prog.Always (JobExec env tick) (fun _ _ => True)
      (fun r t => Spared layer start stop s t ∧
        (r = .ok () → ∃ log mid, Backfilled env tick layer start stop runId s log mid t))
      (Maintenance.backfill layer start stop runId) s := by
  unfold Maintenance.backfill
  split
  · exact ⟨.refl .., fun returned => by cases returned⟩
  rename_i ordered
  have channels : Prog.Always (JobExec env tick) (fun _ _ => True)
      (fun r t => Spared layer start stop s t ∧
        ∀ units, r = .ok units → ∃ log, Channels env tick start stop runId (backfillChannels layer) s log t)
      (Prog.mapEach (backfillChannels layer) (backfillChannel start stop runId)) s := by
    by_cases silver : layer = "silver"
    · rw [silver]
      exact always_channels ..
    · rw [backfillChannels, if_neg silver]
      exact ⟨.refl .., fun _ _ => ⟨[], rfl, .nil, (List.append_nil _).symm⟩⟩
  apply channels.seq
  rintro (e | units) t ⟨spared, returned⟩
  · exact ⟨spared, fun impossible => by cases impossible⟩
  obtain ⟨log, validated⟩ := returned units rfl
  apply always_read (o := .readSilver) trivial fun e => ⟨spared, fun impossible => by cases impossible⟩
  rintro _ ⟨⟩
  apply always_read (o := .readGold) trivial fun e => ⟨spared, fun impossible => by cases impossible⟩
  rintro _ ⟨⟩
  apply always_section_last
  intro r u performed
  obtain ⟨spared', checks, refreshed⟩ := performed.refreshed fun date member => (mem_backfillDates.1 member).1
  refine ⟨spared.trans spared', fun ok => ?_⟩
  exact ⟨log, t.lake, le_of_not_gt ordered, validated.calls, validated.validates,
    checks.trans validated.checks, refreshed ok⟩

end Job

/-! ## What a backfill has done -/

/-- The columns of Bronze have the types of Silver's columns, those that Silver has and those that
a merge gives it; and Bronze has the columns of the event. -/
structure Typed (types : Column → DataType) (s : Warehouse) : Prop where
  own : Follows types silverColumns
  silver : Follows types s.lake.silver.schema
  bronze : ∀ channel, Fits types (s.bronze channel)

section Backfilled

variable {types : Column → DataType} {env : Env} {tick : Instant → Instant → Prop} {layer : String}
  {start stop : Date} {runId runId' : String} {s t u : Warehouse} {log log' : Log} {mid mid' : World}

theorem RefreshCompleted.stage {dates : List Date} {s₀ s : World} (h : RefreshCompleted dates s₀ s) :
    RefreshStage dates s₀ s := by
  obtain ⟨_, begun⟩ | ⟨updatedAt, refreshed⟩ := h
  · exact .begun begun
  · exact .refreshed refreshed

/-- The calls of the history are those of the channels. -/
theorem Backfilled.mem_log (h : Backfilled env tick layer start stop runId s log mid t) {p : Call × Instant}
    (member : p ∈ log) :
    ∃ channel ∈ backfillChannels layer, p.1 = backfillCall s.bronze start stop runId channel := by
  have listed : p.1 ∈ (backfillChannels layer).map (backfillCall s.bronze start stop runId) := by
    rw [← h.calls]
    exact List.mem_map_of_mem member
  obtain ⟨channel, channels, same⟩ := List.mem_map.1 listed
  exact ⟨channel, channels, same.symm⟩

theorem Backfilled.ranged (h : Backfilled env tick layer start stop runId s log mid t)
    (bronze : ∀ channel, Fits types (s.bronze channel)) : ∀ p ∈ log, Ranged types start stop p.1 := by
  intro p member
  obtain ⟨channel, _, same⟩ := h.mem_log member
  rw [same]
  exact ⟨⟨(bronze channel).follows, (bronze channel).complete⟩,
    fun row present => (List.mem_filter.1 present).2⟩

theorem Backfilled.added (h : Backfilled env tick layer start stop runId s log mid t)
    (typed : Typed types s) : Added types start stop s.lake log mid :=
  h.validates.added typed.own (h.ranged typed.bronze) typed.silver

theorem Backfilled.completed (h : Backfilled env tick layer start stop runId s log mid t) :
    ∃ begin, RefreshCompleted (backfillDates start stop mid.silver mid.gold) (mid.at begin) t.lake := by
  obtain ⟨begin, _, _, _, completed⟩ := session_stage h.refreshed
  exact ⟨begin, completed rfl⟩

theorem Backfilled.silver (h : Backfilled env tick layer start stop runId s log mid t) :
    t.lake.silver = mid.silver := by
  obtain ⟨begin, completed⟩ := h.completed
  exact completed.stage.silver

/-- The sections of a backfill are the calls of `backfill`, with the dates it finds. -/
theorem Backfilled.returned (h : Backfilled env tick layer start stop runId s log mid t) :
    ∃ calls,
      backfill layer s.bronze start stop runId (backfillDates start stop mid.silver mid.gold) = .ok calls ∧
      (lake env tick fun _ => True).Returned calls s.lake t.lake := by
  refine ⟨log.map (·.1) ++ [.refresh (backfillDates start stop mid.silver mid.gold) runId], ?_, ?_⟩
  · rw [backfill, if_neg (not_lt.2 h.ordered), h.calls, backfillChannels]
    by_cases silver : layer = "silver"
    · rw [if_pos silver, if_pos silver]
    · rw [if_neg silver, if_neg silver]
      rfl
  · exact h.validates.returned (.cons h.refreshed .nil)

/-- A date of the range without rows is right as it is. -/
theorem not_stale_of_unlisted {p : Pair} (dated : between start stop p.1 = true)
    (unlisted : p.1 ∉ (backfillDates start stop mid.silver mid.gold).map some) : ¬ Stale mid p := by
  obtain ⟨date, source⟩ := p
  obtain ⟨day, rfl⟩ : ∃ day, date = some day := by
    cases date with
    | none => cases dated
    | some day => exact ⟨day, rfl⟩
  have absent : day ∉ backfillDates start stop mid.silver mid.gold :=
    fun listed => unlisted (List.mem_map_of_mem listed)
  have no_silver : ¬ ∃ row ∈ mid.silver.rows, pairOf row = (some day, source) := by
    rintro ⟨row, present, pair⟩
    exact absent (mem_backfillDates.2 ⟨dated, .inl ⟨row, present, congrArg Prod.fst pair⟩⟩)
  have no_gold : countsAt mid.gold (some day, source) = [] := by
    refine List.map_eq_nil_iff.2 (List.filter_eq_nil_iff.2 ?_)
    intro g present pair
    have date : g.eventDate = some day := congrArg Prod.fst (of_decide_eq_true pair)
    exact absent (mem_backfillDates.2 ⟨dated, .inr ⟨g, present, date⟩⟩)
  unfold Stale
  rw [no_gold, aggregateAt_of_absent no_silver, not_not]

theorem Backfilled.gold (h : Backfilled env tick layer start stop runId s log mid t) {p : Pair}
    (dated : between start stop p.1 = true) :
    countsAt t.lake.gold p = aggregateAt t.lake.silver.rows p := by
  obtain ⟨begin, completed⟩ := h.completed
  by_contra stale
  by_cases listed : p.1 ∈ (backfillDates start stop mid.silver mid.gold).map some
  · exact completed.listed listed stale
  · have right : ¬ Stale (mid.at begin) p := not_stale_of_unlisted dated listed
    exact completed.stage.keeps right stale

theorem countsAt_outside {gold : List GoldRow} {p : Pair} (outside : between start stop p.1 = false) :
    countsAt (gold.filter fun g => !between start stop g.eventDate) p = countsAt gold p := by
  unfold countsAt
  rw [List.filter_filter]
  refine congrArg _ (List.filter_congr fun g _ => ?_)
  by_cases pair : g.pair = p
  · have date : between start stop g.eventDate = false := by
      rw [← pair] at outside
      exact outside
    simp [pair, date]
  · simp [pair]

/-- The same backfill again. -/
theorem Backfilled.again (h : Backfilled env tick layer start stop runId s log mid t) (typed : Typed types s)
    (spared : Spared layer start stop s t) (again : Backfilled env tick layer start stop runId' t log' mid' u)
    (spared' : Spared layer start stop t u) (valid : ∀ eventId, ValidIn log' eventId → ValidIn log eventId) :
    u.lake.silver = t.lake.silver ∧ ∀ p, countsAt u.lake.gold p = countsAt t.lake.gold p := by
  have added := h.added typed
  have silver := h.silver
  have follows : Follows types t.lake.silver.schema := silver ▸ added.follows
  have bronze : ∀ channel, Fits types (t.bronze channel) := spared.bronze ▸ typed.bronze
  have held : ∀ p ∈ log', ∀ f ∈ p.1.columns, t.lake.silver.schema.typeOf f.1 ≠ none := by
    intro p member f brought
    obtain ⟨channel, listed, same⟩ := again.mem_log member
    have earlier : backfillCall s.bronze start stop runId channel ∈ log.map (·.1) := by
      rw [h.calls]
      exact List.mem_map_of_mem listed
    obtain ⟨q, q_log, q_call⟩ := List.mem_map.1 earlier
    rw [silver]
    apply added.columns q q_log f
    rw [q_call]
    rw [same, spared.bronze] at brought
    exact brought
  have known : Known t.lake log' := by
    intro eventId later
    obtain ⟨new, rows, _, _, ids⟩ := added.rows
    unfold World.eventIds
    rw [silver, rows, List.map_append, List.mem_append]
    by_cases old : eventId ∈ s.lake.eventIds
    · exact .inl old
    · exact .inr ((ids eventId).2 ⟨old, valid eventId later⟩)
  have same : u.lake.silver = t.lake.silver :=
    again.silver.trans (again.validates.unchanged (again.ranged bronze) follows held known)
  refine ⟨same, fun p => ?_⟩
  cases dated : between start stop p.1 with
  | true => rw [again.gold dated, h.gold dated, same]
  | false => rw [← countsAt_outside dated, spared'.gold, countsAt_outside dated]

end Backfilled

/-- **A backfill rebuilds its range.** Whatever the tables, with columns of one type each: a range
that ends before it starts raises and changes nothing; however a backfill ends, it changes nothing
in Bronze, nothing dated outside the range, and Silver in the layer silver only. One that returns
has added to Silver one row for each event id that was not there and that some Bronze record of
the range has which was valid when its channel was checked; Gold is the aggregate of Silver on
every date of the range; and the same backfill again, where no other event id is valid, changes
neither Silver nor a count of Gold. -/
theorem backfill_rebuilds_range {types : Column → DataType} {env : Env} {tick : Instant → Instant → Prop}
    {layer : String} {start stop : Date} {runId : String} {s : Warehouse} (typed : Typed types s) :
    (start > stop →
      ∀ p t, Prog.Run (JobExec env tick) (Maintenance.backfill layer start stop runId, s) (p, t) →
        p = .done (.error (.valueError "from_date must not exceed to_date")) ∧ t = s) ∧
    (∀ r t, Prog.Run (JobExec env tick) (Maintenance.backfill layer start stop runId, s) (.done r, t) →
      Spared layer start stop s t) ∧
    ∀ t, Prog.Run (JobExec env tick) (Maintenance.backfill layer start stop runId, s) (.done (.ok ()), t) →
      ∃ log, t.checks = s.checks ++ log ∧
        log.map (·.1) = (backfillChannels layer).map (backfillCall s.bronze start stop runId) ∧
        (∃ new, t.lake.silver.rows = s.lake.silver.rows ++ new ∧ (new.map (· .eventId)).Nodup ∧
          ∀ eventId, eventId ∈ new.map (· .eventId) ↔ eventId ∉ s.lake.eventIds ∧ ValidIn log eventId) ∧
        (∀ p : Pair, between start stop p.1 = true →
          countsAt t.lake.gold p = aggregateAt t.lake.silver.rows p) ∧
        ∀ runId' u,
          Prog.Run (JobExec env tick) (Maintenance.backfill layer start stop runId', t) (.done (.ok ()), u) →
          ∃ log', u.checks = t.checks ++ log' ∧
            log'.map (·.1) = (backfillChannels layer).map (backfillCall s.bronze start stop runId') ∧
            ((∀ eventId, ValidIn log' eventId → ValidIn log eventId) →
              u.lake.silver = t.lake.silver ∧ ∀ p, countsAt u.lake.gold p = countsAt t.lake.gold p) := by
  refine ⟨?_, ?_, ?_⟩
  · intro reversed p t run
    rw [Maintenance.backfill, if_pos reversed] at run
    have same := Prog.Run.eq_of_done run
    exact ⟨congrArg Prod.fst same, congrArg Prod.snd same⟩
  · intro r t run
    exact ((always_backfill layer start stop runId s).post_of_run run).1
  · intro t run
    obtain ⟨spared, returned⟩ := (always_backfill layer start stop runId s).post_of_run run
    obtain ⟨log, mid, h⟩ := returned rfl
    obtain ⟨new, rows, unique, _, ids⟩ := (h.added typed).rows
    refine ⟨log, h.checks, h.calls, ⟨new, by rw [h.silver, rows], unique, ids⟩, fun p => h.gold, ?_⟩
    intro runId' u run'
    obtain ⟨spared', returned'⟩ := (always_backfill layer start stop runId' t).post_of_run run'
    obtain ⟨log', mid', h'⟩ := returned' rfl
    refine ⟨log', h'.checks, ?_, fun valid => h.again typed spared h' spared' valid⟩
    rw [h'.calls, spared.bronze]

/-- Both channels hold the record of the demo, and Gold a row of its date without an event. -/
def demoWarehouse : Warehouse where
  bronze _ := demoBatch
  lake :=
    { World.bootstrap 20 with
      gold := [⟨some 0, some "LEGAL", 2, 2, 1, 3⟩, ⟨some 4, some "UI", 1, 1, 1, 3⟩] }
  checks := []

/-- Its backfill, played to its end. -/
def demoRebuilt : Except PyException Unit × Warehouse :=
  Prog.eval (performJob demoEnv) (Maintenance.backfill "silver" 0 0 "backfill") demoWarehouse

theorem backfill_rebuilds_range_demo :
    demoRebuilt.2.lake.eventIds = [some (.string "event-1")] ∧
      demoRebuilt.2.lake.gold.map GoldRow.unstamped =
        [⟨some 4, some "UI", 1, 1, 1, 0⟩, ⟨some 0, some "UI", 1, 1, 1, 0⟩] ∧
      Spared "silver" 0 0 demoWarehouse demoRebuilt.2 ∧
      ∀ p : Pair, between 0 0 p.1 = true →
        countsAt demoRebuilt.2.lake.gold p = aggregateAt demoRebuilt.2.lake.silver.rows p := by
  have own : Follows demoTypes silverColumns := follows_of_unique (by decide) (by decide)
  have typed : Typed demoTypes demoWarehouse :=
    ⟨own, own, fun _ => ⟨demoCall_compatible.1, demoCall_compatible.2⟩⟩
  have run : Prog.Run (JobExec demoEnv (· ≤ ·))
      (Maintenance.backfill "silver" 0 0 "backfill", demoWarehouse) (.done demoRebuilt.1, demoRebuilt.2) :=
    Prog.run_eval (performJob_sound demoEnv) _ _
  have returned : demoRebuilt.1 = .ok () := by
    have ok : demoRebuilt.1.isOk = true := by decide +kernel
    cases result : demoRebuilt.1 with
    | error e =>
      rw [result] at ok
      cases ok
    | ok => rfl
  obtain ⟨_, ends, rebuilds⟩ := backfill_rebuilds_range typed
  rw [returned] at run
  obtain ⟨_, _, _, _, counts, _⟩ := rebuilds _ run
  exact ⟨by decide +kernel, by decide +kernel, ends _ _ run, counts⟩

end Tikblog.Analytics
