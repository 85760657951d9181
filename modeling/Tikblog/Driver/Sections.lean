import Tikblog.Driver.Events

/-!
# Critical sections in the driver

The critical sections of the platform on their own, one after another: `sections` is the
lake under checks of Bronze rows and any refreshes. A Silver row holds an event that some
record publishes, a row that was checked is in Silver by its id or in the quarantine under
its coordinates, and what a section stores is computed from the tables as they then are
(`Storing`).
-/

namespace Tikblog.Driver

open Python Program Analytics

variable {w : Platform}

/-- The sections check Bronze rows, or refresh. -/
def Allowed (w : Platform) : Call → Prop
  | .validate batch _ _ => FromBronze w batch
  | .refresh _ _ => True

/-- The critical sections of the platform, one after another. -/
def sections (w : Platform) : System Call LakeOp LakeOp.Answer PyException Unit World :=
  lake w.config.env (· < ·) (Allowed w)

/-- An event that some record of the topics publishes. -/
def Published (w : Platform) (e : Event) : Prop := ∃ c record, Recorded w c record ∧ Publishes w record e

/-- The row decodes a record that publishes the event. -/
def Tells (w : Platform) (row : BronzeRow) (e : Event) : Prop :=
  ∃ c record, Recorded w c record ∧ Decodes w.config.spark w.registry record row ∧ Publishes w record e

/-! ## Silver holds published events -/

/-- What the sections keep. -/
structure SectionInvariant (w : Platform) (s : World) : Prop where
  follows : Follows w.types s.silver.schema
  events : ∀ row ∈ s.silver.rows, ∃ e, Published w e ∧ e.In row

/-- The columns of the event reach Silver. -/
theorem Event.In.processed {e : Event} {row : Row} (h : e.In row) (processedAt : Instant) :
    e.In (processedRow processedAt (validRow row)) where
  eventId := (processedRow_validRow (by decide)).trans h.eventId
  userId := (processedRow_validRow (by decide)).trans h.userId
  writerId := (processedRow_validRow (by decide)).trans h.writerId
  source := (processedRow_of_ne (by decide)).trans (validRow_source h.source)
  requestedAt := (processedRow_validRow (by decide)).trans h.requestedAt
  eventDate := (processedRow_validRow (by decide)).trans h.eventDate

/-- A row of a batch that passes holds a published event. -/
theorem FromBronze.published {batch : Frame} (h : FromBronze w batch) {row : Row} (member : row ∈ batch.rows)
    {now : Instant} (passes : Passes now row) : ∃ e, Published w e ∧ e.In row := by
  obtain ⟨c, bronze, ⟨record, recorded, decodes⟩, rfl⟩ := h.rows row member
  obtain ⟨e, publishes, held, -⟩ := publishes_of_passes h.schema decodes passes
  exact ⟨e, ⟨c, record, recorded, publishes⟩, held⟩

theorem SectionInvariant.quiet {s t : World} (h : SectionInvariant w s) (silver : t.silver = s.silver) :
    SectionInvariant w t := by
  constructor
  · rw [silver]
    exact h.follows
  · rw [silver]
    exact h.events

theorem sectionInvariant {s : World} (h : (sections w).Reachable s) : SectionInvariant w s := by
  apply Reachable.of_stages (I := SectionInvariant w) h
  · intro t
    exact ⟨w.typed, fun row member => by cases member⟩
  · intro k s begin t hs called _ stage
    cases k with
    | refresh dates runId =>
      have refreshed : RefreshStage dates (s.at begin) t := stage
      exact hs.quiet refreshed.silver
    | validate batch runId pipeline =>
      have stage : Stage w.config.env batch runId pipeline (s.at begin) t := stage
      have bronze : FromBronze w batch := called
      cases stage with
      | begun h => exact hs.quiet h.silver
      | rejected h => exact hs.quiet h.silver
      | merged h =>
        constructor
        · obtain ⟨mergeable, silver⟩ := h.silver
          rw [silver]
          have fits := hs.follows.fits bronze.schema.follows (bronze.compatible runId pipeline).2
          have same : conformed w.config.env batch (s.at begin) = batch := conformed_of_fits fits
          have schema := h.schema
          rw [same] at schema
          exact w.typed.merged hs.follows bronze.schema.follows schema
        · intro row member
          rw [h.rows] at member
          obtain old | new := List.mem_append.1 member
          · exact hs.events row old
          · obtain ⟨r, present, passes, rfl⟩ := h.origin new
            obtain ⟨e, published, held⟩ := bronze.published (passes_conform present passes).2 passes
            exact ⟨e, published, held.processed _⟩

/-- Fewer calls are allowed. -/
theorem goldInvariant_of_sections {s : World} (h : (sections w).Reachable s) : GoldInvariant s := by
  have reached : (lake w.config.env (· < ·) OnBronze).Reachable s := by
    induction h with
    | init start => exact .init start
    | @session k s t p _ session ih =>
      obtain ⟨s₀, ⟨called, ticked⟩, run⟩ := session
      refine ih.session (k := k) ⟨s₀, ⟨?_, ticked⟩, run⟩
      cases k with
      | validate batch runId pipeline => exact FromBronze.dated called
      | refresh dates runId => trivial
  exact goldInvariant reached

/-! ## Checked rows are settled -/

/-- **A section that has returned** has every row of its batch that passed in Silver by its id,
and the others in the quarantine under their coordinates. -/
theorem settled_of_completed {batch : Frame} {runId pipeline : String} {s₀ s : World}
    (bronze : FromBronze w batch) (follows : Follows w.types s₀.silver.schema)
    (completed : Completed w.config.env batch runId pipeline s₀ s) :
    ∀ row ∈ batch.rows, (∃ now, Passes now row) ∧ (∃ r ∈ s.silver.rows, r .eventId = row .eventId) ∨
      ∃ q ∈ s.quarantine, q.key = (runId, coordinates row) := by
  intro row member
  obtain ⟨empty, -⟩ | ⟨now, quarantinedAt, processedAt, unique, h⟩ := completed
  · rw [empty] at member
    cases member
  have fits := follows.fits bronze.schema.follows (bronze.compatible runId pipeline).2
  have own : conformed w.config.env batch s₀ = batch := conformed_of_fits fits
  by_cases passes : Passes now row
  · left
    have distinct := h.distinct
    rw [own] at distinct
    have prepared : row .eventId ∈ (preparedFrame unique processedAt).rows.map (· .eventId) :=
      (mem_preparedIds distinct).2 ⟨row, member, passes, rfl⟩
    have merged : row .eventId ∈ s.silver.rows.map (· .eventId) := by
      rw [h.rows]
      exact Table.mem_keys_insertNew.2 (.inr prepared)
    obtain ⟨r, present, same⟩ := List.mem_map.1 merged
    exact ⟨⟨now, passes⟩, r, present, same⟩
  · right
    have rejected : (runId, coordinates row) ∈ s.quarantine.map QuarantineRow.key := by
      rw [h.quarantine, own]
      refine Table.mem_keys_insertNew.2 (.inr ?_)
      refine List.mem_map.2 ⟨_, mem_quarantineRows.2 ⟨row, member, passes, rfl⟩, ?_⟩
      exact key_quarantineRow
    obtain ⟨q, present, same⟩ := List.mem_map.1 rejected
    exact ⟨q, present, same⟩

/-! ## What a section stores -/

/-- What is put into the quarantine or into Gold is computed from Silver as it is then. -/
def Storing (env : Env) (k : Call) : LakeOp → World → Prop
  | .insertQuarantine rows, s => ∃ batch runId pipeline now quarantinedAt, k = .validate batch runId pipeline ∧
      rows = quarantineRows runId pipeline now quarantinedAt (conformed env batch s)
  | .overwriteGold dates rows, s => ∃ updatedAt, rows = goldRows (eventsOf s.silver.rows dates) updatedAt
  | _, _ => True

/-- The calls that store nothing in these tables. -/
inductive Storeless : LakeOp → Prop where
  | reporting {o} : Reporting o → Storeless o
  | currentTimestamp {purpose} : Storeless (.currentTimestamp purpose)
  | readSilver : Storeless .readSilver
  | readGold : Storeless .readGold
  | dropDuplicates {frame} : Storeless (.dropDuplicates frame)
  | mergeSilver {frame} : Storeless (.mergeSilver frame)

theorem Storeless.storing {env : Env} {k : Call} {o : LakeOp} (h : Storeless o) (s : World) : Storing env k o s := by
  cases h with
  | reporting reporting => cases reporting <;> trivial
  | _ => trivial

section Storing

variable {env : Env} {k : Call} {runId pipeline : String} {α β : Type}

abbrev StoringIn (env : Env) (k : Call) (runId : String) (p : LakeM α) (s : World) : Prop :=
  Prog.Always (LakeExec runId) (Storing env k) (fun _ _ => True) p s

theorem storing_of_uses {p : LakeM α} (uses : p.Uses Storeless) (s : World) : StoringIn env k runId p s :=
  Prog.Always.of_uses (I := fun _ => True) (fun _ _ _ _ _ _ _ => trivial) (fun _ storeless s _ => storeless.storing s)
    uses trivial

theorem storing_call {o : LakeOp} {f : o.Result → LakeM α} {s : World} (stores : Storing env k o s)
    (next : ∀ a t, Effect runId o s a t → StoringIn env k runId (f a) t) :
    StoringIn env k runId ((Analytics.call o).bind f) s := by
  unfold Analytics.call
  refine Prog.Always.bind (Prog.Always.bind (Prog.Always.perform stores ?_))
  intro r t performed
  cases performed with
  | answered took => exact next _ t took
  | raised | lost => trivial

theorem storeless_call {o : LakeOp} {f : o.Result → LakeM α} {s : World} (storeless : Storeless o)
    (next : ∀ a t, Effect runId o s a t → StoringIn env k runId (f a) t) :
    StoringIn env k runId ((Analytics.call o).bind f) s :=
  storing_call (storeless.storing s) next

/-- A part that takes the time leaves Silver as it is. -/
theorem storing_timing {p : LakeM β} {f : β → LakeM α} {s : World} (timing : p.Uses Timing)
    (next : ∀ b t, t.silver = s.silver → StoringIn env k runId (f b) t) : StoringIn env k runId (p.bind f) s := by
  have kept : Prog.Always (LakeExec runId) (Storing env k) (fun _ t => t.silver = s.silver) p s := by
    refine Prog.Always.of_uses (I := fun t : World => t.silver = s.silver) ?_ ?_ timing rfl
    · intro o timing t a u same performed
      obtain ⟨now, rfl⟩ := performed.timed timing
      exact same
    · intro o timing t _
      cases timing
      trivial
  apply kept.seq
  intro r t same
  cases r with
  | error e => trivial
  | ok b => exact next b t same

theorem storing_require {schema : Schema} {columns : List Column} {f : Unit → LakeM α} {s : World}
    (next : StoringIn env k runId (f ()) s) : StoringIn env k runId ((requireColumns schema columns).bind f) s := by
  unfold requireColumns
  split
  · trivial
  · exact next

theorem storeless_acceptValid {valid : Frame} {results : List DqReport} :
    (acceptValid env valid results runId pipeline).Uses Storeless := by
  have timing : ∀ {γ : Type} {p : LakeM γ} {R : γ → Prop}, p.Yields Timing R → p.Uses Storeless :=
    fun yields => (uses_timing yields).mono fun _ => .reporting
  have require : ∀ {schema columns}, (requireColumns schema columns).Uses Storeless := yields_require.uses
  unfold acceptValid
  apply Prog.Uses.bind (timing (yields_duplicateResults ..))
  intro inBatch
  apply Prog.Uses.bind (uses_call .readSilver)
  intro existing
  apply Prog.Uses.bind (uses_call .dropDuplicates)
  intro unique
  apply Prog.Uses.bind (timing (yields_duplicateResults ..))
  intro inSilver
  apply Prog.Uses.bind ((uses_writeDq ..).mono fun _ => .reporting)
  intro _
  unfold mergeAccepted
  apply Prog.Uses.bind (uses_call .dropDuplicates)
  intro unique
  apply Prog.Uses.bind (uses_call .currentTimestamp)
  intro processedAt
  apply Prog.Uses.bind (uses_call .mergeSilver)
  intro _
  apply Prog.Uses.bind require
  intro _
  apply Prog.Uses.bind (timing (yields_latencyMetrics ..))
  intro metrics
  exact (uses_writeMetrics ..).mono fun _ => .reporting

theorem storing_validateAndMerge {batch : Frame} (s : World) :
    StoringIn env (.validate batch runId pipeline) runId (validateAndMerge env batch runId pipeline) s := by
  unfold validateAndMerge
  split
  · trivial
  unfold validateBatch
  apply storeless_call .readSilver
  rintro silver _ ⟨⟩
  apply storing_require
  apply storeless_call .currentTimestamp
  rintro now t ⟨later⟩
  apply storing_timing (yields_checkResults ..).uses
  intro results t same
  apply storing_require
  apply storeless_call .currentTimestamp
  rintro quarantinedAt u ⟨later⟩
  refine storing_call ?_ fun _ v _ => storing_of_uses storeless_acceptValid v
  refine ⟨batch, runId, pipeline, now, quarantinedAt, rfl, ?_⟩
  show quarantineRows _ _ _ _ (conform env _ batch) = quarantineRows _ _ _ _ (conform env t.silver.schema batch)
  rw [same]

theorem storing_refresh {dates : List Date} (s : World) :
    StoringIn env (.refresh dates runId) runId (refresh env dates runId) s := by
  unfold refresh
  split
  · trivial
  apply storeless_call .readSilver
  rintro silver _ ⟨⟩
  apply storeless_call .currentTimestamp
  rintro updatedAt t ⟨later⟩
  refine storing_call ⟨updatedAt, rfl⟩ ?_
  intro _ u _
  apply storing_of_uses
  unfold reportGold
  apply Prog.Uses.bind (uses_call .readGold)
  intro gold
  apply Prog.Uses.bind ((uses_timing (yields_goldResults ..)).mono fun _ => .reporting)
  intro results
  apply Prog.Uses.bind ((uses_timing (yields_latencyMetrics ..)).mono fun _ => .reporting)
  intro metrics
  apply Prog.Uses.bind ((uses_writeDq ..).mono fun _ => .reporting)
  intro _
  exact (uses_writeMetrics ..).mono fun _ => .reporting

/-- **What a section stores**, at any point of its run. -/
theorem storing_section (k : Call) (s : World) : StoringIn env k k.runId (k.program env) s := by
  cases k with
  | validate batch runId pipeline => exact storing_validateAndMerge s
  | refresh dates runId => exact storing_refresh s

end Storing

/-- What is in the quarantine: a Bronze row that did not pass when it was checked. -/
inductive Rejection (w : Platform) : QuarantineRow → Prop where
  | rejected {c : Channel} {schema : Schema} {bronze : BronzeRow} {runId pipeline : String}
      {now quarantinedAt : Instant} : BronzeSchema w schema → Sourced w c bronze →
      ¬ Passes now (shownRow schema bronze) →
      Rejection w (quarantineRow runId pipeline quarantinedAt (checkedRow now (shownRow schema bronze)))

theorem rejection_of_storing {k : Call} {rows : List QuarantineRow} {s : World} (allowed : Allowed w k)
    (follows : Follows w.types s.silver.schema) (storing : Storing w.config.env k (.insertQuarantine rows) s) :
    ∀ q ∈ rows, Rejection w q := by
  obtain ⟨batch, runId, pipeline, now, quarantinedAt, rfl, rfl⟩ := storing
  have bronze : FromBronze w batch := allowed
  have fits := follows.fits bronze.schema.follows (bronze.compatible runId pipeline).2
  rw [conformed_of_fits fits]
  intro q member
  obtain ⟨row, present, fails, rfl⟩ := mem_quarantineRows.1 member
  obtain ⟨c, shown, sourced, rfl⟩ := bronze.rows row present
  exact .rejected bronze.schema sourced fails

/-- Gold as it is overwritten with what is computed from Silver: no pair that was right is
stale, and no pair of the dates. -/
theorem stale_of_overwritten {s : World} {dates : List Date} {updatedAt : Instant} {p : Pair}
    (stale : Stale { s with gold := replaceDates s.gold dates (goldRows (eventsOf s.silver.rows dates) updatedAt) } p) :
    Stale s p := by
  intro right
  have refreshed : Refreshed dates (s.at updatedAt) updatedAt
      { s with
        gold := replaceDates s.gold dates (goldRows (eventsOf s.silver.rows dates) updatedAt)
        clock := updatedAt } := ⟨rfl, rfl, rfl, rfl, le_refl _, le_refl _⟩
  exact (RefreshStage.refreshed refreshed).keeps (p := p) (not_not.2 right) stale

end Tikblog.Driver
