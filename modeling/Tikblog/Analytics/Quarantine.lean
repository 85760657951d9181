import Mathlib.Logic.Basic
import Tikblog.Analytics.Records

/-!
# Quarantined or accepted

A microbatch is run again under its run id until an attempt returns. One of the checks
reads the clock, and the quarantine keeps what an earlier attempt put there; so a record
that was ahead of its time at one attempt and not at the next ends up in both places. No
other history does that: `quarantined_xor_accepted_iff`.
-/

namespace Tikblog.Analytics

open Python Program

/-- The run id belongs to one microbatch; other calls are free. -/
def RunsOf (runId : String) (batch : Frame) : Call → Prop
  | .validate batch' runId' _ => runId' = runId → batch' = batch
  | .refresh _ _ => True

/-- The record has a row in the quarantine for the run. -/
def Quarantined (runId : String) (s : World) (row : Row) : Prop :=
  (runId, coordinates row) ∈ s.quarantine.map QuarantineRow.key

/-- The record passed all checks at the time `now`: its batch fitted Silver, and every rule
held. -/
def Passed (target : Schema) (batch : Frame) (now : Instant) (row : Row) : Prop :=
  incompatible target batch.schema = [] ∧ Passes now row

/-- The record passed in the attempt that led from `before` to `after`, and Silver has its
event. -/
def AcceptedIn (batch : Frame) (before after : World) (row : Row) : Prop :=
  Passed before.silver.schema batch after.checkedAt row ∧ row .eventId ∈ after.silver.rows.map (· .eventId)

/-- The run inserted a Silver row from the record. -/
def InsertedFrom (runId : String) (s : World) (row : Row) : Prop :=
  ∃ inserted, (runId, inserted) ∈ s.inserted ∧ coordinates inserted = coordinates row

/-- An earlier attempt has quarantined the record for nothing but its future date, and the
date is not in the future any more. -/
def CameDue (runId : String) (batch : Frame) (before : World) (now : Instant) (row : Row) : Prop :=
  incompatible before.silver.schema batch.schema = [] ∧
  (∃ q ∈ before.quarantine, q.key = (runId, coordinates row) ∧
    q.failedChecks = [Check.requestedAtNotFuture.name]) ∧
  ∃ t ≤ now, row .requestedAt = some (.timestamp t)

/-! ## The clock and the checks -/

theorem Check.name_injective : Function.Injective Check.name := by
  intro a b h
  cases a <;> cases b <;> first | rfl | exact absurd h (by decide)

/-- A row that fails now and passes later fails for its date only. -/
theorem failedChecks_of_passes_later {now now' : Instant} {row : Row} (fails : ¬ Passes now row)
    (passes : Passes now' row) : failedChecks now row = [.requestedAtNotFuture] := by
  have others : ∀ check : Check, check ≠ .requestedAtNotFuture → check.rule now row = some true := by
    intro check other
    rw [rule_congr now now' other]
    exact passes_iff.1 passes check
  have date : Check.requestedAtNotFuture.rule now row ≠ some true := by
    intro holds
    refine fails (passes_iff.2 fun check => ?_)
    by_cases same : check = .requestedAtNotFuture
    · exact same ▸ holds
    · exact others check same
  have only : failedChecks now row = Check.all.filter fun check => check = .requestedAtNotFuture := by
    apply List.filter_congr
    intro check _
    by_cases same : check = .requestedAtNotFuture
    · subst same
      have failed := mem_failedChecks.2 date
      have kept := (List.mem_filter.1 failed).2
      simp only [kept, decide_true]
    · simp [others check same, same]
  rw [only]
  rfl

/-- A row that failed for its date only passes once the date is past. -/
theorem passes_of_due {now now' : Instant} {row : Row} {t : Instant}
    (failed : failedChecks now row = [.requestedAtNotFuture]) (date : row .requestedAt = some (.timestamp t))
    (due : t ≤ now') : Passes now' row := by
  apply passes_iff.2
  intro check
  by_cases same : check = .requestedAtNotFuture
  · subst same
    simp [Check.rule, Row.timestamp_eq_some.2 date, due]
  · rw [rule_congr now' now same]
    by_contra fails
    have member := mem_failedChecks.2 fails
    rw [failed] at member
    exact same (List.mem_singleton.1 member)

/-! ## The rows an attempt quarantines -/

theorem key_quarantineRow {runId pipeline : String} {quarantinedAt now : Instant} {row : Row} :
    (quarantineRow runId pipeline quarantinedAt (checkedRow now row)).key = (runId, coordinates row) := by
  have kept : coordinates (checkedRow now row).row = coordinates row := coordinates_update (by decide)
  exact congrArg (Prod.mk runId) kept

/-- The source of a checked row. -/
theorem string_checkedRow {now : Instant} {row : Row} :
    (checkedRow now row).row.string .source = some ((row.string .source).getD "UNKNOWN") := by
  rw [Row.string_eq_some]
  show Function.update row .source _ .source = _
  rw [Function.update_self]
  rfl

theorem mem_quarantineRows {runId pipeline : String} {quarantinedAt now : Instant} {batch : Frame}
    {q : QuarantineRow} : q ∈ quarantineRows runId pipeline now quarantinedAt batch ↔
      ∃ row ∈ batch.rows, ¬ Passes now row ∧ q = quarantineRow runId pipeline quarantinedAt (checkedRow now row) := by
  unfold quarantineRows checkedRows
  simp only [List.mem_map, List.mem_filter, decide_eq_true_eq]
  constructor
  · rintro ⟨_, ⟨⟨row, hrow, rfl⟩, fails⟩, rfl⟩
    exact ⟨row, hrow, fails, rfl⟩
  · rintro ⟨row, hrow, fails, rfl⟩
    exact ⟨_, ⟨⟨row, hrow, rfl⟩, fails⟩, rfl⟩

/-! ## The invariant of a run id -/

/-- What holds of everything the run id has stored so far. -/
structure RunInvariant (runId : String) (batch : Frame) (s : World) : Prop where
  own : silverColumns <+: s.silver.schema
  clean : s.silver.schema.typeOf .failedChecks = none
  rejected : ∀ q ∈ s.quarantine, q.runId = runId → ∃ r ∈ batch.rows, q.key = (runId, coordinates r) ∧
    (incompatible s.silver.schema batch.schema = [] →
      ∃ now ≤ s.clock, ¬ Passes now r ∧ q.failedChecks = (failedChecks now r).map Check.name)
  inserted : ∀ row, (runId, row) ∈ s.inserted → Absorbed batch s.silver.schema ∧
    ∃ r ∈ batch.rows, coordinates row = coordinates r ∧ ∃ now ≤ s.clock, Passes now r

/-- The row that stands for a record in the checks, which is the record itself when the
batch fits. -/
theorem conformed_origin (env : Env) {batch : Frame} {s₀ : World}
    (own : silverColumns <+: s₀.silver.schema) {row : Row} (hrow : row ∈ (conformed env batch s₀).rows) :
    ∃ r ∈ batch.rows, coordinates row = coordinates r ∧
      (incompatible s₀.silver.schema batch.schema = [] → row = r) := by
  by_cases fits : incompatible s₀.silver.schema batch.schema = []
  · rw [conformed_of_fits fits] at hrow
    exact ⟨row, hrow, rfl, fun _ => rfl⟩
  · have listed : coordinates row ∈ (conformed env batch s₀).rows.map coordinates := List.mem_map_of_mem hrow
    rw [coordinates_conform env own] at listed
    obtain ⟨r, hr, same⟩ := List.mem_map.1 listed
    exact ⟨r, hr, same.symm, fun h => absurd h fits⟩

theorem conformed_image (env : Env) {batch : Frame} {s₀ : World}
    (own : silverColumns <+: s₀.silver.schema) {r : Row} (hr : r ∈ batch.rows) :
    ∃ row ∈ (conformed env batch s₀).rows, coordinates row = coordinates r ∧
      (incompatible s₀.silver.schema batch.schema = [] → row = r) := by
  by_cases fits : incompatible s₀.silver.schema batch.schema = []
  · refine ⟨r, ?_, rfl, fun _ => rfl⟩
    rw [conformed_of_fits fits]
    exact hr
  · have listed : coordinates r ∈ batch.rows.map coordinates := List.mem_map_of_mem hr
    rw [← coordinates_conform env own] at listed
    obtain ⟨row, hrow, same⟩ := List.mem_map.1 listed
    exact ⟨row, hrow, same, fun h => absurd h fits⟩

section Keeps

variable {env : Env} {batch batch' : Frame} {runId runId' pipeline : String} {s t : World} {begin : Instant}

theorem RunInvariant.still (h : RunInvariant runId batch s) (silver : t.silver = s.silver)
    (quarantine : t.quarantine = s.quarantine) (inserted : t.inserted = s.inserted) (clock : s.clock ≤ t.clock) :
    RunInvariant runId batch t where
  own := silver ▸ h.own
  clean := silver ▸ h.clean
  rejected q hq run := by
    rw [quarantine] at hq
    rw [silver]
    obtain ⟨r, hr, key, why⟩ := h.rejected q hq run
    refine ⟨r, hr, key, fun fits => ?_⟩
    obtain ⟨now, past, fails⟩ := why fits
    exact ⟨now, le_trans past clock, fails⟩
  inserted row hrow := by
    rw [inserted] at hrow
    rw [silver]
    obtain ⟨absorbed, r, hr, same, now, past, passes⟩ := h.inserted row hrow
    exact ⟨absorbed, r, hr, same, now, le_trans past clock, passes⟩

/-- What an attempt puts into the quarantine under the run id is about its batch. -/
theorem RunInvariant.rejects (h : RunInvariant runId batch s) (bronze : BronzeBatch batch)
    (belongs : runId' = runId → batch' = batch) {now quarantinedAt : Instant}
    (grown : s.silver.schema <+: t.silver.schema) (past : now ≤ t.clock) (clock : s.clock ≤ t.clock)
    (quarantine : t.quarantine = Table.insertNew QuarantineRow.key s.quarantine
      (quarantineRows runId' pipeline now quarantinedAt (conform env s.silver.schema batch')))
    {q : QuarantineRow} (hq : q ∈ t.quarantine) (run : q.runId = runId) :
    ∃ r ∈ batch.rows, q.key = (runId, coordinates r) ∧ (incompatible t.silver.schema batch.schema = [] →
      ∃ now ≤ t.clock, ¬ Passes now r ∧ q.failedChecks = (failedChecks now r).map Check.name) := by
  rw [quarantine] at hq
  rcases Table.mem_insertNew.1 hq with old | ⟨new, _⟩
  · obtain ⟨r, hr, key, why⟩ := h.rejected q old run
    refine ⟨r, hr, key, fun fits => ?_⟩
    obtain ⟨now, before, fails⟩ := why (fits_before grown fits)
    exact ⟨now, le_trans before clock, fails⟩
  · obtain ⟨row, hrow, fails, rfl⟩ := mem_quarantineRows.1 new
    have own_run : runId' = runId := run
    obtain rfl := belongs own_run
    obtain rfl := own_run
    obtain ⟨r, hr, same, fitting⟩ := conformed_origin env h.own hrow
    refine ⟨r, hr, ?_, fun fits => ?_⟩
    · rw [key_quarantineRow, same]
    · obtain rfl := fitting (fits_before grown fits)
      exact ⟨now, past, fails, rfl⟩

theorem Stage.keeps_run (h : RunInvariant runId batch s) (bronze : BronzeBatch batch)
    (belongs : runId' = runId → batch' = batch) (tick : s.clock ≤ begin)
    (stage : Stage env batch' runId' pipeline (s.at begin) t) : RunInvariant runId batch t := by
  cases stage with
  | begun b => exact h.still b.silver b.quarantine b.inserted (le_trans tick b.clock)
  | rejected r =>
    have clock : s.clock ≤ t.clock := le_trans tick (le_trans r.started r.clock)
    have still := (h.still (t := { t with quarantine := s.quarantine }) r.silver rfl r.inserted clock)
    refine ⟨still.own, still.clean, ?_, still.inserted⟩
    intro q hq run
    have grown : s.silver.schema <+: t.silver.schema := r.silver ▸ List.prefix_rfl
    exact h.rejects bronze belongs grown r.clock clock r.quarantine hq run
  | merged m =>
    have clock : s.clock ≤ t.clock := le_trans tick (le_trans m.started (le_trans m.order m.clock))
    have grown : s.silver.schema <+: t.silver.schema := m.grown
    refine ⟨h.own.trans grown, m.clean h.clean, ?_, ?_⟩
    · intro q hq run
      exact h.rejects bronze belongs grown (le_trans m.order m.clock) clock m.quarantine hq run
    · intro row hrow
      rw [m.inserted] at hrow
      rcases List.mem_append.1 hrow with old | new
      · obtain ⟨absorbed, r, hr, same, now, past, passes⟩ := h.inserted row old
        exact ⟨absorbed.grow grown, r, hr, same, now, le_trans past clock, passes⟩
      · obtain ⟨row', hrow', same⟩ := List.mem_map.1 new
        obtain ⟨rfl, rfl⟩ := Prod.mk.injEq .. ▸ same
        obtain rfl := belongs rfl
        obtain ⟨r, hr, passes, rfl⟩ := m.origin hrow'
        obtain ⟨fits, hr⟩ := passes_conform hr passes
        refine ⟨m.absorbed h.own fits, r, hr, ?_, _, le_trans m.order m.clock, passes⟩
        apply coordinates_congr
        intro c hc
        exact processedRow_validRow (by revert c; decide)

end Keeps

theorem runInvariant {env : Env} {batch : Frame} {runId : String} {s : World} (bronze : BronzeBatch batch)
    (h : (lake env (· ≤ ·) (RunsOf runId batch)).Reachable s) : RunInvariant runId batch s := by
  apply Reachable.of_stages (I := RunInvariant runId batch) h
  · intro t
    refine ⟨List.prefix_rfl, (by decide : silverColumns.typeOf .failedChecks = none), ?_, ?_⟩
    · intro q hq
      cases hq
    · intro row hrow
      cases hrow
  · intro k s begin t hs called ticked stage
    cases k with
    | validate batch' runId' pipeline => exact Stage.keeps_run hs bronze called ticked stage
    | refresh dates runId' =>
      have stage : RefreshStage dates (s.at begin) t := stage
      cases stage with
      | begun b => exact hs.still b.silver b.quarantine b.inserted (le_trans ticked b.clock)
      | refreshed r => exact hs.still r.silver r.quarantine r.inserted (le_trans ticked (le_trans r.started r.clock))

/-! ## One attempt that returns -/

section Completed

variable {env : Env} {batch : Frame} {runId pipeline : String} {before after : World} {begin : Instant}
  {now quarantinedAt processedAt : Instant} {unique : Frame}

theorem BronzeBatch.same_record (bronze : BronzeBatch batch) {r r' : Row} (hr : r ∈ batch.rows)
    (hr' : r' ∈ batch.rows) (same : coordinates r = coordinates r') : r = r' :=
  List.inj_on_of_nodup_map bronze.distinct hr hr' same

/-- After the attempt the quarantine has what it had, and the records that failed. -/
theorem Merged.quarantined_iff
    (m : Merged env batch runId pipeline (before.at begin) now quarantinedAt processedAt unique after)
    (bronze : BronzeBatch batch) (inv : RunInvariant runId batch before) {r : Row} (hr : r ∈ batch.rows) :
    Quarantined runId after r ↔
      Quarantined runId before r ∨ ¬ Passed before.silver.schema batch now r := by
  unfold Quarantined
  rw [m.quarantine, Table.mem_keys_insertNew]
  apply or_congr Iff.rfl
  constructor
  · intro rejected
    obtain ⟨q, hq, key⟩ := List.mem_map.1 rejected
    obtain ⟨row, hrow, fails, rfl⟩ := mem_quarantineRows.1 hq
    obtain ⟨r', hr', same, fitting⟩ := conformed_origin env inv.own hrow
    rw [key_quarantineRow, same] at key
    obtain rfl := bronze.same_record hr' hr (congrArg Prod.snd key)
    rintro ⟨fits, passes⟩
    rw [fitting fits] at fails
    exact fails passes
  · intro failed
    obtain ⟨row, hrow, same, fitting⟩ := conformed_image env inv.own hr
    have fails : ¬ Passes now row := by
      intro passes
      have fits := (passes_conform hrow passes).1
      rw [fitting fits] at passes
      exact failed ⟨fits, passes⟩
    refine List.mem_map.2 ⟨_, mem_quarantineRows.2 ⟨row, hrow, fails, rfl⟩, ?_⟩
    rw [key_quarantineRow, same]

/-- A record that passed has its event in Silver after the attempt. -/
theorem Merged.accepted_iff
    (m : Merged env batch runId pipeline (before.at begin) now quarantinedAt processedAt unique after)
    {r : Row} (hr : r ∈ batch.rows) :
    AcceptedIn batch before after r ↔ Passed before.silver.schema batch now r := by
  unfold AcceptedIn
  rw [m.checkedAt]
  constructor
  · exact And.left
  · rintro ⟨fits, passes⟩
    refine ⟨⟨fits, passes⟩, ?_⟩
    have same : conformed env batch (before.at begin) = batch := conformed_of_fits fits
    have checked : r ∈ (conformed env batch (before.at begin)).rows := by
      rw [same]
      exact hr
    have valid : validRow r ∈ (validFrame now (conformed env batch (before.at begin))).rows :=
      mem_validFrame.2 ⟨r, checked, passes, rfl⟩
    have kept : r .eventId ∈ unique.rows.map (· .eventId) := by
      have covered := m.distinct.covers _ valid
      rwa [validRow_of_ne (by decide) (by decide)] at covered
    obtain ⟨u, hu, same⟩ := List.mem_map.1 kept
    have prepared : r .eventId ∈ (preparedFrame unique processedAt).rows.map (· .eventId) := by
      rw [rows_preparedFrame]
      refine List.mem_map.2 ⟨_, List.mem_map_of_mem hu, ?_⟩
      exact (processedRow_of_ne (by decide)).trans same
    obtain ⟨mergeable, silver⟩ := m.silver
    rw [silver]
    exact Table.mem_keys_insertNew.2 (Or.inr prepared)

/-- A record a Silver row was inserted from passes at this attempt, whichever inserted it. -/
theorem Merged.passed_of_inserted
    (m : Merged env batch runId pipeline (before.at begin) now quarantinedAt processedAt unique after)
    (bronze : BronzeBatch batch) (inv : RunInvariant runId batch before) (tick : before.clock ≤ begin)
    {r : Row} (hr : r ∈ batch.rows) (inserted : InsertedFrom runId after r) :
    Passed before.silver.schema batch now r := by
  obtain ⟨row, hrow, same⟩ := inserted
  rw [m.inserted] at hrow
  rcases List.mem_append.1 hrow with old | new
  · obtain ⟨absorbed, r', hr', same', early, past, passes⟩ := inv.inserted row old
    obtain rfl := bronze.same_record hr hr' (same.symm.trans same')
    have later : early ≤ now := le_trans past (le_trans tick m.started)
    exact ⟨absorbed.fits bronze inv.clean, passes.later later⟩
  · obtain ⟨row', hrow', pair⟩ := List.mem_map.1 new
    obtain ⟨_, rfl⟩ := Prod.mk.injEq .. ▸ pair
    obtain ⟨r', hr', passes, rfl⟩ := m.origin hrow'
    obtain ⟨fits, hr'⟩ := passes_conform hr' passes
    have kept : coordinates (processedRow processedAt (validRow r')) = coordinates r' := by
      apply coordinates_congr
      intro c hc
      exact processedRow_validRow (by revert c; decide)
    obtain rfl := bronze.same_record hr hr' (same.symm.trans kept)
    exact ⟨fits, passes⟩

/-- A record that was quarantined before and passes now is one that came due. -/
theorem RunInvariant.cameDue_iff (inv : RunInvariant runId batch before) (bronze : BronzeBatch batch)
    (now : Instant) {r : Row} (hr : r ∈ batch.rows) : CameDue runId batch before now r ↔
      Quarantined runId before r ∧ Passed before.silver.schema batch now r := by
  constructor
  · rintro ⟨fits, ⟨q, hq, key, only⟩, t, due, date⟩
    refine ⟨List.mem_map.2 ⟨q, hq, key⟩, fits, ?_⟩
    obtain ⟨r', hr', key', why⟩ := inv.rejected q hq (congrArg Prod.fst key)
    obtain rfl := bronze.same_record hr hr' (congrArg Prod.snd (key.symm.trans key'))
    obtain ⟨early, _, _, names⟩ := why fits
    have failed : failedChecks early r = [.requestedAtNotFuture] := by
      apply List.map_injective_iff.2 Check.name_injective
      exact names.symm.trans only
    exact passes_of_due failed date due
  · rintro ⟨quarantined, fits, passes⟩
    obtain ⟨q, hq, key⟩ := List.mem_map.1 quarantined
    obtain ⟨r', hr', key', why⟩ := inv.rejected q hq (congrArg Prod.fst key)
    obtain rfl := bronze.same_record hr hr' (congrArg Prod.snd (key.symm.trans key'))
    obtain ⟨early, _, fails, names⟩ := why fits
    refine ⟨fits, ⟨q, hq, key, ?_⟩, passes.accepted.requestedAt⟩
    rw [names, failedChecks_of_passes_later fails passes]
    rfl

end Completed

/-- **Quarantined or accepted.** Let a run id belong to one Bronze microbatch, and let any
attempts of it and any other calls have happened. After an attempt that returns, each record
is either in the quarantine or accepted, and none in the quarantine is one that the run
inserted, exactly when no record came due: none that an earlier attempt had quarantined for
its future date alone is dated at or before the time this attempt checked it. -/
theorem quarantined_xor_accepted_iff {env : Env} {batch : Frame} {runId pipeline : String}
    {before after : World} (bronze : BronzeBatch batch)
    (h : (lake env (· ≤ ·) (RunsOf runId batch)).Reachable before)
    (session : (lake env (· ≤ ·) (RunsOf runId batch)).Session (.validate batch runId pipeline) before
      (.done (.ok ())) after) :
    (∀ r ∈ batch.rows, Xor (Quarantined runId after r) (AcceptedIn batch before after r) ∧
      ¬ (Quarantined runId after r ∧ InsertedFrom runId after r)) ↔
    ∀ r ∈ batch.rows, ¬ CameDue runId batch before after.checkedAt r := by
  have inv := runInvariant bronze h
  obtain ⟨begin, _, tick, _, completed⟩ := session_stage session
  have completed : Completed env batch runId pipeline (before.at begin) after := completed rfl
  rcases completed with ⟨empty, _⟩ | ⟨now, quarantinedAt, processedAt, unique, m⟩
  · rw [empty]
    simp
  apply forall₂_congr
  intro r hr
  rw [m.checkedAt]
  have quarantined := m.quarantined_iff bronze inv hr
  have accepted := m.accepted_iff hr
  have inserted := m.passed_of_inserted bronze inv tick hr
  have due := inv.cameDue_iff bronze now hr
  rw [quarantined, accepted, due]
  by_cases passed : Passed before.silver.schema batch now r
  · by_cases parked : Quarantined runId before r
    · simp [Xor, passed, parked]
    · simp [Xor, passed, parked]
  · have unread : ¬ InsertedFrom runId after r := fun h => passed (inserted h)
    simp [Xor, passed, unread]

/-! ## The records of the demo -/

theorem demoBatch_bronze : BronzeBatch demoBatch := ⟨by decide, by decide⟩

theorem mixedBatch_bronze : BronzeBatch mixedBatch := ⟨by decide, by decide⟩

theorem demoCall_runsOf : RunsOf "run" demoBatch demoCall := fun _ => rfl

/-- After the second attempt: the record without a reader is quarantined, the others are not. -/
theorem quarantined_xor_accepted_iff_demo :
    mixedLake.quarantine.map (·.failedChecks) = [["user_id_required"]] ∧ ∀ r ∈ mixedBatch.rows,
      Xor (Quarantined "run" mixedLake r) (AcceptedIn mixedBatch mixedStopped mixedLake r) ∧
        ¬ (Quarantined "run" mixedLake r ∧ InsertedFrom "run" mixedLake r) := by
  have called : RunsOf "run" mixedBatch (mixedCall "run") := fun _ => rfl
  have session : (lake demoEnv (· ≤ ·) (RunsOf "run" mixedBatch)).Session (mixedCall "run") mixedStopped
      (.done (.ok ())) mixedLake := session_returned called (by decide +kernel) (by decide +kernel)
  refine ⟨by decide +kernel,
    (quarantined_xor_accepted_iff mixedBatch_bronze (mixedStopped_reachable called (by decide)) session).2 ?_⟩
  rintro r _ ⟨_, ⟨q, hq, _, only⟩, _⟩
  have rejected : mixedStopped.quarantine.map (·.failedChecks) = [["user_id_required"]] := by decide +kernel
  have listed : q.failedChecks ∈ mixedStopped.quarantine.map (·.failedChecks) := List.mem_map_of_mem hq
  rw [rejected, List.mem_singleton, only] at listed
  exact absurd listed (by decide)

/-- The attempt at 5 finds the record in the future and stops after the quarantine. -/
def demoAhead : World := (World.bootstrap 0).stopped demoEnv demoCall 5 11

/-- The attempt at 20 merges it. -/
def demoDue : World := demoAhead.played demoEnv demoCall 20

/-- **Quarantined and accepted.** The record is rejected by an attempt that stops, and accepted
by the attempt that returns; it stays in the quarantine. -/
theorem quarantined_and_accepted :
    ∃ before after, (lake demoEnv (· ≤ ·) (RunsOf "run" demoBatch)).Reachable before ∧
      (lake demoEnv (· ≤ ·) (RunsOf "run" demoBatch)).Session demoCall before (.done (.ok ())) after ∧
      BronzeBatch demoBatch ∧ ∃ r ∈ demoBatch.rows, Quarantined "run" after r ∧
        AcceptedIn demoBatch before after r ∧ InsertedFrom "run" after r := by
  have reachable : (lake demoEnv (· ≤ ·) (RunsOf "run" demoBatch)).Reachable demoAhead :=
    Reachable.stopped (.init ⟨0, rfl⟩) demoCall_runsOf (by decide) 11
  have session : (lake demoEnv (· ≤ ·) (RunsOf "run" demoBatch)).Session demoCall demoAhead
      (.done (.ok ())) demoDue := session_returned demoCall_runsOf (by decide +kernel) (by decide +kernel)
  refine ⟨demoAhead, demoDue, reachable, session, demoBatch_bronze, demoRow, List.mem_singleton_self _, ?_, ?_, ?_⟩
  · unfold Quarantined
    decide +kernel
  · unfold AcceptedIn Passed
    decide +kernel
  · unfold InsertedFrom
    have same : demoDue.inserted.map (fun i => (i.1, coordinates i.2)) = [("run", coordinates demoRow)] := by
      decide +kernel
    obtain ⟨i, hi, pair⟩ := List.mem_map.1 (same ▸ List.mem_singleton_self _ :
      ("run", coordinates demoRow) ∈ demoDue.inserted.map fun i => (i.1, coordinates i.2))
    obtain ⟨run, coords⟩ := Prod.mk.injEq .. ▸ pair
    exact ⟨i.2, run ▸ hi, coords⟩

end Tikblog.Analytics
