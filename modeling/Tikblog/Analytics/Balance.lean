import Mathlib.Algebra.BigOperators.Ring.Finset
import Tikblog.Table.Counting
import Tikblog.Analytics.Recording
import Tikblog.Analytics.Quarantine

/-!
# Do the recorded numbers add up?

Every row of a batch is rejected, a duplicate within the batch, a duplicate of Silver or new in
Silver. The rejected and the new rows are counted once each; the duplicates are counted for each
source, while an event id is a duplicate whatever its source. So the numbers add up exactly when
no event id passes under two sources.
-/

namespace Tikblog.Analytics

open Python Program Table

/-! ## The numbers of a run -/

/-- The sum over sources of the `failed_rows` of a check. -/
def failedRowsOf (runId check : String) (s : World) : Int :=
  (((resultsOf runId s).filter fun row => row.checkName = check).map (·.failedRows)).sum

/-- The numbers of a batch that was merged between the two states. -/
def Balanced (batch : Frame) (runId : String) (before after : World) : Prop :=
  (batch.rows.length : Int) = (quarantineOf runId after).length +
    failedRowsOf runId "duplicate_event_id_in_batch" after +
    failedRowsOf runId "duplicate_event_id_already_in_silver" after +
    ((after.silver.rows.length : Int) - before.silver.rows.length)

instance (batch : Frame) (runId : String) (before after : World) :
    Decidable (Balanced batch runId before after) :=
  inferInstanceAs (Decidable (_ = _))

section Numbers

variable {env : Env} {batch : Frame} {runId pipeline : String} {now : Instant}

theorem filter_checkRows {checked : List CheckedRow} {check : String}
    (other : ∀ c ∈ Check.all, c.name ≠ check) :
    (checkRows env runId pipeline checked).filter (fun row => row.checkName = check) = [] := by
  apply List.filter_eq_nil_iff.2
  intro row member named
  obtain ⟨source, _, member⟩ := List.mem_flatMap.1 member
  obtain ⟨c, listed, rfl⟩ := List.mem_map.1 member
  exact other c listed (of_decide_eq_true named)

theorem filter_duplicateRows {check check' : String} {valid : List Row}
    {total failed : List Row → Option String → Nat} :
    (duplicateRows env runId pipeline check valid total failed).filter (fun row => row.checkName = check') =
      if check = check' then duplicateRows env runId pipeline check valid total failed else [] := by
  have named : ∀ row ∈ duplicateRows env runId pipeline check valid total failed, row.checkName = check :=
    by
    intro row member
    obtain ⟨source, _, rfl⟩ := List.mem_map.1 member
    rfl
  split
  · rename_i same
    exact List.filter_eq_self.2 fun row member => decide_eq_true ((named row member).trans same)
  · rename_i differ
    apply List.filter_eq_nil_iff.2
    intro row member named'
    exact differ ((named row member).symm.trans (of_decide_eq_true named'))

theorem attemptRows_inBatch {silver unique : Frame} :
    (attemptRows env runId pipeline silver batch now unique).filter
        (fun row => row.checkName = "duplicate_event_id_in_batch") =
      duplicateRows env runId pipeline "duplicate_event_id_in_batch"
        (validFrame now (conform env silver.schema batch)).rows (fun rows _ => rows.length)
        (fun rows _ => rows.length - countDistinct .eventId rows) := by
  rw [attemptRows, List.filter_append, List.filter_append, filter_checkRows (by decide), filter_duplicateRows,
    if_pos rfl, filter_duplicateRows, if_neg (by decide), List.nil_append, List.append_nil]

theorem attemptRows_inSilver {silver unique : Frame} :
    (attemptRows env runId pipeline silver batch now unique).filter
        (fun row => row.checkName = "duplicate_event_id_already_in_silver") =
      duplicateRows env runId pipeline "duplicate_event_id_already_in_silver"
        (validFrame now (conform env silver.schema batch)).rows (fun rows _ => countDistinct .eventId rows)
        (fun _ source => alreadyIn silver unique source) := by
  rw [attemptRows, List.filter_append, List.filter_append, filter_checkRows (by decide), filter_duplicateRows,
    if_neg (by decide), filter_duplicateRows, if_pos rfl, List.nil_append, List.nil_append]

/-- The sum over the sources. -/
theorem sum_failedRows {check : String} {valid : List Row} {total failed : List Row → Option String → Nat} :
    ((duplicateRows env runId pipeline check valid total failed).map (·.failedRows)).sum =
      (((groups (·.string .source) valid).map fun source =>
        failed (valid.filter fun row => row.string .source = source) source).sum : Nat) := by
  rw [duplicateRows, List.map_map, Nat.cast_list_sum, List.map_map]
  rfl

/-- The rows of a valid batch all have an event id. -/
theorem eventId_of_valid {row : Row} (h : row ∈ (validFrame now batch).rows) : row .eventId ≠ none := by
  obtain ⟨r, _, passes, rfl⟩ := mem_validFrame.1 h
  obtain ⟨id, value, _⟩ := passes.accepted.eventId
  rw [validRow_of_ne (by decide) (by decide), value]
  exact Option.some_ne_none _

/-- The distinct event ids of each source, added up. -/
def distinctBySource (valid : List Row) : Nat :=
  ((groups (·.string .source) valid).map fun source =>
    countDistinct .eventId (valid.filter fun row => row.string .source = source)).sum

/-- The rows of each source that are no duplicates within the batch. -/
theorem sum_inBatch (valid : List Row) : ((groups (·.string .source) valid).map fun source =>
      (valid.filter fun row => row.string .source = source).length -
        countDistinct .eventId (valid.filter fun row => row.string .source = source)).sum +
    distinctBySource valid = valid.length := by
  have all := @sum_length_groups _ _ _ (fun row : Row => row.string .source) _ valid nodup_groups
    fun r hr => mem_groups.2 ⟨r, hr, rfl⟩
  rw [distinctBySource, ← List.sum_map_add, ← all]
  congr 1
  apply List.map_congr_left
  intro source _
  exact Nat.sub_add_cancel (countDistinct_le .eventId _)

/-- The rows of each source that are duplicates of Silver. -/
theorem sum_inSilver {existing unique : Frame} {valid : List Row}
    (distinct : DistinctBy (· .eventId) valid unique.rows) (present : ∀ row ∈ valid, row .eventId ≠ none) :
    ((groups (·.string .source) valid).map fun source => alreadyIn existing unique source).sum =
      (unique.rows.filter fun row => row .eventId ∈ existing.rows.map (· .eventId)).length := by
  rw [← @sum_length_groups _ _ _ (fun row : Row => row.string .source) _ (unique.rows.filter _) nodup_groups]
  · congr 1
    apply List.map_congr_left
    intro source _
    rw [alreadyIn, List.filter_filter]
    congr 1
    apply List.filter_congr
    intro row member
    have some_id : (row .eventId).isSome = true :=
      Option.isSome_iff_ne_none.2 (present row (distinct.subset member))
    simp [some_id]
  · intro row member
    exact mem_groups.2 ⟨row, distinct.subset (List.mem_of_mem_filter member), rfl⟩

/-- A row is in the quarantine or valid. -/
theorem length_quarantineRows {quarantinedAt : Instant} :
    (quarantineRows runId pipeline now quarantinedAt batch).length + (validFrame now batch).rows.length =
      batch.rows.length := by
  have valid : (validFrame now batch).rows.length = (batch.rows.filter fun row => failedChecks now row = []).length := by
    simp [validFrame, Frame.drop, Frame.withColumn, Frame.filter]
  have failed : (quarantineRows runId pipeline now quarantinedAt batch).length =
      (batch.rows.filter fun row => !decide (failedChecks now row = [])).length := by
    rw [quarantineRows, List.length_map, checkedRows, List.filter_map, List.length_map]
    congr 1
    apply List.filter_congr
    intro row _
    by_cases passes : failedChecks now row = [] <;> simp [checkedRow, passes]
  have both :=
    List.length_eq_length_filter_add (l := batch.rows) fun row => decide (failedChecks now row = [])
  omega

/-- The event ids of valid rows, source by source, are those of them all exactly when no event id
passes under two sources. -/
theorem distinctBySource_eq_iff : distinctBySource (validFrame now batch).rows =
      ((validFrame now batch).rows.map (· .eventId)).dedup.length ↔
    ∀ r ∈ batch.rows, ∀ r' ∈ batch.rows, Passes now r → Passes now r' → r .eventId = r' .eventId →
      r .source = r' .source := by
  have counts : distinctBySource (validFrame now batch).rows =
      ((groups (·.string .source) (validFrame now batch).rows).map fun source =>
        (((validFrame now batch).rows.filter fun row => row.string .source = source).map
          (· .eventId)).dedup.length).sum := by
    unfold distinctBySource
    congr 1
    apply List.map_congr_left
    intro source _
    exact countDistinct_eq fun row member => eventId_of_valid (List.mem_of_mem_filter member)
  rw [counts, sum_distinct_eq_iff]
  have id_of (r : Row) : validRow r .eventId = r .eventId := validRow_of_ne (by decide) (by decide)
  have source_of {r : Row} (passes : Passes now r) : ∃ s, r .source = some (.string s) ∧
      (validRow r).string .source = some s := by
    obtain ⟨s, _, value⟩ := passes.accepted.source
    exact ⟨s, value, Row.string_eq_some.2 (validRow_source value)⟩
  constructor
  · intro one r hr r' hr' passes passes' same
    obtain ⟨s, value, read⟩ := source_of passes
    obtain ⟨s', value', read'⟩ := source_of passes'
    have both := one _ (mem_validFrame.2 ⟨r, hr, passes, rfl⟩) _ (mem_validFrame.2 ⟨r', hr', passes', rfl⟩)
      (by rw [id_of, id_of, same])
    rw [read, read', Option.some.injEq] at both
    rw [value, value', both]
  · intro one v hv v' hv' same
    obtain ⟨r, hr, passes, rfl⟩ := mem_validFrame.1 hv
    obtain ⟨r', hr', passes', rfl⟩ := mem_validFrame.1 hv'
    obtain ⟨s, value, read⟩ := source_of passes
    obtain ⟨s', value', read'⟩ := source_of passes'
    have both := one r hr r' hr' passes passes' (by rw [← id_of r, ← id_of r', same])
    rw [value, value', Option.some.injEq, Value.string.injEq] at both
    rw [read, read', both]

/-- The rows of a source that Silver holds are among its distinct ones. -/
theorem alreadyIn_le {existing unique : Frame} {valid : List Row}
    (distinct : DistinctBy (· .eventId) valid unique.rows) (present : ∀ row ∈ valid, row .eventId ≠ none)
    (source : Option String) : alreadyIn existing unique source ≤
      countDistinct .eventId (valid.filter fun row => row.string .source = source) := by
  rw [countDistinct_eq fun row member => present row (List.mem_of_mem_filter member), alreadyIn,
    ← List.length_map (f := fun row : Row => row .eventId)]
  apply List.Subperm.length_le
  apply List.subperm_of_subset
  · exact (List.filter_sublist.map _).nodup distinct.unique
  · intro id member
    obtain ⟨row, hrow, rfl⟩ := List.mem_map.1 member
    obtain ⟨chosen, held⟩ := List.mem_filter.1 hrow
    have of_source : row.string .source = source := (of_decide_eq_true held).1
    rw [List.mem_dedup]
    exact List.mem_map_of_mem (List.mem_filter.2 ⟨distinct.subset chosen, decide_eq_true of_source⟩)

theorem bounds_duplicateRows {check : String} {valid : List Row}
    {total failed : List Row → Option String → Nat}
    (le : ∀ source, failed (valid.filter fun row => row.string .source = source) source ≤
      total (valid.filter fun row => row.string .source = source) source) :
    ∀ row ∈ duplicateRows env runId pipeline check valid total failed,
      0 ≤ row.failedRows ∧ row.failedRows ≤ row.totalRows := by
  intro row member
  obtain ⟨source, _, rfl⟩ := List.mem_map.1 member
  exact ⟨Int.natCast_nonneg _, Int.ofNat_le.2 (le source)⟩

/-- No result counts more failed rows than rows. -/
theorem bounds_attemptRows {silver unique : Frame}
    (distinct : DistinctBy (· .eventId) (validFrame now (conform env silver.schema batch)).rows unique.rows) :
    ∀ row ∈ attemptRows env runId pipeline silver batch now unique,
      0 ≤ row.failedRows ∧ row.failedRows ≤ row.totalRows := by
  intro row member
  simp only [attemptRows, List.mem_append] at member
  obtain (checks | inBatch) | inSilver := member
  · obtain ⟨source, _, member⟩ := List.mem_flatMap.1 checks
    obtain ⟨check, _, rfl⟩ := List.mem_map.1 member
    exact ⟨Int.natCast_nonneg _, Int.ofNat_le.2 (List.length_filter_le ..)⟩
  · exact bounds_duplicateRows (fun source => Nat.sub_le ..) row inBatch
  · exact bounds_duplicateRows (alreadyIn_le distinct fun _ => eventId_of_valid) row inSilver

end Numbers

section Run

variable {env : Env} {batch : Frame} {runId pipeline : String} {N : Instant → Prop} {s₀ s : World}
  {now quarantinedAt processedAt : Instant} {unique merged : Frame} {reports : List DqReport}

theorem runId_of_quarantineRows {q : QuarantineRow}
    (h : q ∈ quarantineRows runId pipeline now quarantinedAt batch) : q.runId = runId := by
  obtain ⟨row, _, _, rfl⟩ := mem_quarantineRows.1 h
  rfl

/-- Under a fresh run id the rows that fail are added as they are. -/
theorem Merged.quarantine_append (m : Merged env batch runId pipeline s₀ now quarantinedAt processedAt merged s)
    (fresh : quarantineOf runId s₀ = []) : s.quarantine =
      s₀.quarantine ++ quarantineRows runId pipeline now quarantinedAt (conformed env batch s₀) := by
  rw [m.quarantine, insertNew]
  congr 1
  apply @newRows_of_fresh _ _ _ _ _ _ fun q : QuarantineRow => q.runId = runId
  · intro q q' same own
    exact (congrArg Prod.fst same).symm.trans own
  · intro q member own
    exact List.filter_eq_nil_iff.1 fresh q member (decide_eq_true own)
  · exact fun q member => runId_of_quarantineRows member

theorem Merged.quarantineOf_eq (m : Merged env batch runId pipeline s₀ now quarantinedAt processedAt merged s)
    (fresh : quarantineOf runId s₀ = []) :
    quarantineOf runId s = quarantineRows runId pipeline now quarantinedAt (conformed env batch s₀) := by
  rw [quarantineOf, m.quarantine_append fresh, List.filter_append]
  have old : s₀.quarantine.filter (fun q => q.runId = runId) = [] := fresh
  rw [old, List.nil_append]
  exact List.filter_eq_self.2 fun q member => decide_eq_true (runId_of_quarantineRows member)

theorem Merged.length_silver (m : Merged env batch runId pipeline s₀ now quarantinedAt processedAt merged s) :
    s.silver.rows.length = s₀.silver.rows.length +
      (merged.rows.filter fun row => !decide (row .eventId ∈ s₀.silver.rows.map (· .eventId))).length := by
  rw [m.rows, List.length_append, newRows, rows_preparedFrame, List.filter_map, List.length_map]
  congr 2
  apply List.filter_congr
  intro row _
  have same : processedRow processedAt row .eventId = row .eventId := processedRow_of_ne (by decide)
  simp only [Function.comp_apply, same, decide_not]

/-- The numbers add up when no event id passes under two sources, and not otherwise. -/
theorem balanced_iff (h : Recorded env batch runId pipeline N s₀ now unique reports s)
    (m : Merged env batch runId pipeline s₀ now quarantinedAt processedAt merged s) (fresh : Fresh runId s₀)
    (fits : incompatible s₀.silver.schema batch.schema = []) :
    Balanced batch runId s₀ s ↔ ∀ r ∈ batch.rows, ∀ r' ∈ batch.rows, Passes now r → Passes now r' →
      r .eventId = r' .eventId → r .source = r' .source := by
  have same : conformed env batch s₀ = batch := conformed_of_fits fits
  have unchanged : conform env s₀.silver.schema batch = batch := same
  have distinct := h.distinct
  have rejected := m.quarantineOf_eq fresh.quarantine
  have kept := m.distinct
  rw [same] at distinct rejected kept
  have valid_ids : ∀ row ∈ (validFrame now batch).rows, row .eventId ≠ none := fun _ => eventId_of_valid
  have sum (check : String) : failedRowsOf runId check s =
      (((attemptRows env runId pipeline s₀.silver batch now unique).filter
        fun row => row.checkName = check).map (·.failedRows)).sum := by
    rw [← h.undated_resultsOf fresh.results, List.filter_map, List.map_map]
    rfl
  have inBatch : failedRowsOf runId "duplicate_event_id_in_batch" s =
      (((groups (·.string .source) (validFrame now batch).rows).map fun source =>
        ((validFrame now batch).rows.filter fun row => row.string .source = source).length -
          countDistinct .eventId ((validFrame now batch).rows.filter fun row => row.string .source = source)).sum :
        Nat) := by
    rw [sum, attemptRows_inBatch, sum_failedRows, unchanged]
  have inSilver : failedRowsOf runId "duplicate_event_id_already_in_silver" s =
      (((groups (·.string .source) (validFrame now batch).rows).map fun source =>
        alreadyIn s₀.silver unique source).sum : Nat) := by
    rw [sum, attemptRows_inSilver, sum_failedRows, unchanged]
  have rows : (quarantineOf runId s).length + (validFrame now batch).rows.length = batch.rows.length := by
    rw [rejected]
    exact length_quarantineRows
  have by_source := sum_inBatch (validFrame now batch).rows
  have held := @sum_inSilver s₀.silver unique _ distinct valid_ids
  have split := distinct.length_filter_add kept fun id => decide (id ∈ s₀.silver.rows.map (· .eventId))
  have grown := m.length_silver
  rw [← distinctBySource_eq_iff, Balanced, inBatch, inSilver]
  omega

end Run

/-- **The recorded numbers add up exactly when no event id passes under two sources.** For every
non-empty batch that fits Silver, every Silver table and a fresh run id, after an execution that
returns: the rows of the batch are the rows quarantined, the duplicates recorded and the rows new
in Silver, with no result of more failed rows than rows, if and only if rows that pass every check
and share an event id share the source. -/
theorem results_add_up_iff {env : Env} {batch : Frame} {runId pipeline : String} {s₀ s : World}
    (nonempty : batch.rows ≠ []) (fits : incompatible s₀.silver.schema batch.schema = [])
    (fresh : Fresh runId s₀)
    (run : Prog.Run (LakeExec runId) (validateAndMerge env batch runId pipeline, s₀) (.done (.ok ()), s)) :
    (Balanced batch runId s₀ s ∧ ∀ row ∈ resultsOf runId s, 0 ≤ row.failedRows ∧ row.failedRows ≤ row.totalRows) ↔
      ∀ r ∈ batch.rows, ∀ r' ∈ batch.rows, Passes s.checkedAt r → Passes s.checkedAt r' →
        r .eventId = r' .eventId → r .source = r' .source := by
  obtain ⟨now, unique, reports, h⟩ := recorded_of_run nonempty run
  obtain ⟨_, quarantinedAt, processedAt, merged, m⟩ := merged_of_run nonempty run
  have both := h.checkedAt.symm.trans m.checkedAt
  subst both
  rw [h.checkedAt, ← balanced_iff h m fresh fits]
  apply and_iff_left
  intro row member
  have listed : row.undated ∈ attemptRows env runId pipeline s₀.silver batch now unique := by
    rw [← h.undated_resultsOf fresh.results]
    exact List.mem_map_of_mem member
  exact bounds_attemptRows h.distinct row.undated listed

/-! ## One event id under two sources -/

/-- The event of the demo again, reported by customer success. -/
def demoTwin : Row :=
  Function.update (Function.update demoRow .source (some (.string "CUSTOMER_SUCCESS")))
    .kafkaOffset (some (.bigint 1))

def demoTwins : Frame where
  schema := bronzeColumns
  rows := [demoRow, demoTwin]
  unique := bronzeColumns_nodup
  typed := by
    intro row hrow
    simp only [List.mem_cons, List.not_mem_nil, or_false] at hrow
    obtain rfl | rfl := hrow
    · exact demoRow_typed
    · apply Row.typed_update
      · intro c _
        apply Row.typed_update (fun c _ => demoRow_typed c)
        rintro _ ⟨⟩
        rfl
      · rintro _ ⟨⟩
        rfl

/-- Four records under another run id, two of them of an event that is in Silver already. -/
theorem results_add_up_iff_demo :
    Balanced mixedBatch "second" (demoLake.at 30) (demoLake.played demoEnv (mixedCall "second") 30) := by
  have one : ∀ r ∈ mixedBatch.rows, r .source = some (.string "UI") := by decide
  have fresh : Fresh "second" (demoLake.at 30) := ⟨by decide +kernel, by decide +kernel⟩
  refine ((results_add_up_iff (by decide) (by decide +kernel) fresh
    (run_returned (p := (mixedCall "second").program demoEnv) (by decide +kernel))).2 ?_).1
  exact fun r hr r' hr' _ _ _ => (one r hr).trans (one r' hr').symm

/-- The merge of both rows at 20. -/
def demoTwinsMerged : World :=
  (World.bootstrap 0).played demoEnv (.validate demoTwins "run" "priority_bronze_to_silver") 20

/-- **Two sources.** Neither row is counted as a duplicate, and one of them is not in Silver. -/
theorem two_sources_unbalanced :
    Prog.Run (LakeExec "run")
      (validateAndMerge demoEnv demoTwins "run" "priority_bronze_to_silver", (World.bootstrap 0).at 20)
      (.done (.ok ()), demoTwinsMerged) ∧
    incompatible (World.bootstrap 0).silver.schema demoTwins.schema = [] ∧
    Fresh "run" ((World.bootstrap 0).at 20) ∧ ¬ Balanced demoTwins "run" ((World.bootstrap 0).at 20) demoTwinsMerged := by
  refine ⟨run_returned ?_, by decide, ⟨rfl, rfl⟩, ?_⟩
  · decide +kernel
  · decide +kernel

end Tikblog.Analytics
