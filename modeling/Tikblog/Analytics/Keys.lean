import Mathlib.Data.List.ProdSigma
import Tikblog.Analytics.Recording
import Tikblog.Analytics.Quarantine

/-!
# The keys of the monitoring tables

`insert_once` keeps a key unique when it is unique within the rows it is given. Of one batch the
quarantine rows have the coordinates of different records, unless these differ only in a column
that is of another type and becomes null; and the results have different sources and checks,
unless the two normalisations of the source disagree: the frame turns null into "UNKNOWN", and
`dq_result` turns the empty string into it as well.
-/

namespace Tikblog.Analytics

open Python Program Table

/-- No record has an empty source next to one whose source is null or "UNKNOWN". -/
def Unmixed (batch : Frame) : Prop :=
  ∀ r ∈ batch.rows, ∀ r' ∈ batch.rows, r.string .source = some "" →
    r'.string .source ≠ none ∧ r'.string .source ≠ some "UNKNOWN"

instance (batch : Frame) : Decidable (Unmixed batch) :=
  inferInstanceAs (Decidable (∀ r ∈ batch.rows, ∀ r' ∈ batch.rows, _))

/-- No two records have the same coordinates, of whatever types these are. -/
def Located (batch : Frame) : Prop := batch.rows.Pairwise fun r r' => ∃ c ∈ coordinateColumns, r c ≠ r' c

instance (batch : Frame) : Decidable (Located batch) := inferInstanceAs (Decidable (List.Pairwise _ _))

/-- Records of different coordinates differ in one whose column has Bronze's type. -/
def TypedApart (batch : Frame) : Prop :=
  ∀ r ∈ batch.rows, ∀ r' ∈ batch.rows, (∃ c ∈ coordinateColumns, r c ≠ r' c) →
    ∃ c ∈ coordinateColumns, batch.schema.typeOf c = bronzeColumns.typeOf c ∧ r c ≠ r' c

instance (batch : Frame) : Decidable (TypedApart batch) :=
  inferInstanceAs (Decidable (∀ r ∈ batch.rows, ∀ r' ∈ batch.rows, _))

/-! ## The coordinates -/

section Coordinates

variable {row : Row} {c : Column}

/-- What is read at the type of a column is what is there. -/
theorem cell_of_string (typed : ∀ v, row c = some v → v.type = .string) : row c = (row.string c).map Value.string := by
  unfold Row.string
  cases cell : row c with
  | none => rfl
  | some v => cases v <;> first | rfl | cases typed _ cell

theorem cell_of_int (typed : ∀ v, row c = some v → v.type = .int) : row c = (row.int c).map Value.int := by
  unfold Row.int
  cases cell : row c with
  | none => rfl
  | some v => cases v <;> first | rfl | cases typed _ cell

theorem cell_of_bigint (typed : ∀ v, row c = some v → v.type = .bigint) : row c = (row.bigint c).map Value.bigint := by
  unfold Row.bigint
  cases cell : row c with
  | none => rfl
  | some v => cases v <;> first | rfl | cases typed _ cell

theorem cell_of_coordinates {batch : Frame} {r r' : Row} (hr : r ∈ batch.rows) (hr' : r' ∈ batch.rows)
    (same : coordinates r = coordinates r') (listed : c ∈ coordinateColumns)
    (typed : batch.schema.typeOf c = bronzeColumns.typeOf c) : r c = r' c := by
  have own {row : Row} (member : row ∈ batch.rows) : ∀ v, row c = some v → bronzeColumns.typeOf c = some v.type :=
    fun v held => typed.symm.trans (batch.typed row member c v held)
  simp only [coordinates, Prod.mk.injEq] at same
  simp only [coordinateColumns, List.mem_cons, List.not_mem_nil, or_false] at listed
  obtain rfl | rfl | rfl := listed
  · rw [cell_of_string fun v held => (Option.some.inj (own hr v held)).symm,
      cell_of_string fun v held => (Option.some.inj (own hr' v held)).symm, same.1]
  · rw [cell_of_int fun v held => (Option.some.inj (own hr v held)).symm,
      cell_of_int fun v held => (Option.some.inj (own hr' v held)).symm, same.2.1]
  · rw [cell_of_bigint fun v held => (Option.some.inj (own hr v held)).symm,
      cell_of_bigint fun v held => (Option.some.inj (own hr' v held)).symm, same.2.2]

/-- The records have different coordinates also as the quarantine reads them. -/
theorem nodup_coordinates {batch : Frame} (located : Located batch) (apart : TypedApart batch) :
    (batch.rows.map coordinates).Nodup := by
  rw [List.Nodup, List.pairwise_map]
  refine located.imp_of_mem fun hr hr' differ same => ?_
  obtain ⟨c, listed, typed, cells⟩ := apart _ hr _ hr' differ
  exact cells (cell_of_coordinates hr hr' same listed typed)

end Coordinates

/-! ## The results of one attempt -/

section Results

variable {env : Env} {runId pipeline : String} {batch : Frame} {now : Instant}

theorem checkRows_keys {checked : List CheckedRow} :
    (checkRows env runId pipeline checked).map DqResult.key =
    ((groups (·.row.string .source) checked).product Check.all).map fun p =>
      (runId, sourceOrUnknown p.1, p.2.name) := by
  simp only [checkRows, List.product, List.map_flatMap, List.map_map]
  rfl

theorem nodup_checkRows {checked : List CheckedRow}
    (named : Set.InjOn sourceOrUnknown { g | g ∈ groups (·.row.string .source) checked }) :
    ((checkRows env runId pipeline checked).map DqResult.key).Nodup := by
  rw [checkRows_keys]
  refine List.Nodup.map_on ?_ (nodup_groups.product (by decide))
  rintro ⟨g, check⟩ hp ⟨g', check'⟩ hp' same
  obtain ⟨hg, -⟩ := List.mem_product.1 hp
  obtain ⟨hg', -⟩ := List.mem_product.1 hp'
  simp only [Prod.mk.injEq, true_and] at same
  rw [named hg hg' same.1, Check.name_injective same.2]

theorem nodup_duplicateRows {check : String} {valid : List Row}
    {total failed : List Row → Option String → Nat}
    (named : Set.InjOn sourceOrUnknown { g | g ∈ groups (·.string .source) valid }) :
    ((duplicateRows env runId pipeline check valid total failed).map DqResult.key).Nodup := by
  rw [duplicateRows, List.map_map]
  refine List.Nodup.map_on ?_ nodup_groups
  intro g hg g' hg' same
  simp only [Function.comp_apply, DqResult.key, resultRow, Prod.mk.injEq, true_and, and_true] at same
  exact named hg hg' same

theorem injOn_checked (unmixed : Unmixed batch) :
    Set.InjOn sourceOrUnknown { g | g ∈ groups (·.row.string .source) (checkedRows now batch) } := by
  have source {g : Option String} (hg : g ∈ groups (·.row.string .source) (checkedRows now batch)) :
      ∃ r ∈ batch.rows, g = some ((r.string .source).getD "UNKNOWN") := by
    obtain ⟨c, hc, rfl⟩ := mem_groups.1 hg
    obtain ⟨r, hr, rfl⟩ := List.mem_map.1 hc
    exact ⟨r, hr, string_checkedRow⟩
  intro g hg g' hg' same
  obtain ⟨r, hr, rfl⟩ := source hg
  obtain ⟨r', hr', rfl⟩ := source hg'
  have never := unmixed r hr r' hr'
  have never' := unmixed r' hr' r hr
  cases value : r.string .source <;> cases value' : r'.string .source <;>
    rw [value, value'] at same never never' <;> simp only [Option.getD_none, Option.getD_some] at same ⊢ <;>
    simp only [sourceOrUnknown] at same <;> grind

theorem injOn_valid :
    Set.InjOn sourceOrUnknown { g | g ∈ groups (·.string .source) (validFrame now batch).rows } := by
  have source {g : Option String} (hg : g ∈ groups (·.string .source) (validFrame now batch).rows) :
      ∃ s, s ≠ "" ∧ g = some s := by
    obtain ⟨row, hrow, rfl⟩ := mem_groups.1 hg
    obtain ⟨r, _, passes, rfl⟩ := mem_validFrame.1 hrow
    obtain ⟨s, known, value⟩ := passes.accepted.source
    refine ⟨s, ?_, Row.string_eq_some.2 (validRow_source value)⟩
    rintro rfl
    revert known
    decide
  intro g hg g' hg' same
  obtain ⟨s, filled, rfl⟩ := source hg
  obtain ⟨s', filled', rfl⟩ := source hg'
  simpa [sourceOrUnknown, filled, filled'] using same

theorem checkName_of_checkRows {checked : List CheckedRow} {row : DqResult}
    (h : row ∈ checkRows env runId pipeline checked) : ∃ check : Check, row.checkName = check.name := by
  obtain ⟨source, _, member⟩ := List.mem_flatMap.1 h
  obtain ⟨check, _, rfl⟩ := List.mem_map.1 member
  exact ⟨check, rfl⟩

theorem checkName_of_duplicateRows {check : String} {valid : List Row}
    {total failed : List Row → Option String → Nat} {row : DqResult}
    (h : row ∈ duplicateRows env runId pipeline check valid total failed) : row.checkName = check := by
  obtain ⟨source, _, rfl⟩ := List.mem_map.1 h
  rfl

/-- The results of one attempt have different keys. -/
theorem nodup_attemptRows {silver unique : Frame} (own : silverColumns <+: silver.schema)
    (unmixed : Unmixed batch) :
    ((attemptRows env runId pipeline silver batch now unique).map DqResult.key).Nodup := by
  have conformed : Unmixed (conform env silver.schema batch) := by
    have same : (conform env silver.schema batch).rows.map (·.string .source) =
        batch.rows.map (·.string .source) := source_conform env own
    intro r hr r' hr' empty
    have listed : r.string .source ∈ batch.rows.map (·.string .source) := same ▸ List.mem_map_of_mem hr
    have listed' : r'.string .source ∈ batch.rows.map (·.string .source) := same ▸ List.mem_map_of_mem hr'
    obtain ⟨b, hb, source⟩ := List.mem_map.1 listed
    obtain ⟨b', hb', source'⟩ := List.mem_map.1 listed'
    exact source' ▸ unmixed b hb b' hb' (source.trans empty)
  simp only [attemptRows, List.map_append]
  refine List.nodup_append'.2 ⟨List.nodup_append'.2 ⟨nodup_checkRows (injOn_checked conformed),
    nodup_duplicateRows injOn_valid, ?_⟩, nodup_duplicateRows injOn_valid, ?_⟩
  · intro key first second
    obtain ⟨row, hrow, rfl⟩ := List.mem_map.1 first
    obtain ⟨row', hrow', same⟩ := List.mem_map.1 second
    obtain ⟨check, name⟩ := checkName_of_checkRows hrow
    have name' := checkName_of_duplicateRows hrow'
    have names : check.name = "duplicate_event_id_in_batch" :=
      name.symm.trans ((congrArg (·.2.2) same).symm.trans name')
    revert names
    cases check <;> decide
  · intro key first second
    obtain ⟨row', hrow', rfl⟩ := List.mem_map.1 second
    have name' := checkName_of_duplicateRows hrow'
    rw [← List.map_append] at first
    obtain ⟨row, hrow, same⟩ := List.mem_map.1 first
    have names : row.checkName = "duplicate_event_id_already_in_silver" :=
      (congrArg (·.2.2) same).trans name'
    obtain checks | inBatch := List.mem_append.1 hrow
    · obtain ⟨check, name⟩ := checkName_of_checkRows checks
      rw [name] at names
      revert names
      cases check <;> decide
    · rw [checkName_of_duplicateRows inBatch] at names
      revert names
      decide

/-- So have the rows it quarantines. -/
theorem nodup_quarantineRows {silver : Frame} {quarantinedAt : Instant}
    (own : silverColumns <+: silver.schema)
    (distinct : (batch.rows.map coordinates).Nodup) :
    ((quarantineRows runId pipeline now quarantinedAt (conform env silver.schema batch)).map
      QuarantineRow.key).Nodup := by
  have same : (conform env silver.schema batch).rows.map coordinates = batch.rows.map coordinates :=
    coordinates_conform env own
  rw [← same] at distinct
  have keyed (batch : Frame) : (quarantineRows runId pipeline now quarantinedAt batch).map QuarantineRow.key =
      ((batch.rows.filter fun row => ¬ Passes now row).map coordinates).map (Prod.mk runId) := by
    simp only [quarantineRows, checkedRows, List.filter_map, List.map_map]
    apply List.map_congr_left
    intro row _
    exact key_quarantineRow
  rw [keyed]
  exact ((List.filter_sublist.map _).nodup distinct).map (Prod.mk_right_injective runId)

end Results

/-! ## Every history -/

/-- The keys of the two tables. -/
structure KeysUnique (s : World) : Prop where
  results : (s.dqResults.map DqResult.key).Nodup
  quarantine : (s.quarantine.map QuarantineRow.key).Nodup

/-- The calls on records of different coordinates whose sources and coordinates do not clash. -/
def Separable : Call → Prop
  | .validate batch _ _ => Located batch ∧ Unmixed batch ∧ TypedApart batch
  | .refresh _ _ => False

section Histories

variable {env : Env} {tick : Instant → Instant → Prop} {allowed : Call → Prop}

/-- Silver's own columns stay the first. -/
theorem own_of_reachable {s : World} (h : (lake env tick allowed).Reachable s) :
    silverColumns <+: s.silver.schema := by
  apply h.invariant_of_ops
  · rintro s ⟨t, rfl⟩
    exact List.prefix_rfl
  · rintro k s s₀ own ⟨_, t, _, rfl⟩
    exact own
  · exact fun k o s a t own performed => own.trans performed.extends.columns

theorem Stage.keysUnique {batch : Frame} {runId pipeline : String} {s₀ s : World}
    (stage : Stage env batch runId pipeline s₀ s) (own : silverColumns <+: s₀.silver.schema)
    (distinct : (batch.rows.map coordinates).Nodup) (unique : (s₀.quarantine.map QuarantineRow.key).Nodup) :
    (s.quarantine.map QuarantineRow.key).Nodup := by
  cases stage with
  | begun h => exact h.quarantine ▸ unique
  | rejected h => exact h.quarantine ▸ nodup_insertNew unique (nodup_quarantineRows own distinct)
  | merged h => exact h.quarantine ▸ nodup_insertNew unique (nodup_quarantineRows own distinct)

theorem RecordStage.keysUnique {batch : Frame} {runId pipeline : String} {N : Instant → Prop} {s₀ s : World}
    (stage : RecordStage env batch runId pipeline N s₀ s) (own : silverColumns <+: s₀.silver.schema)
    (unmixed : Unmixed batch) (unique : (s₀.dqResults.map DqResult.key).Nodup) :
    (s.dqResults.map DqResult.key).Nodup := by
  cases stage with
  | unrecorded h => exact h.results ▸ unique
  | recorded h =>
    rw [h.results]
    apply nodup_insertNew unique
    have keys := congrArg (List.map DqResult.key) h.undated
    rw [List.map_map] at keys ⊢
    exact keys ▸ nodup_attemptRows own unmixed

theorem session_records {batch : Frame} {runId pipeline : String} {s t : World} {p : LakeM Unit}
    (session : (lake env tick allowed).Session (.validate batch runId pipeline) s p t) :
    ∃ begin, RecordStage env batch runId pipeline (fun _ => True) (s.at begin) t := by
  obtain ⟨_, ⟨_, begin, _, rfl⟩, run⟩ := session
  have always : Prog.Always (LakeExec runId)
      (fun _ => RecordStage env batch runId pipeline (fun _ => True) (s.at begin))
      (RecordEnded env batch runId pipeline (fun _ => True) (s.at begin))
      (validateAndMerge env batch runId pipeline) (s.at begin) := always_records
  exact ⟨begin, always.inv_of_run (fun _ _ h => h) (fun _ _ h => h.1) run⟩

/-- **Monitoring keys are unique** in every state of every history of calls, with any run ids and
stops anywhere, whose batches have records of different coordinates, no empty source next to a
null or unknown one, and no records that are told apart only by a coordinate of another type. -/
theorem monitoring_keys_unique {s : World} (h : (lake env tick Separable).Reachable s) : KeysUnique s := by
  induction h with
  | init h =>
    obtain ⟨t, rfl⟩ := h
    exact ⟨List.nodup_nil, List.nodup_nil⟩
  | session reachable session ih =>
    obtain ⟨begin, called, _, stage, _⟩ := session_stage session
    have own := own_of_reachable reachable
    cases ‹Call› with
    | refresh dates runId => exact called.elim
    | validate batch runId pipeline =>
      obtain ⟨_, records⟩ := session_records session
      exact ⟨records.keysUnique own called.2.1 ih.results,
        stage.keysUnique own (nodup_coordinates called.1 called.2.2) ih.quarantine⟩

end Histories

theorem mixedCall_separable (runId : String) : Separable (mixedCall runId) := ⟨by decide, by decide, by decide⟩

/-- Two attempts under one run id, and one under another. -/
theorem monitoring_keys_unique_demo :
    KeysUnique (mixedLake.played demoEnv (mixedCall "second") 40) ∧ mixedLake.quarantine.length = 1 ∧
      (mixedLake.played demoEnv (mixedCall "second") 40).quarantine.length = 2 := by
  have stopped : (lake demoEnv (· ≤ ·) Separable).Reachable mixedStopped :=
    mixedStopped_reachable (mixedCall_separable "run") (by decide)
  have first : (lake demoEnv (· ≤ ·) Separable).Reachable mixedLake :=
    stopped.session (session_played (mixedCall_separable "run") (by decide +kernel))
  have second : (lake demoEnv (· ≤ ·) Separable).Reachable (mixedLake.played demoEnv (mixedCall "second") 40) :=
    first.session (session_played (mixedCall_separable "second") (by decide +kernel))
  exact ⟨monitoring_keys_unique second, by decide +kernel, by decide +kernel⟩

/-! ## Two sources of one name, and two partitions that are not read -/

/-- The record of the demo without a source, and again with an empty one. -/
def demoMixed : Frame where
  schema := bronzeColumns
  rows := [Function.update demoRow .source none,
    Function.update (Function.update demoRow .source (some (.string ""))) .kafkaOffset (some (.bigint 1))]
  unique := bronzeColumns_nodup
  typed := by
    have sourced : ∀ cell : Option Value, (∀ v, cell = some v → v.type = .string) →
        ∀ c v, Function.update demoRow .source cell c = some v → bronzeColumns.typeOf c = some v.type := by
      intro cell text
      exact Row.typed_update (fun c _ => demoRow_typed c) fun v hv => (text v hv).symm ▸ rfl
    intro row hrow
    simp only [List.mem_cons, List.not_mem_nil, or_false] at hrow
    obtain rfl | rfl := hrow
    · exact sourced none fun v hv => by cases hv
    · apply Row.typed_update
      · exact fun c _ => sourced _ (by rintro _ ⟨⟩; rfl) c
      · rintro _ ⟨⟩
        rfl

/-- The attempt at 20. -/
def demoClash : World := (World.bootstrap 0).played demoEnv
    (.validate demoMixed "run" "priority_bronze_to_silver") 20

/-- The columns of Bronze with partitions of type BIGINT. -/
def wideColumns : Schema := bronzeColumns.map fun f => if f.1 = .kafkaPartition then (f.1, .bigint) else f

theorem wideColumns_typeOf : ∀ c ≠ .kafkaPartition, wideColumns.typeOf c = bronzeColumns.typeOf c := by
  intro c other
  cases c <;> first | exact absurd rfl other | rfl

/-- The record of the demo in two partitions. -/
def demoPartitions : Frame where
  schema := wideColumns
  rows := [Function.update demoRow .kafkaPartition (some (.bigint 0)),
    Function.update demoRow .kafkaPartition (some (.bigint 1))]
  unique := by decide
  typed := by
    have placed : ∀ n : Int, ∀ c v, Function.update demoRow .kafkaPartition (some (.bigint n)) c = some v →
        wideColumns.typeOf c = some v.type := by
      intro n
      apply Row.typed_update
      · intro c other v held
        rw [wideColumns_typeOf c other]
        exact demoRow_typed c v held
      · rintro _ ⟨⟩
        rfl
    intro row hrow
    simp only [List.mem_cons, List.not_mem_nil, or_false] at hrow
    obtain rfl | rfl := hrow
    · exact placed 0
    · exact placed 1

/-- The attempt at 20. -/
def demoUnread : World := (World.bootstrap 0).played demoEnv
    (.validate demoPartitions "run" "priority_bronze_to_silver") 20

/-- **Keys that clash.** The results of an empty and of a null source are both stored under the
source "UNKNOWN"; two partitions in a column of another type are both quarantined as null. -/
theorem monitoring_keys_clash :
    ((lake demoEnv (· ≤ ·) fun _ => True).Reachable demoClash ∧ Located demoMixed ∧
      ¬ (demoClash.dqResults.map DqResult.key).Nodup) ∧
    (lake demoEnv (· ≤ ·) fun _ => True).Reachable demoUnread ∧ Located demoPartitions ∧
      ¬ (demoUnread.quarantine.map QuarantineRow.key).Nodup := by
  refine ⟨⟨.session (.init ⟨0, rfl⟩) (session_played trivial (by decide)), by decide, ?_⟩,
    .session (.init ⟨0, rfl⟩) (session_played trivial (by decide)), by decide, ?_⟩
  · decide +kernel
  · decide +kernel

end Tikblog.Analytics
