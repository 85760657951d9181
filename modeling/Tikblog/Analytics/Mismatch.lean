import Mathlib.Data.List.Forall2
import Tikblog.Analytics.Balance

/-!
# A batch that does not fit

A column of another type, or an event column that is missing, makes the whole batch invalid: no
row of it reaches Silver, and every row is quarantined with its JSON. The JSON is put into
`raw_value` before the columns that do not fit are reset, and `raw_value` may be one of them.
-/

namespace Tikblog.Analytics

open Python Program Table

/-- The columns of the quarantine that are read from the batch, `source` and `raw_value` apart. -/
def quarantineColumns : List Column :=
  [.eventId, .userId, .writerId, .requestedAt, .kafkaTopic, .kafkaPartition, .kafkaOffset]

/-- What the quarantine holds in them. -/
def QuarantineRow.value (q : QuarantineRow) : Column → Option Value
  | .eventId => q.eventId.map .string
  | .userId => q.userId.map .string
  | .writerId => q.writerId.map .string
  | .requestedAt => q.requestedAt.map .timestamp
  | .kafkaTopic => q.kafkaTopic.map .string
  | .kafkaPartition => q.kafkaPartition.map .int
  | .kafkaOffset => q.kafkaOffset.map .bigint
  | _ => none

/-- The quarantine row of a row of a batch that does not fit. -/
structure Preserved (env : Env) (target actual : Schema) (row : Row) (q : QuarantineRow) : Prop where
  failed : Check.schemaAndDecode.name ∈ q.failedChecks
  raw : q.rawValue = some (env.toJson actual row)
  nulls : ∀ c ∈ quarantineColumns, actual.typeOf c ≠ target.typeOf c → q.value c = none
  source : actual.typeOf .source ≠ target.typeOf .source → q.source = some "UNKNOWN"

/-- The results of `schema_and_decode`: one for each source of the quarantined rows, RED, and
failing as many rows as the source has. -/
def DecodeResults (runId : String) (quarantined : List QuarantineRow) (s : World) : Prop :=
  ((resultsOf runId s).filter fun row => row.checkName = Check.schemaAndDecode.name).map
      (fun row => (row.source, row.status, row.totalRows, row.failedRows)) =
    (groups (·.source) quarantined).map fun source =>
      let rows := (quarantined.filter fun q => q.source = source).length
      (sourceOrUnknown source, Status.red, (rows : Int), (rows : Int))

/-- What a batch that does not fit leaves: no row in Silver, every row in the quarantine as it
arrived, and the results of the check. -/
def NothingLost (env : Env) (batch : Frame) (runId : String) (before after : World) : Prop :=
  after.silver.rows = before.silver.rows ∧ ∃ quarantined,
    after.quarantine = before.quarantine ++ quarantined ∧
    List.Forall₂ (Preserved env before.silver.schema batch.schema) batch.rows quarantined ∧
    DecodeResults runId quarantined after

/-! ## Every row fails -/

section Rows

variable {env : Env} {runId pipeline : String} {target batch : Frame} {now quarantinedAt : Instant}

theorem decode_fails {actual : Schema} {row : Row} :
    Check.schemaAndDecode ∈ failedChecks now (conformRow env target.schema actual row) := by
  apply mem_failedChecks.2
  have error : conformRow env target.schema actual row .decodeError =
      some (.string (mismatchError target.schema actual)) := rfl
  simp [Check.rule, error]

/-- The quarantine row of a row of the batch. -/
abbrev mismatchRow (env : Env) (runId pipeline : String) (now quarantinedAt : Instant)
    (target actual : Schema)
    (row : Row) : QuarantineRow :=
  quarantineRow runId pipeline quarantinedAt (checkedRow now (conformRow env target actual row))

theorem checkedRows_conform (differs : incompatible target.schema batch.schema ≠ []) :
    checkedRows now (conform env target.schema batch) =
      batch.rows.map fun row => checkedRow now (conformRow env target.schema batch.schema row) := by
  rw [checkedRows, rows_conform env differs, List.map_map]
  rfl

theorem quarantineRows_conform (differs : incompatible target.schema batch.schema ≠ []) :
    quarantineRows runId pipeline now quarantinedAt (conform env target.schema batch) =
      batch.rows.map (mismatchRow env runId pipeline now quarantinedAt target.schema batch.schema) := by
  rw [quarantineRows, checkedRows_conform differs, List.filter_eq_self.2, List.map_map]
  · rfl
  · intro checked member
    obtain ⟨row, _, rfl⟩ := List.mem_map.1 member
    exact decide_eq_true (List.ne_nil_of_mem decode_fails)

theorem validFrame_conform (differs : incompatible target.schema batch.schema ≠ []) :
    (validFrame now (conform env target.schema batch)).rows = [] := by
  apply List.eq_nil_iff_forall_not_mem.2
  intro row member
  obtain ⟨r, hr, passes, _⟩ := mem_validFrame.1 member
  exact differs (passes_conform hr passes).1

/-- A column that does not fit reads null. -/
theorem conformRow_null {actual : Schema} {row : Row} {c : Column} (error : c ≠ .decodeError)
    (present : target.schema.typeOf c ≠ none) (differs : actual.typeOf c ≠ target.schema.typeOf c) :
    conformRow env target.schema actual row c = none := by
  rw [conformRow, if_neg error, if_pos ⟨present, differs⟩]

theorem checkedRow_of_ne {row : Row} {c : Column} (h : c ≠ .source) : (checkedRow now row).row c = row c :=
  Function.update_of_ne h ..

/-- The JSON of a row stays where `raw_value` fits. -/
theorem rawValue_mismatchRow (own : silverColumns <+: target.schema) (row : Row) :
    (mismatchRow env runId pipeline now quarantinedAt target.schema batch.schema row).rawValue =
      if batch.schema.typeOf .rawValue = some .string then some (env.toJson batch.schema row) else none := by
  have typed : target.schema.typeOf .rawValue = some .string :=
    typeOf_own own (f := (.rawValue, .string)) (by decide)
  show (checkedRow now _).row.string .rawValue = _
  rw [Row.string, checkedRow_of_ne (by decide), conformRow, if_neg (by decide), typed]
  by_cases fits : batch.schema.typeOf .rawValue = some .string
  · rw [if_neg fun h => h.2 fits, if_pos rfl, if_pos fits]
  · rw [if_pos ⟨Option.some_ne_none _, fits⟩, if_neg fits]

/-- The others that do not fit are null. -/
theorem value_mismatchRow (own : silverColumns <+: target.schema) {c : Column}
    (listed : c ∈ quarantineColumns)
    (differs : batch.schema.typeOf c ≠ target.schema.typeOf c) (row : Row) :
    (mismatchRow env runId pipeline now quarantinedAt target.schema batch.schema row).value c = none := by
  have present : ∀ c ∈ quarantineColumns, ∃ f ∈ silverColumns, f.1 = c := by decide
  obtain ⟨f, inSilver, rfl⟩ := present c listed
  have null : (checkedRow now (conformRow env target.schema batch.schema row)).row f.1 = none := by
    have apart : ∀ c ∈ quarantineColumns, c ≠ .source ∧ c ≠ .decodeError := by decide
    rw [checkedRow_of_ne (apart f.1 listed).1]
    apply conformRow_null (apart f.1 listed).2 _ differs
    rw [typeOf_own own inSilver]
    exact Option.some_ne_none _
  simp only [quarantineColumns, List.mem_cons, List.not_mem_nil, or_false] at listed
  obtain named | named | named | named | named | named | named := listed <;> rw [named] at null ⊢ <;>
    simp [QuarantineRow.value, quarantineRow, Row.string, Row.timestamp, Row.int, Row.bigint, null]

theorem source_mismatchRow (own : silverColumns <+: target.schema)
    (differs : batch.schema.typeOf .source ≠ target.schema.typeOf .source) (row : Row) :
    (mismatchRow env runId pipeline now quarantinedAt target.schema batch.schema row).source = some "UNKNOWN" := by
  have null : conformRow env target.schema batch.schema row .source = none := by
    apply conformRow_null (by decide) _ differs
    rw [typeOf_own own (f := (.source, .string)) (by decide)]
    exact Option.some_ne_none _
  show (checkedRow now _).row.string .source = _
  rw [string_checkedRow, Row.string, null]
  rfl

/-! ## The results of the check -/

theorem filter_checks (row : Check → DqResult) (named : ∀ check, (row check).checkName = check.name) :
    (Check.all.map row).filter (fun r => r.checkName = Check.schemaAndDecode.name) = [row .schemaAndDecode] := by
  rw [List.filter_map]
  have only : Check.all.filter ((fun r : DqResult => decide (r.checkName = Check.schemaAndDecode.name)) ∘ row) =
      Check.all.filter fun check => check = .schemaAndDecode := by
    apply List.filter_congr
    intro check _
    simp only [Function.comp_apply, named, Check.name_injective.eq_iff]
  rw [only]
  rfl

/-- Where every row fails the check. -/
theorem filter_checkRows_decode {checked : List CheckedRow}
    (fails : ∀ c ∈ checked, Check.schemaAndDecode ∈ c.failedChecks) :
    ((checkRows env runId pipeline checked).filter fun row => row.checkName = Check.schemaAndDecode.name).map
        (fun row => (row.source, row.status, row.totalRows, row.failedRows)) =
      (groups (·.row.string .source) checked).map fun source =>
        let rows := (checked.filter fun c => c.row.string .source = source).length
        (sourceOrUnknown source, Status.red, (rows : Int), (rows : Int)) := by
  rw [checkRows, List.filter_flatMap, List.map_flatMap]
  have each (source : Option String) (listed : source ∈ groups (·.row.string .source) checked) :
      ((checked.filter fun c => c.row.string .source = source).filter fun c =>
        Check.schemaAndDecode ∈ c.failedChecks) = checked.filter fun c => c.row.string .source = source := by
    exact List.filter_eq_self.2 fun c member => decide_eq_true (fails c (List.mem_of_mem_filter member))
  refine (List.flatMap_congr fun source listed => ?_).trans List.map_eq_flatMap.symm
  dsimp only
  rw [filter_checks _ fun _ => rfl]
  obtain ⟨c, hc, same⟩ := mem_groups.1 listed
  have some_row : 0 < (checked.filter fun c => c.row.string .source = source).length :=
    List.length_pos_of_mem (List.mem_filter.2 ⟨hc, decide_eq_true same⟩)
  simp only [List.map_cons, List.map_nil, resultRow, each source listed]
  simp [dqStatus, some_row]

end Rows

section Run

variable {env : Env} {batch merged unique : Frame} {runId pipeline : String} {N : Instant → Prop} {s₀ s : World}
  {now quarantinedAt processedAt : Instant} {reports : List DqReport}

theorem Merged.silver_of_differs
    (m : Merged env batch runId pipeline s₀ now quarantinedAt processedAt merged s)
    (differs : incompatible s₀.silver.schema batch.schema ≠ []) : s.silver.rows = s₀.silver.rows := by
  have none_valid : merged.rows = [] := by
    apply List.eq_nil_iff_forall_not_mem.2
    intro row member
    have valid := m.distinct.subset member
    rw [validFrame_conform differs] at valid
    cases valid
  rw [m.rows, rows_preparedFrame, none_valid]
  exact List.append_nil _

theorem Merged.quarantine_of_differs
    (m : Merged env batch runId pipeline s₀ now quarantinedAt processedAt merged s)
    (fresh : quarantineOf runId s₀ = []) (differs : incompatible s₀.silver.schema batch.schema ≠ []) :
    s.quarantine = s₀.quarantine ++
      batch.rows.map (mismatchRow env runId pipeline now quarantinedAt s₀.silver.schema batch.schema) := by
  rw [m.quarantine_append fresh, quarantineRows_conform differs]

theorem Recorded.decodeResults (h : Recorded env batch runId pipeline N s₀ now unique reports s)
    (fresh : resultsOf runId s₀ = []) (differs : incompatible s₀.silver.schema batch.schema ≠ []) :
    DecodeResults runId
      (batch.rows.map (mismatchRow env runId pipeline now quarantinedAt s₀.silver.schema batch.schema)) s := by
  have rows := h.undated_resultsOf fresh
  simp only [attemptRows, duplicateRows, validFrame_conform differs, groups, List.map_nil, List.dedup_nil,
    List.append_nil] at rows
  have fails : ∀ c ∈ checkedRows now (conform env s₀.silver.schema batch),
      Check.schemaAndDecode ∈ c.failedChecks := by
    intro c member
    rw [checkedRows_conform differs] at member
    obtain ⟨row, _, rfl⟩ := List.mem_map.1 member
    exact decode_fails
  have results := @filter_checkRows_decode env runId pipeline _ fails
  rw [← rows, List.filter_map, List.map_map] at results
  refine Eq.trans results ?_
  -- the sources of the checked rows are those of the quarantine
  rw [checkedRows_conform differs]
  simp only [groups, List.map_map, List.filter_map, List.length_map]
  rfl

/-- **A batch that does not fit.** For every Silver table and every non-empty batch that does not
fit it, an execution under a fresh run id that returns inserts no row into Silver, quarantines
every row with its JSON and the other columns that do not fit null, and records the check as RED
for every row of every source, if and only if the `raw_value` of the batch is a string. -/
theorem nothing_lost_iff (own : silverColumns <+: s₀.silver.schema) (nonempty : batch.rows ≠ [])
    (differs : incompatible s₀.silver.schema batch.schema ≠ []) (fresh : Fresh runId s₀)
    (run : Prog.Run (LakeExec runId) (validateAndMerge env batch runId pipeline, s₀) (.done (.ok ()), s)) :
    NothingLost env batch runId s₀ s ↔ batch.schema.typeOf .rawValue = some .string := by
  obtain ⟨now, unique, reports, h⟩ := recorded_of_run nonempty run
  obtain ⟨_, quarantinedAt, processedAt, merged, m⟩ := merged_of_run nonempty run
  have both := h.checkedAt.symm.trans m.checkedAt
  subst both
  have quarantine := m.quarantine_of_differs fresh.quarantine differs
  constructor
  · rintro ⟨_, quarantined, appended, each, _⟩
    rw [quarantine] at appended
    obtain rfl := List.append_cancel_left appended
    obtain ⟨row, listed⟩ := List.exists_mem_of_ne_nil _ nonempty
    rw [List.forall₂_map_right_iff, List.forall₂_same] at each
    have raw := (each row listed).raw
    rw [rawValue_mismatchRow own] at raw
    by_contra reset
    rw [if_neg reset] at raw
    cases raw
  · intro text
    refine ⟨m.silver_of_differs differs, _, quarantine, ?_, h.decodeResults fresh.results differs⟩
    rw [List.forall₂_map_right_iff, List.forall₂_same]
    intro row _
    constructor
    · exact List.mem_map_of_mem decode_fails
    · rw [rawValue_mismatchRow own, if_pos text]
    · exact fun c listed other => value_mismatchRow own listed other row
    · exact fun other => source_mismatchRow own other row

end Run

/-! ## The JSON as one of the columns -/

/-- The record of the demo with a number for its reader. -/
def demoWrongType : Frame where
  schema := bronzeColumns.set .userId .int
  rows := [Function.update demoRow .userId (some (.int 123))]
  unique := Schema.nodup_set _ _ (by decide)
  typed := by
    intro row hrow
    obtain rfl := List.mem_singleton.1 hrow
    apply Row.typed_update
    · intro c other v hv
      rw [Schema.typeOf_set, if_neg other]
      exact demoRow_typed c v hv
    · rintro _ ⟨⟩
      rfl

theorem nothing_lost_iff_demo : NothingLost demoEnv demoWrongType "run" ((World.bootstrap 0).at 20)
    ((World.bootstrap 0).played demoEnv (.validate demoWrongType "run" "priority_bronze_to_silver") 20) := by
  have run : Prog.Run (LakeExec "run")
      (validateAndMerge demoEnv demoWrongType "run" "priority_bronze_to_silver", (World.bootstrap 0).at 20) _ :=
    run_returned (by decide +kernel)
  exact (nothing_lost_iff List.prefix_rfl (by decide) (by decide) ⟨rfl, rfl⟩ run).2 (by decide)

/-- The record of the demo with its Kafka bytes as they are. -/
def demoBinary : Frame where
  schema := bronzeColumns.set .rawValue (.other "binary")
  rows := [Function.update demoRow .rawValue (some (.other "binary" "\"AA==\""))]
  unique := Schema.nodup_set _ _ (by decide)
  typed := by
    intro row hrow
    obtain rfl := List.mem_singleton.1 hrow
    apply Row.typed_update
    · intro c other v hv
      rw [Schema.typeOf_set, if_neg other]
      exact demoRow_typed c v hv
    · rintro _ ⟨⟩
      rfl

/-- Quarantined at 20. -/
def demoBinaryQuarantined : World :=
  (World.bootstrap 0).played demoEnv (.validate demoBinary "run" "priority_bronze_to_silver") 20

/-- **The JSON is reset with the column it was put into.** -/
theorem raw_row_lost :
    Prog.Run (LakeExec "run")
      (validateAndMerge demoEnv demoBinary "run" "priority_bronze_to_silver", (World.bootstrap 0).at 20)
      (.done (.ok ()), demoBinaryQuarantined) ∧
    incompatible (World.bootstrap 0).silver.schema demoBinary.schema ≠ [] ∧
    (∀ f ∈ metaColumns, demoBinary.schema.typeOf f.1 ≠ none) ∧
    Fresh "run" ((World.bootstrap 0).at 20) ∧
    demoBinaryQuarantined.quarantine.map (·.rawValue) = [none] ∧
    ¬ NothingLost demoEnv demoBinary "run" ((World.bootstrap 0).at 20) demoBinaryQuarantined := by
  have raw : demoBinaryQuarantined.quarantine.map (·.rawValue) = [none] := by decide +kernel
  refine ⟨run_returned (by decide +kernel), by decide, by decide, ⟨rfl, rfl⟩, raw, ?_⟩
  rintro ⟨_, quarantined, appended, each, _⟩
  rw [appended] at raw
  cases each with
  | cons preserved _ =>
    have json := preserved.raw
    simp only [List.map_append, List.map_cons] at raw
    have first := (List.cons_eq_cons.1 raw).1
    rw [json] at first
    cases first

end Tikblog.Analytics
