import Tikblog.Analytics.Pipeline

/-!
# What passing every check means

The checks are three-valued: a rule that is null fails. `Passes` reads them back as facts
about the values of a row, and the lemmas on `validFrame` and `preparedFrame` say which
rows the merge is given.
-/

namespace Tikblog.Analytics

open Python Program

/-- Every rule holds. -/
def Passes (now : Instant) (row : Row) : Prop := failedChecks now row = []

instance (now : Instant) (row : Row) : Decidable (Passes now row) :=
  inferInstanceAs (Decidable (_ = _))

theorem Check.mem_all (check : Check) : check ∈ Check.all := by cases check <;> decide

theorem mem_failedChecks {now : Instant} {row : Row} {check : Check} :
    check ∈ failedChecks now row ↔ check.rule now row ≠ some true := by
  unfold failedChecks
  rw [List.mem_filter]
  constructor
  · rintro ⟨_, fails⟩ holds
    rw [holds] at fails
    cases fails
  · intro fails
    refine ⟨check.mem_all, ?_⟩
    cases rule : check.rule now row with
    | none => rfl
    | some b =>
      cases b with
      | false => rfl
      | true => exact absurd rule fails

theorem passes_iff {now : Instant} {row : Row} :
    Passes now row ↔ ∀ check : Check, check.rule now row = some true := by
  constructor
  · intro passes check
    by_contra fails
    have member := mem_failedChecks.2 fails
    rw [passes] at member
    cases member
  · intro holds
    apply List.eq_nil_iff_forall_not_mem.2
    intro check member
    exact mem_failedChecks.1 member (holds check)

/-! ## The rules as facts about values -/

theorem Row.string_eq_some {row : Row} {c : Column} {s : String} :
    row.string c = some s ↔ row c = some (.string s) := by
  unfold Row.string
  split
  · rename_i t ht
    rw [ht]
    simp
  · rename_i other
    constructor
    · intro h
      cases h
    · intro h
      exact absurd h (other s)

theorem Row.timestamp_eq_some {row : Row} {c : Column} {t : Instant} :
    row.timestamp c = some t ↔ row c = some (.timestamp t) := by
  unfold Row.timestamp
  split
  · rename_i u hu
    rw [hu]
    simp
  · rename_i other
    constructor
    · intro h
      cases h
    · intro h
      exact absurd h (other t)

/-- The column holds a string with something else than spaces in it. -/
def NotBlank (row : Row) (c : Column) : Prop := ∃ s, row c = some (.string s) ∧ trim s ≠ ""

theorem notBlank_eq_true {row : Row} {c : Column} : notBlank row c = some true ↔ NotBlank row c := by
  unfold notBlank NotBlank
  constructor
  · intro h
    cases text : row.string c with
    | none =>
      rw [text] at h
      cases present : (row c).isSome <;> rw [present] at h <;> cases h
    | some s =>
      refine ⟨s, Row.string_eq_some.1 text, ?_⟩
      intro blank
      rw [text] at h
      cases present : (row c).isSome <;> rw [present] at h <;> simp [blank, sqlAnd] at h
  · rintro ⟨s, value, filled⟩
    rw [Row.string_eq_some.2 value, value]
    simp [sqlAnd, filled]

/-- What a row that passes holds. -/
structure Accepted (now : Instant) (row : Row) : Prop where
  eventId : NotBlank row .eventId
  userId : NotBlank row .userId
  writerId : NotBlank row .writerId
  source : ∃ s ∈ sources, row .source = some (.string s)
  requestedAt : ∃ t ≤ now, row .requestedAt = some (.timestamp t)
  decodeError : row .decodeError = none

theorem Passes.accepted {now : Instant} {row : Row} (h : Passes now row) : Accepted now row := by
  have rule := passes_iff.1 h
  constructor
  · exact notBlank_eq_true.1 (rule .eventIdRequired)
  · exact notBlank_eq_true.1 (rule .userIdRequired)
  · exact notBlank_eq_true.1 (rule .writerIdRequired)
  · obtain ⟨s, value, known⟩ := Option.map_eq_some_iff.1 (rule .sourceValid)
    exact ⟨s, of_decide_eq_true known, Row.string_eq_some.1 value⟩
  · obtain ⟨t, value, past⟩ := Option.map_eq_some_iff.1 (rule .requestedAtNotFuture)
    exact ⟨t, of_decide_eq_true past, Row.timestamp_eq_some.1 value⟩
  · have absent : (row .decodeError).isNone = true := Option.some.inj (rule .schemaAndDecode)
    exact Option.isNone_iff_eq_none.1 absent

/-- Only one rule looks at the clock. -/
theorem rule_congr (now now' : Instant) {row : Row} {check : Check} (h : check ≠ .requestedAtNotFuture) :
    check.rule now row = check.rule now' row := by
  cases check <;> first | rfl | exact absurd rfl h

/-- A row that passes does so at any other time its date is not ahead of. -/
theorem Passes.at {now now' : Instant} {row : Row} (h : Passes now row)
    (due : ∀ t, row .requestedAt = some (.timestamp t) → t ≤ now → t ≤ now') : Passes now' row := by
  apply passes_iff.2
  intro check
  by_cases clock : check = .requestedAtNotFuture
  · obtain ⟨t, past, value⟩ := h.accepted.requestedAt
    subst clock
    simp [Check.rule, Row.timestamp_eq_some.2 value, due t value past]
  · rw [rule_congr now' now clock]
    exact passes_iff.1 h check

/-- A row that passes goes on passing. -/
theorem Passes.later {now now' : Instant} {row : Row} (h : Passes now row) (le : now ≤ now') :
    Passes now' row :=
  h.at fun _ _ past => le_trans past le

/-! ## The rows of the merge -/

/-- A row that passed, as it leaves the checks. -/
def validRow (row : Row) : Row :=
  Function.update (Function.update row .source ((knownSource row).map (·.1))) .failedChecks none

theorem validRow_of_ne {row : Row} {c : Column} (source : c ≠ .source) (failed : c ≠ .failedChecks) :
    validRow row c = row c := by
  unfold validRow
  rw [Function.update_of_ne failed, Function.update_of_ne source]

theorem validRow_source {row : Row} {s : String} (h : row .source = some (.string s)) :
    validRow row .source = some (.string s) := by
  have known : row.string .source = some s := Row.string_eq_some.2 h
  simp [validRow, knownSource, known, Cell.string, Function.update]

theorem mem_validFrame {now : Instant} {batch : Frame} {row : Row} :
    row ∈ (validFrame now batch).rows ↔ ∃ r ∈ batch.rows, Passes now r ∧ row = validRow r := by
  simp only [validFrame, Frame.drop, Frame.withColumn, Frame.filter, List.mem_map, List.mem_filter,
    decide_eq_true_eq]
  constructor
  · rintro ⟨_, ⟨r, ⟨hr, passes⟩, rfl⟩, rfl⟩
    exact ⟨r, hr, passes, rfl⟩
  · rintro ⟨r, hr, passes, rfl⟩
    exact ⟨_, ⟨r, ⟨hr, passes⟩, rfl⟩, rfl⟩

/-- A row with the time it enters Silver. -/
def processedRow (processedAt : Instant) (row : Row) : Row :=
  Function.update row .silverProcessedAt (some (.timestamp processedAt))

theorem processedRow_of_ne {processedAt : Instant} {row : Row} {c : Column} (h : c ≠ .silverProcessedAt) :
    processedRow processedAt row c = row c :=
  Function.update_of_ne h ..

theorem processedRow_self {processedAt : Instant} {row : Row} :
    processedRow processedAt row .silverProcessedAt = some (.timestamp processedAt) :=
  Function.update_self ..

theorem rows_preparedFrame (unique : Frame) (processedAt : Instant) :
    (preparedFrame unique processedAt).rows = unique.rows.map (processedRow processedAt) := rfl

/-- Only rows of a batch that fits Silver can pass: the others carry a decode error. -/
theorem passes_conform {env : Env} {target : Schema} {batch : Frame} {now : Instant} {row : Row}
    (hrow : row ∈ (conform env target batch).rows) (passes : Passes now row) :
    incompatible target batch.schema = [] ∧ row ∈ batch.rows := by
  unfold conform at hrow
  split at hrow
  · rename_i fits
    exact ⟨fits, hrow⟩
  · obtain ⟨r, _, rfl⟩ := List.mem_map.1 hrow
    have error := passes.accepted.decodeError
    rw [Function.update_self] at error
    cases error

section Merge

variable {env : Env} {batch : Frame} {runId pipeline : String} {s₀ s : World}
  {now quarantinedAt processedAt : Instant} {unique : Frame}

/-- A row that the merge inserts comes from a record of the batch that passed. -/
theorem Merged.origin (h : Merged env batch runId pipeline s₀ now quarantinedAt processedAt unique s) {row : Row}
    (hrow : row ∈ Table.newRows (· .eventId) s₀.silver.rows (preparedFrame unique processedAt).rows) :
    ∃ r ∈ (conformed env batch s₀).rows, Passes now r ∧ row = processedRow processedAt (validRow r) := by
  have prepared := (Table.mem_newRows.1 hrow).1
  rw [rows_preparedFrame] at prepared
  obtain ⟨u, hu, rfl⟩ := List.mem_map.1 prepared
  obtain ⟨r, hr, passes, rfl⟩ := mem_validFrame.1 (h.distinct.subset hu)
  exact ⟨r, hr, passes, rfl⟩

/-- Silver after the merge: what it held, and the new rows. -/
theorem Merged.rows (h : Merged env batch runId pipeline s₀ now quarantinedAt processedAt unique s) :
    s.silver.rows = s₀.silver.rows ++
      Table.newRows (· .eventId) s₀.silver.rows (preparedFrame unique processedAt).rows := by
  obtain ⟨mergeable, silver⟩ := h.silver
  rw [silver]
  rfl

theorem Merged.unique_prepared
    (h : Merged env batch runId pipeline s₀ now quarantinedAt processedAt unique s) :
    ((preparedFrame unique processedAt).rows.map (· .eventId)).Nodup := by
  have same : (preparedFrame unique processedAt).rows.map (· .eventId) = unique.rows.map (· .eventId) := by
    rw [rows_preparedFrame, List.map_map]
    apply List.map_congr_left
    intro row _
    exact processedRow_of_ne (by decide)
  rw [same]
  exact h.distinct.unique

end Merge

end Tikblog.Analytics
