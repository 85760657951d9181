import Tikblog.Analytics.Silver

/-!
# The records of a Bronze batch

A record is named by its Kafka coordinates. The checks may replace a batch by its quarantine
form, which keeps the coordinates of every row; and once a batch has been merged, Silver has
its columns, so that it fits Silver from then on.
-/

namespace Tikblog.Analytics

open Python Program

abbrev Coordinates := Option String × Option Int × Option Int

/-- `(kafka_topic, kafka_partition, kafka_offset)`. -/
def coordinates (row : Row) : Coordinates :=
  (row.string .kafkaTopic, row.int .kafkaPartition, row.bigint .kafkaOffset)

/-- A batch read from a Bronze table: its columns with their types, perhaps more columns,
and every record once. -/
structure BronzeBatch (batch : Frame) : Prop where
  columns : ∀ f ∈ bronzeColumns, batch.schema.typeOf f.1 = some f.2
  distinct : (batch.rows.map coordinates).Nodup

/-- The columns that the coordinates are read from. -/
def coordinateColumns : List Column := [.kafkaTopic, .kafkaPartition, .kafkaOffset]

theorem coordinates_congr {row row' : Row} (h : ∀ c ∈ coordinateColumns, row' c = row c) :
    coordinates row' = coordinates row := by
  have topic := h .kafkaTopic (by decide)
  have partition := h .kafkaPartition (by decide)
  have offset := h .kafkaOffset (by decide)
  simp [coordinates, Row.string, Row.int, Row.bigint, topic, partition, offset]

theorem coordinates_update {row : Row} {c : Column} {v : Option Value} (h : c ∉ coordinateColumns) :
    coordinates (Function.update row c v) = coordinates row := by
  apply coordinates_congr
  intro c' hc'
  have ne : c' ≠ c := by
    rintro rfl
    exact h hc'
  exact Function.update_of_ne ne ..

/-! ## A batch that does not fit -/

/-- Silver's own columns come first and keep their types. -/
theorem typeOf_own {schema : Schema} (h : silverColumns <+: schema) {f : Column × DataType}
    (hf : f ∈ silverColumns) : schema.typeOf f.1 = some f.2 := by
  obtain ⟨more, rfl⟩ := h
  have own : silverColumns.typeOf f.1 = some f.2 :=
    (Schema.mem_iff_typeOf (by decide)).1 hf
  rw [Schema.typeOf_append, own]
  rfl

/-- The text of the decode error. -/
def mismatchError (target actual : Schema) : String :=
  "schema_type_mismatch:" ++ ",".intercalate ((incompatible target actual).map Column.name)

/-- A row of a batch that does not fit, as it is checked. -/
def conformRow (env : Env) (target actual : Schema) (row : Row) : Row := fun c =>
  if c = .decodeError then some (.string (mismatchError target actual))
  else if target.typeOf c ≠ none ∧ actual.typeOf c ≠ target.typeOf c then none
  else if c = .rawValue then some (.string (env.toJson actual row))
  else row c

theorem rows_withColumn (frame : Frame) (c : Column) (t : DataType) (e : Row → Cell t) :
    (frame.withColumn c t e).rows = frame.rows.map fun row => Function.update row c ((e row).map (·.1)) :=
  rfl

/-- The typed nulls reset their columns and nothing else, in whatever order. -/
theorem rows_nulls (nulls : Schema) (frame : Frame) :
    (nulls.foldl (fun frame f => frame.withColumn f.1 f.2 fun _ => Cell.null f.2) frame).rows =
      frame.rows.map fun row c => if c ∈ nulls.columns then none else row c := by
  induction nulls generalizing frame with
  | nil => simp [Schema.columns]
  | cons f nulls ih =>
    have columns : Schema.columns (f :: nulls) = f.1 :: Schema.columns nulls := rfl
    rw [List.foldl_cons, ih, rows_withColumn, List.map_map, columns]
    apply List.map_congr_left
    intro row _
    funext c
    by_cases reset : c = f.1
    · subst reset
      simp [Cell.null]
    · simp [reset, Function.update_of_ne]

theorem mem_nulls {target : Frame} {actual : Schema} {c : Column} :
    c ∈ Schema.columns (target.schema.filter fun f => actual.typeOf f.1 ≠ some f.2) ↔
      target.schema.typeOf c ≠ none ∧ actual.typeOf c ≠ target.schema.typeOf c := by
  simp only [Schema.columns, List.mem_map, List.mem_filter, decide_eq_true_eq]
  constructor
  · rintro ⟨f, ⟨listed, differs⟩, rfl⟩
    have typed : target.schema.typeOf f.1 = some f.2 := (Schema.mem_iff_typeOf target.unique).1 listed
    rw [typed]
    exact ⟨Option.some_ne_none _, differs⟩
  · rintro ⟨present, differs⟩
    obtain ⟨t, typed⟩ := Option.ne_none_iff_exists'.1 present
    rw [typed] at differs
    exact ⟨(c, t), ⟨(Schema.mem_iff_typeOf target.unique).2 typed, differs⟩, rfl⟩

/-- **A batch that does not fit.** Every row as JSON, nulls in the columns that do not fit, and the
decode error, in this order of precedence from the last to the first. -/
theorem rows_conform (env : Env) {target batch : Frame}
    (differs : incompatible target.schema batch.schema ≠ []) :
    (conform env target.schema batch).rows = batch.rows.map (conformRow env target.schema batch.schema) := by
  unfold conform
  rw [if_neg differs]
  rw [rows_withColumn, rows_nulls, rows_withColumn, List.map_map, List.map_map]
  apply List.map_congr_left
  intro row _
  funext c
  have reset := @mem_nulls target batch.schema c
  rw [Function.comp_apply, Function.comp_apply, conformRow]
  by_cases error : c = .decodeError
  · subst error
    rw [Function.update_self, if_pos rfl]
    rfl
  rw [Function.update_of_ne error, if_neg error]
  by_cases null : target.schema.typeOf c ≠ none ∧ batch.schema.typeOf c ≠ target.schema.typeOf c
  · rw [if_pos (reset.2 null), if_pos null]
  rw [if_neg fun listed => null (reset.1 listed), if_neg null]
  by_cases raw : c = .rawValue
  · subst raw
    rw [Function.update_self, if_pos rfl]
    rfl
  · rw [Function.update_of_ne raw, if_neg raw]

/-- A column of Silver's type is kept, and what another type holds is not. -/
theorem conformRow_of_typed {env : Env} {target actual : Schema} {row : Row} {c : Column} {t : DataType}
    (own : target.typeOf c = some t) (typed : ∀ v, row c = some v → actual.typeOf c = some v.type)
    (error : c ≠ .decodeError) (raw : c ≠ .rawValue) :
    conformRow env target actual row c = (row c).filter fun v => v.type = t := by
  rw [conformRow, if_neg error, own]
  by_cases fits : actual.typeOf c = some t
  · rw [if_neg fun h => h.2 fits, if_neg raw]
    cases value : row c with
    | none => rfl
    | some v =>
      have same : v.type = t := Option.some.inj ((typed v value).symm.trans fits)
      rw [Option.filter_some, if_pos (decide_eq_true same)]
  · rw [if_pos ⟨Option.some_ne_none t, fits⟩]
    cases value : row c with
    | none => rfl
    | some v =>
      have other : v.type ≠ t := fun same => fits ((typed v value).trans (congrArg some same))
      rw [Option.filter_some, if_neg (by simpa only [decide_eq_true_eq] using other)]

section Reads

variable {row row' : Row} {c : Column}

theorem Row.string_congr (h : row' c = (row c).filter fun v => v.type = .string) :
    row'.string c = row.string c := by
  unfold Row.string
  rw [h]
  rcases row c with _ | ⟨_ | _ | _ | _ | _ | _⟩ <;> rfl

theorem Row.int_congr (h : row' c = (row c).filter fun v => v.type = .int) : row'.int c = row.int c := by
  unfold Row.int
  rw [h]
  rcases row c with _ | ⟨_ | _ | _ | _ | _ | _⟩ <;> rfl

theorem Row.bigint_congr (h : row' c = (row c).filter fun v => v.type = .bigint) :
    row'.bigint c = row.bigint c := by
  unfold Row.bigint
  rw [h]
  rcases row c with _ | ⟨_ | _ | _ | _ | _ | _⟩ <;> rfl

end Reads

/-- What the checks read of a record in place of what is read of a batch that does not fit. -/
theorem map_conform (env : Env) {α : Type} {read : Row → α} {target batch : Frame}
    (same : ∀ row ∈ batch.rows, read (conformRow env target.schema batch.schema row) = read row) :
    (conform env target.schema batch).rows.map read = batch.rows.map read := by
  by_cases fits : incompatible target.schema batch.schema = []
  · unfold conform
    rw [if_pos fits]
  · rw [rows_conform env fits, List.map_map]
    exact List.map_congr_left same

/-- The row that the checks see in place of a record has its coordinates. -/
theorem coordinates_conform (env : Env) {target batch : Frame} (own : silverColumns <+: target.schema) :
    (conform env target.schema batch).rows.map coordinates = batch.rows.map coordinates := by
  apply map_conform
  intro row member
  have kept (f : Column × DataType) (listed : f ∈ silverColumns) (error : f.1 ≠ .decodeError)
      (raw : f.1 ≠ .rawValue) : conformRow env target.schema batch.schema row f.1 =
        (row f.1).filter fun v => v.type = f.2 :=
    conformRow_of_typed (typeOf_own own listed) (batch.typed row member f.1) error raw
  unfold coordinates
  rw [Row.string_congr (kept (.kafkaTopic, .string) (by decide) (by decide) (by decide)),
    Row.int_congr (kept (.kafkaPartition, .int) (by decide) (by decide) (by decide)),
    Row.bigint_congr (kept (.kafkaOffset, .bigint) (by decide) (by decide) (by decide))]

/-- And it has its source. -/
theorem source_conform (env : Env) {target batch : Frame} (own : silverColumns <+: target.schema) :
    (conform env target.schema batch).rows.map (·.string .source) = batch.rows.map (·.string .source) := by
  apply map_conform
  intro row member
  have typed : target.schema.typeOf .source = some .string :=
    typeOf_own own (f := (.source, .string)) (by decide)
  exact Row.string_congr (conformRow_of_typed typed (batch.typed row member .source) (by decide) (by decide))

/-! ## Batches that fit Silver -/

theorem incompatible_eq_nil_iff {target actual : Schema} :
    incompatible target actual = [] ↔ ∀ f ∈ target, (actual.typeOf f.1 = none ∨ actual.typeOf f.1 = some f.2) ∧
      (eventColumns.typeOf f.1 ≠ none → actual.typeOf f.1 ≠ none) := by
  unfold incompatible
  rw [List.map_eq_nil_iff, List.filter_eq_nil_iff]
  apply forall₂_congr
  intro f _
  rw [decide_eq_true_eq]
  by_cases absent : actual.typeOf f.1 = none
  · simp [absent]
  · simp [absent]

theorem conformed_of_fits {env : Env} {batch : Frame} {s₀ : World}
    (fits : incompatible s₀.silver.schema batch.schema = []) : conformed env batch s₀ = batch := by
  unfold conformed conform
  rw [if_pos fits]

/-- A batch that fits a schema fits what the schema grew from. -/
theorem fits_before {target target' actual : Schema} (grown : target <+: target')
    (fits : incompatible target' actual = []) : incompatible target actual = [] := by
  apply incompatible_eq_nil_iff.2
  intro f hf
  exact incompatible_eq_nil_iff.1 fits f (grown.subset hf)

/-- Silver has the columns of the batch, apart from the one the checks drop. -/
def Absorbed (batch : Frame) (target : Schema) : Prop :=
  ∀ c t, batch.schema.typeOf c = some t → c ≠ .failedChecks → target.typeOf c = some t

theorem Absorbed.grow {batch : Frame} {target target' : Schema} (h : Absorbed batch target)
    (grown : target <+: target') : Absorbed batch target' := by
  intro c t hc ne
  obtain ⟨more, rfl⟩ := grown
  rw [Schema.typeOf_append, h c t hc ne]
  rfl

/-- What has been absorbed fits. -/
theorem Absorbed.fits {batch target : Frame} (h : Absorbed batch target.schema) (bronze : BronzeBatch batch)
    (clean : target.schema.typeOf .failedChecks = none) : incompatible target.schema batch.schema = [] := by
  apply incompatible_eq_nil_iff.2
  intro f hf
  have typed : target.schema.typeOf f.1 = some f.2 := (Schema.mem_iff_typeOf target.unique).1 hf
  have named : f.1 ≠ .failedChecks := by
    intro same
    rw [same, clean] at typed
    cases typed
  constructor
  · cases hc : batch.schema.typeOf f.1 with
    | none => exact Or.inl rfl
    | some t =>
      have same := h f.1 t hc named
      exact Or.inr (same.symm.trans typed)
  · intro event
    obtain ⟨t, ht⟩ := Option.ne_none_iff_exists'.1 event
    have listed : (f.1, t) ∈ eventColumns := (Schema.mem_iff_typeOf (by decide)).2 ht
    have present := bronze.columns (f.1, t) (List.mem_append_left _ listed)
    rw [present]
    exact Option.some_ne_none t

/-- The schema of the frame that is merged. -/
theorem typeOf_prepared {now processedAt : Instant} {batch unique : Frame}
    (schema : unique.schema = (validFrame now batch).schema) (c : Column) :
    (preparedFrame unique processedAt).schema.typeOf c =
      if c = .silverProcessedAt then some .timestamp
      else if c = .failedChecks then none
      else if c = .source then some .string
      else batch.schema.typeOf c := by
  show (unique.schema.set .silverProcessedAt .timestamp).typeOf c = _
  rw [schema, Schema.typeOf_set]
  show (if c = .silverProcessedAt then _ else ((batch.schema.set .source .string).drop .failedChecks).typeOf c) = _
  rw [Schema.typeOf_drop, Schema.typeOf_set]

section Merge

variable {env : Env} {batch : Frame} {runId pipeline : String} {s₀ s : World}
  {now quarantinedAt processedAt : Instant} {unique : Frame}

theorem Merged.schema_eq (h : Merged env batch runId pipeline s₀ now quarantinedAt processedAt unique s) :
    s.silver.schema = Frame.mergedSchema s₀.silver.schema (preparedFrame unique processedAt).schema := by
  obtain ⟨mergeable, silver⟩ := h.silver
  rw [silver]
  rfl

theorem Merged.grown (h : Merged env batch runId pipeline s₀ now quarantinedAt processedAt unique s) :
    s₀.silver.schema <+: s.silver.schema := by
  rw [h.schema_eq]
  exact List.prefix_append _ _

theorem Merged.clean (h : Merged env batch runId pipeline s₀ now quarantinedAt processedAt unique s)
    (clean : s₀.silver.schema.typeOf .failedChecks = none) : s.silver.schema.typeOf .failedChecks = none := by
  rw [h.schema_eq, Frame.typeOf_mergedSchema, clean, typeOf_prepared h.schema]
  rfl

/-- A merge of a batch that fits absorbs it. -/
theorem Merged.absorbed (h : Merged env batch runId pipeline s₀ now quarantinedAt processedAt unique s)
    (own : silverColumns <+: s₀.silver.schema) (fits : incompatible s₀.silver.schema batch.schema = []) :
    Absorbed batch s.silver.schema := by
  intro c t hc named
  rw [h.schema_eq, Frame.typeOf_mergedSchema]
  cases held : s₀.silver.schema.typeOf c with
  | some t' =>
    have member : (c, t') ∈ s₀.silver.schema := (Schema.mem_iff_typeOf s₀.silver.unique).2 held
    rcases (incompatible_eq_nil_iff.1 fits _ member).1 with absent | same
    · rw [hc] at absent
      cases absent
    · rw [hc] at same
      exact congrArg _ (Option.some.inj same).symm
  | none =>
    have unheld : ∀ f ∈ silverColumns, c ≠ f.1 := by
      rintro f hf rfl
      rw [typeOf_own own hf] at held
      cases held
    have source : c ≠ .source := unheld (.source, .string) (by decide)
    have processed : c ≠ .silverProcessedAt := unheld (.silverProcessedAt, .timestamp) (by decide)
    rw [typeOf_prepared h.schema, if_neg processed, if_neg named, if_neg source, conformed_of_fits fits, hc]
    rfl

end Merge

end Tikblog.Analytics
