import Tikblog.Python.Runtime
import Tikblog.Table.Keyed

/-!
# Data frames

Spark frames as the analytics jobs use them: a schema, and rows that hold a value of the
column's type or null. `Frame.typed` carries the typing, so that a column outside the
schema reads null on every row and an operation cannot build an ill-typed row.
-/

namespace Tikblog.Analytics

open Python

/-- The columns the jobs name; `other` is any further column of an evolved contract. -/
inductive Column where
  | eventId
  | userId
  | writerId
  | source
  | requestedAt
  | requestId
  | csAgentId
  | legalBatchId
  | schemaId
  | kafkaTopic
  | kafkaPartition
  | kafkaOffset
  | kafkaTimestamp
  | bronzeIngestedAt
  | eventDate
  | decodeError
  | rawValue
  | silverProcessedAt
  | failedChecks
  | other (name : String)
  deriving DecidableEq, Repr

def Column.name : Column → String
  | eventId => "event_id"
  | userId => "user_id"
  | writerId => "writer_id"
  | source => "source"
  | requestedAt => "requested_at"
  | requestId => "request_id"
  | csAgentId => "cs_agent_id"
  | legalBatchId => "legal_batch_id"
  | schemaId => "schema_id"
  | kafkaTopic => "kafka_topic"
  | kafkaPartition => "kafka_partition"
  | kafkaOffset => "kafka_offset"
  | kafkaTimestamp => "kafka_timestamp"
  | bronzeIngestedAt => "bronze_ingested_at"
  | eventDate => "event_date"
  | decodeError => "decode_error"
  | rawValue => "raw_value"
  | silverProcessedAt => "silver_processed_at"
  | failedChecks => "failed_checks"
  | other name => name

/-- The types of the tables' columns; `other` is any type none of them has. -/
inductive DataType where
  | string
  | timestamp
  | int
  | bigint
  | date
  | other (name : String)
  deriving DecidableEq, Repr

/-- Days since 1970-01-01. -/
abbrev Date := Int

-- for the membership tests of dates
instance : LawfulBEq (Option Date) := inferInstance

inductive Value where
  | string (s : String)
  | timestamp (t : Instant)
  | int (n : Int)
  | bigint (n : Int)
  | date (d : Date)
  | other (type json : String)
  deriving DecidableEq, Repr

@[simp] def Value.type : Value → DataType
  | string _ => .string
  | timestamp _ => .timestamp
  | int _ => .int
  | bigint _ => .bigint
  | date _ => .date
  | other type _ => .other type

/-! ## Schemas -/

abbrev Schema := List (Column × DataType)

namespace Schema

/-- The type of a column, none where the schema has no such column. -/
def typeOf (schema : Schema) (c : Column) : Option DataType := schema.lookup c

/-- `withColumn` on the schema: a column that exists keeps its place. -/
def set (schema : Schema) (c : Column) (t : DataType) : Schema :=
  schema.map (fun f => if f.1 = c then (c, t) else f) ++
    if schema.typeOf c = none then [(c, t)] else []

def drop (schema : Schema) (c : Column) : Schema := schema.filter fun f => f.1 ≠ c

/-- The columns of `added` that `schema` does not have. -/
def missing (schema added : Schema) : Schema := added.filter fun f => schema.typeOf f.1 = none

variable {schema : Schema}

@[simp] theorem typeOf_nil (c : Column) : typeOf [] c = none := rfl

@[simp] theorem typeOf_cons (f : Column × DataType) (c : Column) :
    typeOf (f :: schema) c = if c = f.1 then some f.2 else schema.typeOf c := by
  unfold typeOf
  rw [List.lookup_cons]
  by_cases h : c = f.1
  · simp [h]
  · have ne : (c == f.1) = false := beq_false_of_ne h
    simp [ne, h]

theorem exists_mem_of_typeOf {c : Column} {t : DataType} (h : schema.typeOf c = some t) :
    ∃ f ∈ schema, f.1 = c := by
  induction schema with
  | nil => simp at h
  | cons f schema ih =>
    rw [typeOf_cons] at h
    split at h
    · rename_i same
      exact ⟨f, List.mem_cons_self, same.symm⟩
    · obtain ⟨g, hg, hc⟩ := ih h
      exact ⟨g, List.mem_cons_of_mem _ hg, hc⟩

theorem typeOf_append (a b : Schema) (c : Column) :
    typeOf (a ++ b) c = (a.typeOf c).or (b.typeOf c) := by
  induction a with
  | nil => simp
  | cons f a ih =>
    rw [List.cons_append, typeOf_cons, typeOf_cons, ih]
    split <;> rfl

theorem typeOf_filter (schema : Schema) (keep : Column → Bool) (c : Column) :
    typeOf (schema.filter fun f => keep f.1) c = if keep c then schema.typeOf c else none := by
  induction schema with
  | nil => simp
  | cons f schema ih =>
    by_cases hf : keep f.1 = true
    · rw [@List.filter_cons_of_pos _ (fun f => keep f.1) f schema hf, typeOf_cons, typeOf_cons, ih]
      by_cases h : c = f.1
      · simp [h, hf]
      · simp [h]
    · rw [@List.filter_cons_of_neg _ (fun f => keep f.1) f schema hf, typeOf_cons, ih]
      by_cases h : c = f.1
      · simp [h, hf]
      · simp [h]

theorem typeOf_set (c c' : Column) (t : DataType) :
    (schema.set c t).typeOf c' = if c' = c then some t else schema.typeOf c' := by
  have replaced : typeOf (schema.map fun f => if f.1 = c then (c, t) else f) c' =
      if c' = c then (schema.typeOf c).map fun _ => t else schema.typeOf c' := by
    induction schema with
    | nil => simp
    | cons f schema ih =>
      rw [List.map_cons, typeOf_cons, ih, typeOf_cons, typeOf_cons]
      by_cases hf : f.1 = c
      · by_cases h : c' = c <;> simp [hf, h]
      · have ne : ¬c = f.1 := fun h => hf h.symm
        by_cases h : c' = c
        · subst h
          simp [hf, ne]
        · simp [hf, h]
  unfold set
  rw [typeOf_append, replaced]
  by_cases h : c' = c
  · subst h
    by_cases absent : schema.typeOf c' = none
    · simp [absent]
    · obtain ⟨u, hu⟩ := Option.ne_none_iff_exists'.1 absent
      simp [hu]
  · have rest : typeOf (if schema.typeOf c = none then [(c, t)] else []) c' = none := by
      split <;> simp [h]
    simp [h, rest]

theorem typeOf_drop (c c' : Column) :
    (schema.drop c).typeOf c' = if c' = c then none else schema.typeOf c' := by
  have := schema.typeOf_filter (fun c' => c' ≠ c) c'
  by_cases h : c' = c <;> simpa [drop, h] using this

theorem typeOf_missing (added : Schema) (c : Column) :
    (schema.missing added).typeOf c = if schema.typeOf c = none then added.typeOf c else none := by
  have := added.typeOf_filter (fun c => schema.typeOf c = none) c
  simpa [missing] using this

/-- The names of the columns. -/
def columns (schema : Schema) : List Column := schema.map (·.1)

theorem columns_append (a b : Schema) : columns (a ++ b) = a.columns ++ b.columns := List.map_append ..

theorem mem_columns {f : Column × DataType} (h : f ∈ schema) : f.1 ∈ schema.columns := List.mem_map_of_mem h

theorem typeOf_eq_none_iff {c : Column} : schema.typeOf c = none ↔ c ∉ schema.columns := by
  induction schema with
  | nil => simp [columns]
  | cons f schema ih =>
    rw [typeOf_cons]
    by_cases h : c = f.1
    · simp [columns, h]
    · simpa [columns, h] using ih

theorem mem_iff_typeOf (unique : schema.columns.Nodup) {c : Column} {t : DataType} :
    (c, t) ∈ schema ↔ schema.typeOf c = some t := by
  induction schema with
  | nil => simp
  | cons f schema ih =>
    obtain ⟨fresh, unique⟩ := List.nodup_cons.1 unique
    rw [typeOf_cons, List.mem_cons]
    by_cases h : c = f.1
    · have absent : (c, t) ∉ schema := by
        intro member
        have column : c ∈ columns schema := mem_columns member
        rw [h] at column
        exact fresh column
      rw [if_pos h]
      constructor
      · rintro (rfl | member)
        · rfl
        · exact absurd member absent
      · intro same
        left
        rw [h, ← Option.some.inj same]
    · rw [if_neg h, ← ih unique]
      constructor
      · rintro (rfl | member)
        · exact absurd rfl h
        · exact member
      · exact Or.inr

theorem nodup_set (c : Column) (t : DataType) (unique : schema.columns.Nodup) :
    (schema.set c t).columns.Nodup := by
  have same : columns (schema.map fun f => if f.1 = c then (c, t) else f) = schema.columns := by
    unfold columns
    rw [List.map_map]
    apply List.map_congr_left
    intro f _
    by_cases h : f.1 = c <;> simp [h]
  unfold set
  rw [columns_append, same]
  refine List.nodup_append'.2 ⟨unique, ?_, ?_⟩
  · split <;> simp [columns]
  · intro c' old new
    split at new
    · rename_i absent
      have is_new : c' = c := by simpa [columns] using new
      subst is_new
      exact typeOf_eq_none_iff.1 absent old
    · cases new

theorem nodup_drop (c : Column) (unique : schema.columns.Nodup) : (schema.drop c).columns.Nodup :=
  unique.sublist (List.filter_sublist.map _)

end Schema

/-! ## Rows and frames -/

/-- A row reads a value or null in every column. -/
abbrev Row := Column → Option Value

namespace Row

variable (row : Row) (c : Column)

def string : Option String :=
  match row c with
  | some (.string s) => some s
  | _ => none

def timestamp : Option Instant :=
  match row c with
  | some (.timestamp t) => some t
  | _ => none

def int : Option Int :=
  match row c with
  | some (.int n) => some n
  | _ => none

def bigint : Option Int :=
  match row c with
  | some (.bigint n) => some n
  | _ => none

def date : Option Date :=
  match row c with
  | some (.date d) => some d
  | _ => none

end Row

/-- A frame, or one version of a table; its columns have different names. -/
@[ext]
structure Frame where
  schema : Schema
  rows : List Row
  unique : schema.columns.Nodup
  typed : ∀ row ∈ rows, ∀ c v, row c = some v → schema.typeOf c = some v.type

theorem Row.typed_update {schema : Schema} {row : Row} {c : Column} {cell : Option Value}
    (others : ∀ c' ≠ c, ∀ v, row c' = some v → schema.typeOf c' = some v.type)
    (own : ∀ v, cell = some v → schema.typeOf c = some v.type) :
    ∀ c' v, Function.update row c cell c' = some v → schema.typeOf c' = some v.type := by
  intro c' v hv
  by_cases h : c' = c
  · subst h
    rw [Function.update_self] at hv
    exact own v hv
  · rw [Function.update_of_ne h] at hv
    exact others c' h v hv

/-- The values of a column expression of type `t`. -/
abbrev Cell (t : DataType) := Option { v : Value // v.type = t }

namespace Cell

def string (s : String) : Cell .string := some ⟨.string s, rfl⟩

def timestamp (t : Instant) : Cell .timestamp := some ⟨.timestamp t, rfl⟩

/-- `F.lit(None).cast(t)`. -/
def null (t : DataType) : Cell t := none

end Cell

namespace Frame

variable (frame : Frame)

/-- `frame.withColumn(c, e)` with `e` of type `t`. -/
def withColumn (c : Column) (t : DataType) (e : Row → Cell t) : Frame where
  schema := frame.schema.set c t
  rows := frame.rows.map fun row => Function.update row c ((e row).map (·.1))
  unique := Schema.nodup_set c t frame.unique
  typed := by
    intro row hrow
    obtain ⟨before, hbefore, rfl⟩ := List.mem_map.1 hrow
    apply Row.typed_update
    · intro c' other v hv
      rw [Schema.typeOf_set, if_neg other]
      exact frame.typed before hbefore c' v hv
    · intro v hv
      obtain ⟨v', _, rfl⟩ := Option.map_eq_some_iff.1 hv
      rw [Schema.typeOf_set, if_pos rfl, v'.2]

def drop (c : Column) : Frame where
  schema := frame.schema.drop c
  rows := frame.rows.map fun row => Function.update row c none
  unique := Schema.nodup_drop c frame.unique
  typed := by
    intro row hrow
    obtain ⟨before, hbefore, rfl⟩ := List.mem_map.1 hrow
    apply Row.typed_update
    · intro c' other v hv
      rw [Schema.typeOf_drop, if_neg other]
      exact frame.typed before hbefore c' v hv
    · intro v hv
      cases hv

def filter (p : Row → Bool) : Frame where
  schema := frame.schema
  rows := frame.rows.filter p
  unique := frame.unique
  typed row hrow := frame.typed row (List.mem_of_mem_filter hrow)

/-- The choice of `dropDuplicates` that keeps the last row of each key. -/
def lastOfEach (key : Column) : Frame where
  schema := frame.schema
  rows := Table.lastOfEach (· key) frame.rows
  unique := frame.unique
  typed row hrow := frame.typed row ((Table.distinctBy_lastOfEach frame.rows).subset hrow)

/-- `source` can be merged into `target`: a column both have is of one type. -/
def Mergeable (target source : Frame) : Prop :=
  ∀ f ∈ source.schema, target.schema.typeOf f.1 = none ∨ target.schema.typeOf f.1 = source.schema.typeOf f.1

instance (target source : Frame) : Decidable (target.Mergeable source) :=
  inferInstanceAs (Decidable (∀ f ∈ source.schema, _))

theorem Mergeable.typeOf {target source : Frame} (h : target.Mergeable source) {c : Column} {t : DataType}
    (hc : source.schema.typeOf c = some t) :
    target.schema.typeOf c = none ∨ target.schema.typeOf c = some t := by
  obtain ⟨f, hf, rfl⟩ := Schema.exists_mem_of_typeOf hc
  have either := h f hf
  rwa [hc] at either

/-- The schema after a merge with schema evolution: the new columns of the source come
last. -/
def mergedSchema (target source : Schema) : Schema := target ++ target.missing source

theorem typeOf_mergedSchema (target source : Schema) (c : Column) :
    (mergedSchema target source).typeOf c = (target.typeOf c).or (source.typeOf c) := by
  unfold mergedSchema
  rw [Schema.typeOf_append, Schema.typeOf_missing]
  cases target.typeOf c <;> simp

theorem nodup_mergedSchema {target source : Schema} (ht : target.columns.Nodup) (hs : source.columns.Nodup) :
    (mergedSchema target source).columns.Nodup := by
  unfold mergedSchema
  rw [Schema.columns_append]
  refine List.nodup_append'.2 ⟨ht, hs.sublist (List.filter_sublist.map _), ?_⟩
  intro c old new
  obtain ⟨f, hf, rfl⟩ := List.mem_map.1 new
  have absent := of_decide_eq_true (List.mem_filter.1 hf).2
  exact Schema.typeOf_eq_none_iff.1 absent old

/-- `MERGE ... WHEN NOT MATCHED INSERT *` on one key column, with schema evolution. -/
def mergeNew (key : Column) (target source : Frame) (h : target.Mergeable source) : Frame where
  schema := mergedSchema target.schema source.schema
  rows := Table.insertNew (· key) target.rows source.rows
  unique := nodup_mergedSchema target.unique source.unique
  typed := by
    intro row hrow c v hv
    rw [typeOf_mergedSchema]
    rcases Table.mem_insertNew.1 hrow with old | ⟨new, _⟩
    · rw [target.typed row old c v hv]
      rfl
    · have has := source.typed row new c v hv
      rw [has]
      rcases h.typeOf has with absent | same
      · rw [absent]
        rfl
      · rw [same]
        rfl

theorem mergeNew_congr {key : Column} {target target' source : Frame} (same : target = target')
    (h : target.Mergeable source) : ∃ h', target.mergeNew key source h = target'.mergeNew key source h' := by
  subst same
  exact ⟨h, rfl⟩

end Frame

end Tikblog.Analytics
