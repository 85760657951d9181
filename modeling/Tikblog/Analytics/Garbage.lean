import Tikblog.Program.Loops
import Tikblog.Table.Query
import Tikblog.Analytics.Decode

/-!
# Which batches the decoder survives

Bytes that are no Confluent frame, and payloads that cannot be read, become rows with a
`decode_error`. A well-formed header with an id that the registry does not know does not:
`decode` raises for the whole batch, which is then replayed for ever. `decode_returns_iff`
gives the exact condition for a frame that can be appended, which is about the ids of the
headers, their schemas and how the columns of these fit together, and never about the
payloads.
-/

namespace Tikblog.Analytics

open Python Program

/-- `(topic, partition, offset)`. -/
abbrev Position := String × Int × Int

def KafkaRecord.position (record : KafkaRecord) : Position :=
  (record.topic, record.partition, record.offset)

def DecodedRow.position (row : DecodedRow) : Position :=
  (row.kafkaTopic, row.kafkaPartition, row.kafkaOffset)

/-! ## Names of columns -/

/-- What is named once is meant by its name. -/
theorem referred_length {fields : Fields} (distinct : DistinctNames fields) {f : String × DataType}
    (member : f ∈ fields) : (referred fields f.1).length = 1 := by
  have one : referred fields f.1 = [f] := Table.filter_key distinct member
  rw [one]
  rfl

theorem expected_lookup {fields : Fields} (complete : mismatched fields = []) {f : String × DataType}
    (member : f ∈ expectedFields) : fields.lookup f.1 = some f.2 := by
  by_contra differs
  have listed : f.1 ∈ mismatched fields :=
    List.mem_map_of_mem (List.mem_filter.2 ⟨member, decide_eq_true differs⟩)
  rw [complete] at listed
  cases listed

theorem mem_of_lookup {α : Type} {fields : List (String × α)} {name : String} {t : α}
    (found : fields.lookup name = some t) : (name, t) ∈ fields := by
  obtain ⟨before, after, split, -⟩ := List.lookup_eq_some_iff.1 found
  rw [split]
  exact List.mem_append_right _ List.mem_cons_self

/-- `requested_at` is among the columns of every group. -/
theorem requestedAt_mem {fields : Fields} (complete : mismatched fields = []) :
    ("requested_at", .timestamp) ∈ fields :=
  mem_of_lookup (expected_lookup complete (f := ("requested_at", .timestamp)) (by decide))

theorem distinctNames_iff (fields : Fields) :
    DistinctNames fields ↔ ((fields.map (·.1)).map String.toLower).Nodup := by
  rw [DistinctNames, List.map_map]
  rfl

theorem DistinctNames.left {a b : Fields} (h : DistinctNames (a ++ b)) : DistinctNames a := by
  rw [DistinctNames, List.map_append] at h
  exact (List.nodup_append.1 h).1

section Groups

variable (spark : Spark) (registry : Int → Except PyException String)

/-! ## One group -/

/-- The group with this schema id can be decoded: the id is registered, with a schema that
reads as a record and, where it has the expected columns, one column for `event_id`. -/
def Readable : Option Int → Prop
  | none => True
  | some id => ∃ schema fields, registry id = .ok schema ∧ spark.avroType schema = .ok (.struct fields) ∧
      (mismatched fields = [] → (referred fields "event_id").length = 1)

/-- The columns of a group before the metadata: those of its schema, or the expected ones. -/
def groupFields : Option Int → Fields
  | none => expectedFields
  | some id =>
    match registry id with
    | .error _ => expectedFields
    | .ok schema =>
      match spark.avroType schema with
      | .ok (.struct fields) => if mismatched fields = [] then fields else expectedFields
      | _ => expectedFields

theorem groupFields_complete (id : Option Int) : mismatched (groupFields spark registry id) = [] := by
  have expected : mismatched expectedFields = [] := by decide +kernel
  unfold groupFields
  split
  · exact expected
  · split
    · exact expected
    · split
      · split
        · assumption
        · exact expected
      · exact expected

variable {spark registry} {now : Instant} {batch : List KafkaRecord}

theorem exists_decodePart {id : Option Int} (readable : Readable spark registry id) :
    ∃ part, decodePart spark registry now batch id = .ok part := by
  cases id with
  | none => exact ⟨_, rfl⟩
  | some id =>
    obtain ⟨schema, fields, registered, type, named⟩ := readable
    unfold decodePart
    simp only [registered, type, bind, Except.bind]
    split
    · exact ⟨_, rfl⟩
    · rename_i complete
      rw [if_neg (not_not.2 (named (not_not.1 complete)))]
      exact ⟨_, rfl⟩

/-- The ways in which a group is decoded. -/
inductive Grouped (spark : Spark) (registry : Int → Except PyException String) (now : Instant)
    (records : List KafkaRecord) : Option Int → Part → Prop where
  | unframed : Grouped spark registry now records none
      (problemPart spark now "invalid_confluent_frame" records)
  | mismatch {id : Int} {schema : String} {fields : Fields} (registered : registry id = .ok schema)
      (type : spark.avroType schema = .ok (.struct fields)) (incomplete : mismatched fields ≠ []) :
      Grouped spark registry now records (some id)
        (problemPart spark now ("schema_type_mismatch:" ++ ",".intercalate (mismatched fields)) records)
  | read {id : Int} {schema : String} {fields : Fields} (registered : registry id = .ok schema)
      (type : spark.avroType schema = .ok (.struct fields)) (complete : mismatched fields = [])
      (named : (referred fields "event_id").length = 1) :
      Grouped spark registry now records (some id) (eventPart spark now schema fields records)

theorem decodePart_grouped {id : Option Int} {part : Part}
    (decoded : decodePart spark registry now batch id = .ok part) :
    Grouped spark registry now (batch.filter fun record => record.schemaId = id) id part := by
  cases id with
  | none =>
    cases decoded
    exact .unframed
  | some id =>
    unfold decodePart at decoded
    cases registered : registry id with
    | error e =>
      simp only [registered, bind, Except.bind] at decoded
      cases decoded
    | ok schema =>
      cases type : spark.avroType schema with
      | error e =>
        simp only [registered, type, bind, Except.bind] at decoded
        cases decoded
      | ok event =>
        simp only [registered, type, bind, Except.bind] at decoded
        cases event with
        | other name => cases decoded
        | struct fields =>
          dsimp only at decoded
          split at decoded
          · rename_i incomplete
            cases decoded
            exact .mismatch registered type incomplete
          · rename_i complete
            split at decoded
            · cases decoded
            · rename_i named
              cases decoded
              exact .read registered type (not_not.1 complete) (not_not.1 named)

/-- A group that was decoded: its columns, and one row for each record. -/
structure GroupPart (spark : Spark) (registry : Int → Except PyException String)
    (batch : List KafkaRecord) (id : Option Int) (part : Part) : Prop where
  readable : Readable spark registry id
  fields : part.fields = groupFields spark registry id
  positions : part.rows.map DecodedRow.position =
    (batch.filter fun record => record.schemaId = id).map KafkaRecord.position

theorem decodePart_ok {id : Option Int} {part : Part}
    (decoded : decodePart spark registry now batch id = .ok part) :
    GroupPart spark registry batch id part := by
  cases decodePart_grouped decoded with
  | unframed =>
    refine ⟨trivial, rfl, ?_⟩
    rw [problemPart, List.map_map]
    rfl
  | mismatch registered type incomplete =>
    refine ⟨⟨_, _, registered, type, fun complete => absurd complete incomplete⟩, ?_, ?_⟩
    · simp only [groupFields, registered, type, if_neg incomplete]
      rfl
    · rw [problemPart, List.map_map]
      rfl
  | read registered type complete named =>
    refine ⟨⟨_, _, registered, type, fun _ => named⟩, ?_, ?_⟩
    · simp only [groupFields, registered, type, if_pos complete]
      rfl
    · rw [eventPart, List.map_map]
      rfl

end Groups

/-! ## The union of the groups -/

section Union

variable {spark : Spark}

theorem unitedField_name {f g : String × DataType} {others : Fields}
    (united : unitedField spark f others = some g) : g.1 = f.1 := by
  unfold unitedField at united
  split at united
  · cases united
    rfl
  · obtain ⟨t, -, rfl⟩ := Option.map_eq_some_iff.1 united
    rfl

theorem names_of_mapM {left right common : Fields}
    (united : (left.mapM fun f => unitedField spark f right) = some common) :
    common.map (·.1) = left.map (·.1) := by
  induction left generalizing common with
  | nil =>
    cases united
    rfl
  | cons f left ih =>
    rw [List.mapM_cons] at united
    obtain ⟨g, head, united⟩ := Option.bind_eq_some_iff.1 united
    obtain ⟨rest, tail, united⟩ := Option.bind_eq_some_iff.1 united
    cases united
    rw [List.map_cons, List.map_cons, unitedField_name head, ih tail]

/-- The names of a union: those of the left side, then those only the right side has. -/
theorem unitedFields_names {left right united : Fields} (h : unitedFields spark left right = some united) :
    united.map (·.1) = left.map (·.1) ++
      (right.filter fun g => (left.find? fun f => SameName f.1 g.1) = none).map (·.1) := by
  obtain ⟨common, found, h⟩ := Option.bind_eq_some_iff.1 h
  cases h
  rw [List.map_append, names_of_mapM found]

/-- A union of frames without duplicate columns has none. -/
theorem distinctNames_united {left right united : Fields} (h : unitedFields spark left right = some united)
    (distinct_left : DistinctNames (left ++ metadataFields))
    (distinct_right : DistinctNames (right ++ metadataFields)) :
    DistinctNames (united ++ metadataFields) := by
  rw [distinctNames_iff, List.map_append, List.map_append] at *
  rw [unitedFields_names h, List.map_append]
  obtain ⟨left_once, meta_once, left_meta⟩ := List.nodup_append.1 distinct_left
  obtain ⟨right_once, -, right_meta⟩ := List.nodup_append.1 distinct_right
  have sub : (((right.filter fun g => (left.find? fun f => SameName f.1 g.1) = none).map (·.1)).map
      String.toLower).Sublist ((right.map (·.1)).map String.toLower) :=
    (List.filter_sublist.map _).map _
  apply List.nodup_append.2
  refine ⟨List.nodup_append.2 ⟨left_once, right_once.sublist sub, ?_⟩, meta_once, ?_⟩
  · intro a old b new same
    obtain ⟨name, held, rfl⟩ := List.mem_map.1 old
    obtain ⟨name', held', rfl⟩ := List.mem_map.1 new
    obtain ⟨f, member, rfl⟩ := List.mem_map.1 held
    obtain ⟨g, member', rfl⟩ := List.mem_map.1 held'
    have unmatched := of_decide_eq_true (List.mem_filter.1 member').2
    have apart := List.find?_eq_none.1 unmatched f member
    exact apart (decide_eq_true same)
  · intro a listed b metadata
    obtain old | new := List.mem_append.1 listed
    · exact left_meta a old b metadata
    · exact right_meta a (sub.subset new) b metadata

/-- When `unionByName` returns, and what. -/
theorem unionByName_ok_iff {a b c : Part} : unionByName spark a b = .ok c ↔
    DistinctNames a.columns ∧ DistinctNames b.columns ∧
    ∃ fields, unitedFields spark a.fields b.fields = some fields ∧
      c = ⟨fields, a.rows.map (DecodedRow.align spark fields a.fields) ++
        b.rows.map (DecodedRow.align spark fields b.fields)⟩ := by
  unfold unionByName
  by_cases distinct : DistinctNames a.columns ∧ DistinctNames b.columns
  · rw [if_neg (not_not.2 distinct)]
    cases united : unitedFields spark a.fields b.fields with
    | none => simp
    | some fields => simp [distinct, eq_comm]
  · rw [if_pos distinct]
    constructor
    · intro h
      cases h
    · intro h
      exact absurd ⟨h.1, h.2.1⟩ distinct

theorem positions_align (fields origin : Fields) (rows : List DecodedRow) :
    (rows.map (DecodedRow.align spark fields origin)).map DecodedRow.position =
      rows.map DecodedRow.position := by
  rw [List.map_map]
  rfl

/-- All columns of each group have different names. -/
def AllDistinct (groups : List Fields) : Prop := ∀ fields ∈ groups, DistinctNames (fields ++ metadataFields)

theorem AllDistinct.replace {first united : Fields} {rest : List Fields}
    (h : AllDistinct (first :: rest)) (distinct : DistinctNames (united ++ metadataFields)) :
    AllDistinct (united :: rest) :=
  List.forall_mem_cons.2 ⟨distinct, fun fields member => h fields (List.mem_cons_of_mem _ member)⟩

/-- A union that returns: no group has two columns of one name, the columns are the united
ones, and every row is there. -/
theorem foldlM_unionByName_ok {first united : Part} {rest : List Part}
    (h : rest.foldlM (unionByName spark) first = .ok united) :
    (rest ≠ [] → AllDistinct ((first :: rest).map Part.fields)) ∧
    (rest.map Part.fields).foldlM (unitedFields spark) first.fields = some united.fields ∧
    united.rows.map DecodedRow.position =
      (first :: rest).flatMap fun part => part.rows.map DecodedRow.position := by
  induction rest generalizing first with
  | nil =>
    cases h
    exact ⟨fun more => absurd rfl more, rfl, by simp⟩
  | cons part rest ih =>
    obtain ⟨both, step, h⟩ := foldlM_cons_eq_ok.1 h
    obtain ⟨distinct, distinct', fields, columns, rfl⟩ := unionByName_ok_iff.1 step
    obtain ⟨others, folded, positions⟩ := ih h
    refine ⟨fun _ => ?_, ?_, ?_⟩
    · intro group member
      obtain rfl | rfl | later := (List.mem_cons.1 member).imp_right List.mem_cons.1
      · exact distinct
      · exact distinct'
      · have more : rest ≠ [] := by
          intro none
          rw [none] at later
          cases later
        exact others more group (List.mem_cons_of_mem _ later)
    · rw [List.map_cons, List.foldlM_cons, columns]
      exact folded
    · rw [positions, List.flatMap_cons, List.map_append, positions_align, positions_align]
      simp only [List.flatMap_cons, List.append_assoc]

/-- When the union returns. -/
theorem exists_foldlM_unionByName {first : Part} {rest : List Part} {fields : Fields}
    (distinct : rest ≠ [] → AllDistinct ((first :: rest).map Part.fields))
    (columns : (rest.map Part.fields).foldlM (unitedFields spark) first.fields = some fields) :
    ∃ united, rest.foldlM (unionByName spark) first = .ok united := by
  induction rest generalizing first with
  | nil => exact ⟨first, rfl⟩
  | cons part rest ih =>
    have all := distinct (List.cons_ne_nil _ _)
    rw [List.map_cons, List.foldlM_cons] at columns
    obtain ⟨both, step, columns⟩ := Option.bind_eq_some_iff.1 columns
    have distinct_first : DistinctNames first.columns := all _ List.mem_cons_self
    have distinct_part : DistinctNames part.columns := all _ (List.mem_cons_of_mem _ List.mem_cons_self)
    have step' := unionByName_ok_iff.2 ⟨distinct_first, distinct_part, both, step, rfl⟩
    have next : AllDistinct (both :: rest.map Part.fields) :=
      AllDistinct.replace (fun group member => all group (List.mem_cons_of_mem _ member))
        (distinctNames_united step distinct_first distinct_part)
    obtain ⟨united, done⟩ := @ih ⟨both, _⟩ (fun _ => next) columns
    exact ⟨united, foldlM_cons_eq_ok.2 ⟨_, step', done⟩⟩

/-- The columns of a first group are those of the union, and more. -/
theorem names_subset_foldlM {first united : Fields} {rest : List Fields}
    (h : rest.foldlM (unitedFields spark) first = some united) :
    first.map (·.1) ⊆ united.map (·.1) := by
  induction rest generalizing first with
  | nil =>
    cases h
    exact List.Subset.refl _
  | cons fields rest ih =>
    rw [List.foldlM_cons] at h
    obtain ⟨both, step, h⟩ := Option.bind_eq_some_iff.1 h
    apply List.Subset.trans _ (ih h)
    rw [unitedFields_names step]
    exact List.subset_append_left _ _

theorem distinctNames_foldlM {first united : Fields} {rest : List Fields}
    (h : rest.foldlM (unitedFields spark) first = some united) (distinct : AllDistinct (first :: rest)) :
    DistinctNames (united ++ metadataFields) := by
  induction rest generalizing first with
  | nil =>
    cases h
    exact distinct _ List.mem_cons_self
  | cons fields rest ih =>
    rw [List.foldlM_cons] at h
    obtain ⟨both, step, h⟩ := Option.bind_eq_some_iff.1 h
    have both_distinct := distinctNames_united step (distinct _ List.mem_cons_self)
      (distinct _ (List.mem_cons_of_mem _ List.mem_cons_self))
    exact ih h (AllDistinct.replace (fun group member => distinct group (List.mem_cons_of_mem _ member))
      both_distinct)

end Union

/-! ## The batch -/

/-- The columns of the groups fit together: within each group the names are different, from
those of the metadata as well, and the types of common columns can be widened, group after
group. -/
structure Unitable (spark : Spark) (groups : List Fields) : Prop where
  distinct : AllDistinct groups
  widened : ∀ first rest, groups = first :: rest →
    ∃ united, rest.foldlM (unitedFields spark) first = some united

variable {spark : Spark} {registry : Int → Except PyException String} {now : Instant}
  {batch : List KafkaRecord}

theorem withEventDate_rows {part : Part} {decoded : Decoded} (dated : withEventDate part = .ok decoded) :
    decoded.rows.map (fun row => row.toDecodedRow.position) = part.rows.map DecodedRow.position := by
  unfold withEventDate at dated
  split at dated
  · cases dated
  · cases dated
    rw [List.map_map]
    rfl

/-- `event_date` replaces a column of its name, or is new. -/
theorem withEventDate_distinct {part : Part} {decoded : Decoded} (dated : withEventDate part = .ok decoded) :
    DistinctNames decoded.columns ↔ DistinctNames part.columns := by
  unfold withEventDate at dated
  split at dated
  · cases dated
  · cases dated
    have names : ∀ f : String × DataType,
        (if SameName f.1 "event_date" then ("event_date", DataType.date) else f).1.toLower = f.1.toLower := by
      intro f
      split
      · next same => exact same.symm
      · rfl
    simp only [DistinctNames, List.map_append, List.map_map, Function.comp_def, names]
    split
    · next absent =>
      rw [List.map_singleton, List.nodup_append]
      refine ⟨fun h => h.1, fun h => ⟨h, List.nodup_singleton _, ?_⟩⟩
      intro a listed b added same
      obtain ⟨f, member, rfl⟩ := List.mem_map.1 listed
      rw [List.mem_singleton.1 added] at same
      have found : f ∈ referred part.columns "event_date" := List.mem_filter.2 ⟨member, decide_eq_true same⟩
      rw [absent] at found
      cases found
    · rw [List.map_nil, List.append_nil]

theorem exists_withEventDate {part : Part} (once : (referred part.columns "requested_at").length = 1) :
    ∃ decoded, withEventDate part = .ok decoded := by
  unfold withEventDate
  rw [if_neg (not_not.2 once)]
  exact ⟨_, rfl⟩

/-- The rows of the groups are the records of the batch. -/
theorem perm_positions {parts : List Part}
    (groups : (spark.distinct (batch.map KafkaRecord.schemaId)).mapM
      (decodePart spark registry now batch) = .ok parts) :
    (parts.flatMap fun part => part.rows.map DecodedRow.position).Perm
      (batch.map KafkaRecord.position) := by
  have each := map_of_mapM (g := fun part : Part => part.rows.map DecodedRow.position)
    (h := fun id => (batch.filter fun record => record.schemaId = id).map KafkaRecord.position)
    (fun id _ part decoded => (decodePart_ok decoded).positions) groups
  have sorted : (((spark.distinct (batch.map KafkaRecord.schemaId)).flatMap fun id =>
      batch.filter fun record => record.schemaId = id)).Perm batch :=
    Table.perm_flatMap_filter batch (spark.nodup_distinct (batch.map KafkaRecord.schemaId))
    (fun record member => (spark.mem_distinct _ _).2 (List.mem_map_of_mem member))
  rw [List.flatMap_def, each, ← List.flatMap_def, ← List.map_flatMap]
  exact sorted.map _

/-- The columns of the groups, in the order Spark returns their ids. -/
def columnsOfGroups (spark : Spark) (registry : Int → Except PyException String)
    (batch : List KafkaRecord) : List Fields :=
  (spark.distinct (batch.map KafkaRecord.schemaId)).map (groupFields spark registry)

theorem columnsOfGroups_ne_nil (nonempty : batch ≠ []) : columnsOfGroups spark registry batch ≠ [] := by
  obtain ⟨record, present⟩ := List.exists_mem_of_ne_nil batch nonempty
  have listed : groupFields spark registry record.schemaId ∈ columnsOfGroups spark registry batch :=
    List.mem_map_of_mem ((spark.mem_distinct _ _).2 (List.mem_map_of_mem present))
  exact List.ne_nil_of_mem listed

/-- The parts of a `decode` that returns a frame. -/
structure DecodedFrom (spark : Spark) (registry : Int → Except PyException String) (now : Instant)
    (batch : List KafkaRecord) (decoded : Decoded) (first : Part) (rest : List Part) (united : Part) :
    Prop where
  groups : (spark.distinct (batch.map KafkaRecord.schemaId)).mapM
    (decodePart spark registry now batch) = .ok (first :: rest)
  union : rest.foldlM (unionByName spark) first = .ok united
  dated : withEventDate united = .ok decoded

/-- `decode` returns a frame made from the groups, or none where there is no group. -/
theorem decode_ok {result : Option Decoded} (returned : decode spark registry now batch = .ok result) :
    (result = none ∧ spark.distinct (batch.map KafkaRecord.schemaId) = []) ∨
      ∃ decoded first rest united, result = some decoded ∧
        DecodedFrom spark registry now batch decoded first rest united := by
  unfold decode at returned
  cases groups : (spark.distinct (batch.map KafkaRecord.schemaId)).mapM
      (decodePart spark registry now batch) with
  | error e =>
    simp only [groups, bind, Except.bind] at returned
    cases returned
  | ok parts =>
    simp only [groups, bind, Except.bind] at returned
    cases parts with
    | nil =>
      cases returned
      have columns := map_of_mapM (g := Part.fields) (h := groupFields spark registry)
        (fun id _ part found => (decodePart_ok found).fields) groups
      exact .inl ⟨rfl, List.map_eq_nil_iff.1 columns.symm⟩
    | cons first rest =>
      dsimp only at returned
      cases union : rest.foldlM (unionByName spark) first with
      | error e =>
        simp only [union] at returned
        cases returned
      | ok united =>
        simp only [union] at returned
        cases dated : withEventDate united with
        | error e =>
          simp only [dated] at returned
          cases returned
        | ok decoded =>
          simp only [dated] at returned
          cases returned
          exact .inr ⟨decoded, first, rest, united, rfl, groups, union, dated⟩

/-- A batch without groups is empty. -/
theorem eq_nil_of_distinct (none : spark.distinct (batch.map KafkaRecord.schemaId) = []) : batch = [] := by
  apply List.eq_nil_iff_forall_not_mem.2
  intro record member
  have listed := (spark.mem_distinct _ _).2 (List.mem_map_of_mem (f := KafkaRecord.schemaId) member)
  rw [none] at listed
  cases listed

/-- Some group is read from a batch with a record. -/
theorem decode_ne_none (nonempty : batch ≠ []) : decode spark registry now batch ≠ .ok none := by
  intro returned
  obtain ⟨-, none⟩ | ⟨_, _, _, _, some, -⟩ := decode_ok returned
  · exact nonempty (eq_nil_of_distinct none)
  · cases some

theorem columns_of_groups {parts : List Part}
    (groups : (spark.distinct (batch.map KafkaRecord.schemaId)).mapM
      (decodePart spark registry now batch) = .ok parts) :
    parts.map Part.fields = columnsOfGroups spark registry batch :=
  map_of_mapM (fun _ _ _ found => (decodePart_ok found).fields) groups

/-- Every group of a decoded batch could be read. -/
theorem readable_of_decode {decoded : Decoded} (h : decode spark registry now batch = .ok (some decoded)) :
    ∀ record ∈ batch, Readable spark registry record.schemaId := by
  obtain ⟨none, -⟩ | ⟨_, first, rest, united, same, parts⟩ := decode_ok h
  · cases none
  intro record member
  have listed : record.schemaId ∈ spark.distinct (batch.map KafkaRecord.schemaId) :=
    (spark.mem_distinct _ _).2 (List.mem_map_of_mem member)
  obtain ⟨part, found⟩ := exists_mapM_eq_ok.1 ⟨_, parts.groups⟩ _ listed
  exact (decodePart_ok found).readable

/-- A frame has one row for each record. -/
theorem perm_of_decode {decoded : Decoded} (h : decode spark registry now batch = .ok (some decoded)) :
    (decoded.rows.map fun row => row.toDecodedRow.position).Perm (batch.map KafkaRecord.position) := by
  obtain ⟨none, -⟩ | ⟨_, first, rest, united, same, parts⟩ := decode_ok h
  · cases none
  cases same
  obtain ⟨-, -, positions⟩ := foldlM_unionByName_ok parts.union
  rw [withEventDate_rows parts.dated, positions]
  exact perm_positions parts.groups

/-- The groups of a frame without duplicate columns fit together. -/
theorem unitable_of_decode {decoded : Decoded} (h : decode spark registry now batch = .ok (some decoded))
    (appendable : DistinctNames decoded.columns) : Unitable spark (columnsOfGroups spark registry batch) := by
  obtain ⟨none, -⟩ | ⟨_, first, rest, united, same, parts⟩ := decode_ok h
  · cases none
  cases same
  have columns := columns_of_groups parts.groups
  obtain ⟨distinct, folded, -⟩ := foldlM_unionByName_ok parts.union
  rw [← columns]
  constructor
  · cases rest with
    | nil =>
      cases parts.union
      intro fields member
      cases List.mem_singleton.1 member
      exact (withEventDate_distinct parts.dated).1 appendable
    | cons second rest => exact distinct (List.cons_ne_nil _ _)
  · intro first' rest' split
    cases split
    exact ⟨_, folded⟩

/-- `requested_at` is among the columns of the union. -/
theorem requestedAt_united {first : Part} {rest : List Part} {fields : Fields}
    (columns : (first :: rest).map Part.fields = columnsOfGroups spark registry batch)
    (folded : (rest.map Part.fields).foldlM (unitedFields spark) first.fields = some fields) :
    ∃ f ∈ fields, f.1 = "requested_at" := by
  have member : first.fields ∈ columnsOfGroups spark registry batch := columns ▸ List.mem_cons_self
  obtain ⟨id, -, group⟩ := List.mem_map.1 member
  have held : "requested_at" ∈ first.fields.map (·.1) := by
    rw [← group]
    exact List.mem_map_of_mem (requestedAt_mem (groupFields_complete spark registry id))
  obtain ⟨f, f_united, name⟩ := List.mem_map.1 (names_subset_foldlM folded held)
  exact ⟨f, f_united, name⟩

/-- Groups that can be read and fit together make a frame without duplicate columns. -/
theorem exists_decode (nonempty : batch ≠ [])
    (readable : ∀ record ∈ batch, Readable spark registry record.schemaId)
    (unitable : Unitable spark (columnsOfGroups spark registry batch)) :
    ∃ decoded, decode spark registry now batch = .ok (some decoded) ∧ DistinctNames decoded.columns := by
  have each : ∀ id ∈ spark.distinct (batch.map KafkaRecord.schemaId),
      ∃ part, decodePart spark registry now batch id = .ok part := by
    intro id member
    obtain ⟨record, present, rfl⟩ := List.mem_map.1 ((spark.mem_distinct _ _).1 member)
    exact exists_decodePart (readable record present)
  obtain ⟨parts, groups⟩ := exists_mapM_eq_ok.2 each
  have columns := columns_of_groups groups
  cases parts with
  | nil => exact absurd columns.symm (columnsOfGroups_ne_nil nonempty)
  | cons first rest =>
    obtain ⟨fields, folded⟩ := unitable.widened _ _ columns.symm
    have distinct : AllDistinct ((first :: rest).map Part.fields) := columns ▸ unitable.distinct
    obtain ⟨united, union⟩ := exists_foldlM_unionByName (fun _ => distinct) folded
    obtain ⟨-, folded, -⟩ := foldlM_unionByName_ok union
    have united_distinct : DistinctNames united.columns := distinctNames_foldlM folded distinct
    obtain ⟨f, member, name⟩ := requestedAt_united columns folded
    have once := referred_length united_distinct (List.mem_append_left _ member)
    rw [name] at once
    obtain ⟨decoded, dated⟩ := exists_withEventDate once
    refine ⟨decoded, ?_, (withEventDate_distinct dated).2 united_distinct⟩
    unfold decode
    simp only [groups, union, dated, bind, Except.bind]
    rfl

/-- **When the decoder survives a batch.** For every non-empty batch and every registry,
`decode` returns a frame with one row for each record, and no two columns of one name, as an
append asks for, if and only if every schema id of a header is registered, with a schema that
reads as a record, and the columns of the groups fit together. -/
theorem decode_returns_iff (spark : Spark) (registry : Int → Except PyException String)
    (now : Instant) (batch : List KafkaRecord) (nonempty : batch ≠ []) :
    (∃ decoded, decode spark registry now batch = .ok (some decoded) ∧
      (decoded.rows.map fun row => row.toDecodedRow.position).Perm (batch.map KafkaRecord.position) ∧
      DistinctNames decoded.columns) ↔
    (∀ record ∈ batch, Readable spark registry record.schemaId) ∧
      Unitable spark (columnsOfGroups spark registry batch) := by
  constructor
  · intro h
    obtain ⟨decoded, returned, -, appendable⟩ := h
    exact ⟨readable_of_decode returned, unitable_of_decode returned appendable⟩
  · intro h
    obtain ⟨readable, unitable⟩ := h
    obtain ⟨decoded, returned, appendable⟩ :
        ∃ decoded, decode spark registry now batch = .ok (some decoded) ∧ DistinctNames decoded.columns :=
      exists_decode nonempty readable unitable
    exact ⟨decoded, returned, perm_of_decode returned, appendable⟩

/-! ## Two batches -/

/-- A Spark whose payloads cannot be read and whose types are never widened. -/
def demoSpark : Spark where
  distinct := List.dedup
  mem_distinct _ _ := List.mem_dedup
  nodup_distinct := List.nodup_dedup
  avroType schema :=
    if schema = "UnsubscribeEvent" then .ok (.struct expectedFields)
    else .error (.analysisException "[AVRO_INCOMPATIBLE_READ_TYPE]")
  readAvro _ _ := none
  readAvro_typed _ _ _ _ _ _ _ read := by cases read
  widen t u := if t = u then some t else none
  widen_self _ := if_pos rfl
  cast t v := if v.type = t then some v else none
  cast_typed t v w cast := by
    split at cast
    · rename_i same
      cases cast
      exact same
    · cases cast
  cast_self _ := if_pos rfl
  base64 _ := ""

/-- A registry that holds the contract under id `1`. -/
def demoRegistry (id : Int) : Except PyException String :=
  if id = 1 then .ok "UnsubscribeEvent" else .error (.httpError "HTTP Error 404: Not Found")

def kafkaRecord (value : Option Bytes) (offset : Int) : KafkaRecord :=
  ⟨value, "unsubscribe-priority", 0, offset, 0⟩

/-- **An unregistered id stops the batch.** A record with a well-formed header and an id that
nobody has registered, after one with a registered id. -/
theorem unregistered_id_stops_decode :
    [kafkaRecord (some [0, 0, 0, 0, 1, 2]) 0, kafkaRecord (some [0, 0, 0, 0, 7]) 1] ≠ [] ∧
    ¬ ∃ decoded, decode demoSpark demoRegistry 0
      [kafkaRecord (some [0, 0, 0, 0, 1, 2]) 0, kafkaRecord (some [0, 0, 0, 0, 7]) 1] =
        .ok (some decoded) := by
  refine ⟨List.cons_ne_nil _ _, fun returned => ?_⟩
  obtain ⟨decoded, returned⟩ := returned
  have stray := readable_of_decode returned (kafkaRecord (some [0, 0, 0, 0, 7]) 1) (by simp)
  have id : (kafkaRecord (some [0, 0, 0, 0, 7]) 1).schemaId = some 7 := by decide +kernel
  rw [id] at stray
  obtain ⟨schema, fields, registered, -⟩ := stray
  cases registered

/-- A null value, a short one, a wrong magic byte, an id that is no int, and a payload that
cannot be read. -/
def garbage : List KafkaRecord :=
  [kafkaRecord none 0, kafkaRecord (some [0, 1]) 1, kafkaRecord (some [110, 111, 116, 45, 97]) 2,
    kafkaRecord (some [0, 255, 0, 0, 1]) 3, kafkaRecord (some [0, 0, 0, 0, 1, 2]) 4]

theorem unitable_garbage :
    (∀ record ∈ garbage, Readable demoSpark demoRegistry record.schemaId) ∧
      Unitable demoSpark (columnsOfGroups demoSpark demoRegistry garbage) := by
  have groups : columnsOfGroups demoSpark demoRegistry garbage = [expectedFields, expectedFields] := by
    decide +kernel
  refine ⟨?_, ?_, ?_⟩
  · intro record member
    have ids : record.schemaId = none ∨ record.schemaId = some 1 := by
      revert record
      decide +kernel
    obtain no_id | registered := ids
    · rw [no_id]
      trivial
    · rw [registered]
      exact ⟨"UnsubscribeEvent", expectedFields, rfl, rfl, fun _ => by decide +kernel⟩
  · rw [groups]
    unfold AllDistinct
    decide +kernel
  · rw [groups]
    intro first rest split
    cases split
    exact ⟨expectedFields, by decide +kernel⟩

theorem decode_returns_garbage :
    ∃ decoded, decode demoSpark demoRegistry 0 garbage = .ok (some decoded) ∧
      (decoded.rows.map fun row => row.toDecodedRow.position).Perm (garbage.map KafkaRecord.position) ∧
      DistinctNames decoded.columns :=
  (decode_returns_iff demoSpark demoRegistry 0 garbage (List.cons_ne_nil _ _)).2 unitable_garbage

theorem exists_decode_garbage : ∃ decoded, decode demoSpark demoRegistry 0 garbage = .ok (some decoded) := by
  obtain ⟨decoded, returned, -⟩ := exists_decode (List.cons_ne_nil _ _) unitable_garbage.1 unitable_garbage.2
  exact ⟨decoded, returned⟩

end Tikblog.Analytics
