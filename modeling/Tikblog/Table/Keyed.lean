import Mathlib.Data.List.Nodup
import Mathlib.Data.List.Pairwise
import Mathlib.Data.List.Basic

/-!
# Tables with a key

`insertNew` is a merge that only inserts: the rows of the target stay as they are, and a
row of the source joins them when the target holds no row with its key. It does not look
for duplicates within the source; `DistinctBy` says what a source without them is.
-/

namespace Tikblog.Table

variable {α κ : Type} [DecidableEq κ]

/-- The source rows whose key the target does not hold. -/
def newRows (key : α → κ) (target source : List α) : List α :=
  source.filter fun s => key s ∉ target.map key

/-- Merge that inserts the unmatched rows of the source, every one of them. -/
def insertNew (key : α → κ) (target source : List α) : List α :=
  target ++ newRows key target source

/-- `chosen` keeps one row of `rows` for each key, whichever it is. -/
structure DistinctBy (key : α → κ) (rows chosen : List α) : Prop where
  subset : chosen ⊆ rows
  unique : (chosen.map key).Nodup
  covers : ∀ r ∈ rows, key r ∈ chosen.map key

/-- Under a unique key, a row is the only one with its key. -/
theorem filter_key {key : α → κ} {rows : List α} (unique : (rows.map key).Nodup) {r : α} (hr : r ∈ rows) :
    (rows.filter fun s => key s = key r) = [r] := by
  induction rows with
  | nil => cases hr
  | cons x rows ih =>
    rw [List.map_cons, List.nodup_cons] at unique
    obtain ⟨fresh, unique⟩ := unique
    by_cases same : key x = key r
    · have head : x = r := by
        rcases List.mem_cons.1 hr with rfl | later
        · rfl
        · exact absurd (same ▸ List.mem_map_of_mem later) fresh
      subst head
      have others : (rows.filter fun s => key s = key x) = [] := by
        apply List.filter_eq_nil_iff.2
        intro s hs same
        exact fresh (of_decide_eq_true same ▸ List.mem_map_of_mem hs)
      rw [List.filter_cons, others]
      simp
    · rw [List.filter_cons_of_neg (by simpa using same)]
      rcases List.mem_cons.1 hr with rfl | later
      · exact absurd rfl same
      · exact ih unique later

section Insert

variable {key : α → κ} {target source : List α}

theorem mem_newRows {r : α} :
    r ∈ newRows key target source ↔ r ∈ source ∧ key r ∉ target.map key := by
  simp [newRows]

theorem mem_insertNew {r : α} :
    r ∈ insertNew key target source ↔ r ∈ target ∨ (r ∈ source ∧ key r ∉ target.map key) := by
  rw [insertNew, List.mem_append, mem_newRows]

theorem prefix_insertNew : target <+: insertNew key target source :=
  List.prefix_append _ _

/-- Whatever the source holds, its keys are in the table afterwards. -/
theorem mem_keys_newRows {k : κ} :
    k ∈ (newRows key target source).map key ↔ k ∉ target.map key ∧ k ∈ source.map key := by
  constructor
  · intro h
    obtain ⟨r, hr, rfl⟩ := List.mem_map.1 h
    exact ⟨(mem_newRows.1 hr).2, List.mem_map_of_mem (mem_newRows.1 hr).1⟩
  · rintro ⟨absent, h⟩
    obtain ⟨r, hr, rfl⟩ := List.mem_map.1 h
    exact List.mem_map_of_mem (mem_newRows.2 ⟨hr, absent⟩)

theorem mem_keys_insertNew {k : κ} :
    k ∈ (insertNew key target source).map key ↔ k ∈ target.map key ∨ k ∈ source.map key := by
  constructor
  · intro h
    obtain ⟨r, hr, rfl⟩ := List.mem_map.1 h
    rcases mem_insertNew.1 hr with old | ⟨new, _⟩
    · exact Or.inl (List.mem_map_of_mem old)
    · exact Or.inr (List.mem_map_of_mem new)
  · rintro (h | h)
    · obtain ⟨r, hr, rfl⟩ := List.mem_map.1 h
      exact List.mem_map_of_mem (mem_insertNew.2 (Or.inl hr))
    · by_cases held : k ∈ target.map key
      · obtain ⟨r, hr, rfl⟩ := List.mem_map.1 held
        exact List.mem_map_of_mem (mem_insertNew.2 (Or.inl hr))
      · obtain ⟨r, hr, rfl⟩ := List.mem_map.1 h
        exact List.mem_map_of_mem (mem_insertNew.2 (Or.inr ⟨hr, held⟩))

/-- The key stays unique when it is unique within the source. -/
theorem nodup_insertNew (ht : (target.map key).Nodup) (hs : (source.map key).Nodup) :
    ((insertNew key target source).map key).Nodup := by
  unfold insertNew
  rw [List.map_append]
  have sub : ((newRows key target source).map key).Sublist (source.map key) :=
    List.filter_sublist.map key
  refine List.nodup_append'.2 ⟨ht, hs.sublist sub, ?_⟩
  intro k hk hk'
  obtain ⟨r, hr, rfl⟩ := List.mem_map.1 hk'
  exact (mem_newRows.1 hr).2 hk

/-- Where no row of the target is of a kind that the key tells, a source of that kind is inserted
as it is. -/
theorem newRows_of_fresh {own : α → Prop} (keyed : ∀ row row', key row = key row' → own row → own row')
    (fresh : ∀ row ∈ target, ¬ own row) (mine : ∀ row ∈ source, own row) :
    newRows key target source = source := by
  apply List.filter_eq_self.2
  intro row member
  apply decide_eq_true
  intro held
  obtain ⟨old, old_in, same⟩ := List.mem_map.1 held
  exact fresh old old_in (keyed row old same.symm (mine row member))

theorem filter_insertNew {own : α → Prop} [DecidablePred own]
    (keyed : ∀ row row', key row = key row' → own row → own row')
    (fresh : target.filter (fun row => own row) = []) (mine : ∀ row ∈ source, own row) :
    (insertNew key target source).filter (fun row => own row) = source := by
  have absent : ∀ row ∈ target, ¬ own row := by
    intro row member held
    exact List.filter_eq_nil_iff.1 fresh row member (decide_eq_true held)
  rw [insertNew, List.filter_append, fresh, newRows_of_fresh keyed absent mine, List.nil_append]
  exact List.filter_eq_self.2 fun row member => decide_eq_true (mine row member)

end Insert

section Distinct

variable {key : α → κ}

/-- The choice that keeps the last row of each key. -/
def lastOfEach (key : α → κ) (rows : List α) : List α :=
  rows.pwFilter fun a b => key a ≠ key b

theorem distinctBy_lastOfEach (rows : List α) : DistinctBy key rows (lastOfEach key rows) := by
  refine ⟨List.pwFilter_subset rows, ?_, ?_⟩
  · exact List.pairwise_map.2 (List.pairwise_pwFilter rows)
  · induction rows with
    | nil => intro r hr; cases hr
    | cons x rows ih =>
      intro r hr
      unfold lastOfEach at *
      by_cases fresh : ∀ b ∈ rows.pwFilter (fun a b => key a ≠ key b), key x ≠ key b
      · rw [List.pwFilter_cons_of_pos fresh, List.map_cons]
        rcases List.mem_cons.1 hr with rfl | hr
        · exact List.mem_cons_self
        · exact List.mem_cons_of_mem _ (ih r hr)
      · rw [List.pwFilter_cons_of_neg fresh]
        rcases List.mem_cons.1 hr with rfl | hr
        · push Not at fresh
          obtain ⟨b, hb, same⟩ := fresh
          exact same ▸ List.mem_map_of_mem hb
        · exact ih r hr

end Distinct

end Tikblog.Table
