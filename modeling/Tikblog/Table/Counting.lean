import Mathlib.Algebra.GroupWithZero.Nat
import Mathlib.Data.Finset.Card
import Tikblog.Table.Keyed
import Tikblog.Table.Query

/-!
# Counts by group

Counts taken group by group and added up again. Rows add up to the rows there are; distinct
keys add up to the distinct keys there are exactly when no key occurs in two groups.
-/

namespace Tikblog.Table

variable {α γ κ : Type} [DecidableEq γ] [DecidableEq κ]

/-- The rows of every group. -/
theorem sum_length_groups {group : α → γ} {groups : List γ} (rows : List α) (distinct : groups.Nodup)
    (covers : ∀ r ∈ rows, group r ∈ groups) :
    (groups.map fun g => (rows.filter fun r => group r = g).length).sum = rows.length := by
  rw [← List.length_flatMap]
  exact (perm_flatMap_filter rows distinct covers).length_eq

/-- Lists without duplicates that have the same members are of one length. -/
theorem length_eq_of_nodup {xs ys : List α} (hx : xs.Nodup) (hy : ys.Nodup) (same : ∀ x, x ∈ xs ↔ x ∈ ys) :
    xs.length = ys.length :=
  ((List.perm_ext_iff_of_nodup hx hy).2 same).length_eq

section Distinct

variable (group : α → γ) (key : α → κ) (rows : List α)

/-- The groups with their keys, each once. -/
def groupKeys : List (γ × κ) := (rows.map fun r => (group r, key r)).dedup

variable {group key rows}

theorem mem_groupKeys {p : γ × κ} : p ∈ groupKeys group key rows ↔ ∃ r ∈ rows, (group r, key r) = p := by
  rw [groupKeys, List.mem_dedup, List.mem_map]

/-- Distinct keys, group by group. -/
theorem sum_distinct_groups : ((groups group rows).map fun g =>
    ((rows.filter fun r => group r = g).map key).dedup.length).sum = (groupKeys group key rows).length := by
  rw [← @sum_length_groups _ _ _ Prod.fst _ (groupKeys group key rows) nodup_groups]
  · congr 1
    apply List.map_congr_left
    intro g _
    have of_group : ((groupKeys group key rows).filter fun p => p.1 = g).length =
        (((groupKeys group key rows).filter fun p => p.1 = g).map Prod.snd).length := by
      rw [List.length_map]
    rw [of_group]
    apply length_eq_of_nodup (List.nodup_dedup _)
    · apply List.Nodup.map_on _ ((List.nodup_dedup _).filter _)
      intro p hp q hq same
      have first := of_decide_eq_true (List.mem_filter.1 hp).2
      have second := of_decide_eq_true (List.mem_filter.1 hq).2
      exact Prod.ext (first.trans second.symm) same
    · intro k
      simp only [List.mem_dedup, List.mem_map, List.mem_filter, mem_groupKeys, decide_eq_true_eq]
      constructor
      · rintro ⟨r, ⟨hr, rfl⟩, rfl⟩
        exact ⟨_, ⟨⟨r, hr, rfl⟩, rfl⟩, rfl⟩
      · rintro ⟨_, ⟨⟨r, hr, rfl⟩, rfl⟩, rfl⟩
        exact ⟨r, ⟨hr, rfl⟩, rfl⟩
  · intro p hp
    obtain ⟨r, hr, rfl⟩ := mem_groupKeys.1 hp
    exact mem_groups.2 ⟨r, hr, rfl⟩

/-- **Distinct keys add up** exactly when no key occurs in two groups. -/
theorem sum_distinct_eq_iff : ((groups group rows).map fun g =>
      ((rows.filter fun r => group r = g).map key).dedup.length).sum = (rows.map key).dedup.length ↔
    ∀ r ∈ rows, ∀ r' ∈ rows, key r = key r' → group r = group r' := by
  rw [sum_distinct_groups, groupKeys, ← List.card_toFinset, ← List.card_toFinset]
  have image : (rows.map key).toFinset = (rows.map fun r => (group r, key r)).toFinset.image Prod.snd := by
    ext k
    simp
  rw [image, eq_comm, Finset.card_image_iff]
  constructor
  · intro injective r hr r' hr' same
    have listed {x : α} (hx : x ∈ rows) : (group x, key x) ∈ (rows.map fun r => (group r, key r)).toFinset :=
      List.mem_toFinset.2 (List.mem_map_of_mem hx)
    exact congrArg Prod.fst (injective (listed hr) (listed hr') same)
  · intro one p hp q hq same
    obtain ⟨r, hr, rfl⟩ := List.mem_map.1 (List.mem_toFinset.1 hp)
    obtain ⟨r', hr', rfl⟩ := List.mem_map.1 (List.mem_toFinset.1 hq)
    exact Prod.ext (one r hr r' hr' same) same

end Distinct

section Chosen

variable {key : α → κ} {rows chosen chosen' : List α}

/-- However one row of each key is chosen, the keys are the same. -/
theorem DistinctBy.keys_perm (h : DistinctBy key rows chosen) :
    (chosen.map key).Perm (rows.map key).dedup := by
  apply (List.perm_ext_iff_of_nodup h.unique (List.nodup_dedup _)).2
  intro k
  rw [List.mem_dedup]
  constructor
  · intro member
    obtain ⟨r, hr, rfl⟩ := List.mem_map.1 member
    exact List.mem_map_of_mem (h.subset hr)
  · intro member
    obtain ⟨r, hr, rfl⟩ := List.mem_map.1 member
    exact h.covers r hr

/-- The keys in a set, and by another choice those outside it. -/
theorem DistinctBy.length_filter_add (h : DistinctBy key rows chosen) (h' : DistinctBy key rows chosen')
    (held : κ → Bool) : (chosen.filter fun r => held (key r)).length +
      (chosen'.filter fun r => !held (key r)).length = (rows.map key).dedup.length := by
  have keys (xs : List α) (p : κ → Bool) : (xs.filter fun r => p (key r)).length =
      ((xs.map key).filter p).length := by
    rw [List.filter_map, List.length_map]
    rfl
  rw [keys chosen held, keys chosen' (fun k => !held k), (h.keys_perm.filter held).length_eq,
    (h'.keys_perm.filter fun k => !held k).length_eq]
  exact List.length_eq_length_filter_add held |>.symm

end Chosen

end Tikblog.Table
