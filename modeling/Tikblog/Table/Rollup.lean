import Tikblog.Table.Counting

/-!
# Summary tables

A table with one row for each group of another, which holds a measure of the group. What a
query selects by the group alone is the summary of the rows of these groups, so counts that
are added up over a summary are counts of the rows.
-/

namespace Tikblog.Table

variable {α σ γ μ : Type} [DecidableEq γ]

/-- `summary` has a row for each group of `rows`, and in it the measure of the group. -/
structure Rollup (group : α → γ) (key : σ → γ) (measure : σ → μ) (of : List α → μ) (rows : List α)
    (summary : List σ) : Prop where
  unique : (summary.map key).Nodup
  covers : ∀ g, (∃ s ∈ summary, key s = g) ↔ ∃ r ∈ rows, group r = g
  value : ∀ s ∈ summary, measure s = of (rows.filter fun r => group r = key s)

variable {group : α → γ} {key : σ → γ} {measure : σ → μ} {of : List α → μ} {rows : List α} {summary : List σ}

namespace Rollup

/-- The groups are those of the rows. -/
theorem keys_perm (h : Rollup group key measure of rows summary) : (summary.map key).Perm (groups group rows) := by
  apply (List.perm_ext_iff_of_nodup h.unique nodup_groups).2
  intro g
  rw [List.mem_map, mem_groups]
  exact h.covers g

theorem mem_iff (h : Rollup group key measure of rows summary) {g : γ} {m : μ} :
    (∃ s ∈ summary, key s = g ∧ measure s = m) ↔
      (∃ r ∈ rows, group r = g) ∧ m = of (rows.filter fun r => group r = g) := by
  constructor
  · rintro ⟨s, member, rfl, rfl⟩
    exact ⟨(h.covers _).1 ⟨s, member, rfl⟩, h.value s member⟩
  · rintro ⟨present, rfl⟩
    obtain ⟨s, member, rfl⟩ := (h.covers g).2 present
    exact ⟨s, member, rfl, h.value s member⟩

/-- A selection by the group keeps whole groups. -/
theorem selected (h : Rollup group key measure of rows summary) (chosen : γ → Bool) :
    Rollup group key measure of (rows.filter fun r => chosen (group r)) (summary.filter fun s => chosen (key s)) where
  unique := h.unique.sublist (List.filter_sublist.map key)
  covers g := by
    simp only [List.mem_filter]
    constructor
    · rintro ⟨s, ⟨member, holds⟩, rfl⟩
      obtain ⟨r, present, same⟩ := (h.covers _).1 ⟨s, member, rfl⟩
      exact ⟨r, ⟨present, same ▸ holds⟩, same⟩
    · rintro ⟨r, ⟨present, holds⟩, rfl⟩
      obtain ⟨s, member, same⟩ := (h.covers _).2 ⟨r, present, rfl⟩
      exact ⟨s, ⟨member, same ▸ holds⟩, same⟩
  value s member := by
    obtain ⟨member, holds⟩ := List.mem_filter.1 member
    rw [h.value s member, List.filter_filter]
    congr 1
    apply List.filter_congr
    intro r _
    by_cases same : group r = key s
    · rw [same, holds, Bool.and_true]
    · rw [decide_eq_false same, Bool.false_and]

/-- Measures added up over the summary, and over the groups. -/
theorem sum_measure (h : Rollup group key measure of rows summary) (f : μ → Nat) :
    (summary.map fun s => f (measure s)).sum =
      ((groups group rows).map fun g => f (of (rows.filter fun r => group r = g))).sum := by
  have values : (summary.map fun s => f (measure s)) =
      (summary.map key).map fun g => f (of (rows.filter fun r => group r = g)) := by
    rw [List.map_map]
    exact List.map_congr_left fun s member => congrArg f (h.value s member)
  rw [values]
  exact (h.keys_perm.map _).sum_nat

/-- Where the measure counts rows, the sum counts them all. -/
theorem sum_rows (h : Rollup group key measure of rows summary) {f : μ → Nat}
    (counts : ∀ rows, f (of rows) = rows.length) : (summary.map fun s => f (measure s)).sum = rows.length := by
  rw [h.sum_measure f]
  simp only [counts]
  exact sum_length_groups rows nodup_groups fun r member => mem_groups.2 ⟨r, member, rfl⟩

end Rollup

/-! ## Sorted results -/

section Sorted

variable {κ : Type} [LinearOrder κ]

/-- `ORDER BY key`. -/
def orderBy (key : α → κ) (rows : List α) : List α := rows.mergeSort fun a b => decide (key a ≤ key b)

theorem mem_orderBy {key : α → κ} {rows : List α} {r : α} : r ∈ orderBy key rows ↔ r ∈ rows := List.mem_mergeSort

/-- Rows with keys of their own are sorted in one way. -/
theorem sorted_orderBy {key : α → κ} {rows : List α} (unique : (rows.map key).Nodup) :
    ((orderBy key rows).map key).Pairwise (· < ·) := by
  have sorted : (orderBy key rows).Pairwise fun a b => key a ≤ key b := by
    refine (List.pairwise_mergeSort ?_ ?_ rows).imp of_decide_eq_true
    · intro a b c first second
      exact decide_eq_true ((of_decide_eq_true first).trans (of_decide_eq_true second))
    · intro a b
      rw [Bool.or_eq_true]
      exact (le_total (key a) (key b)).imp decide_eq_true decide_eq_true
  have distinct : ((orderBy key rows).map key).Nodup := ((List.mergeSort_perm rows _).map key).nodup_iff.2 unique
  rw [List.pairwise_map]
  exact sorted.imp₂ (fun _ _ before apart => lt_of_le_of_ne before apart) (List.pairwise_map.1 distinct)

end Sorted

end Tikblog.Table
