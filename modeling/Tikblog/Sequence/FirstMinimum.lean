import Mathlib.Data.List.MinMax

/-!
# The first minimum of a sequence

`List.argmin f l` is the earliest element of `l` among those with the least `f`. It is what
remains of a sequence when each element replaces the one kept so far only if it is strictly
smaller. Repeating an element changes nothing, and the order matters exactly when several
elements attain the minimum.
-/

namespace Tikblog.Sequence

variable {α β : Type*} [LinearOrder β] {f : α → β} {l l' : List α} {a b : α}

/-- `a` is the first element of `l` that attains the minimum of `f`. -/
def IsFirstMin (f : α → β) (l : List α) (a : α) : Prop :=
  ∃ before after, l = before ++ a :: after ∧ (∀ b ∈ before, f a < f b) ∧ ∀ b ∈ after, f a ≤ f b

/-- An element that comes later must be strictly smaller to take over. -/
theorem argmin_concat_eq (l : List α) (a : α) :
    (l ++ [a]).argmin f = if ∀ b ∈ l, f a < f b then some a else l.argmin f := by
  rw [List.argmin_concat]
  cases h : l.argmin f with
  | none => simp [List.argmin_eq_none.1 h]
  | some c =>
    by_cases smaller : f a < f c
    · have all : ∀ b ∈ l, f a < f b := fun b hb => smaller.trans_le (List.le_of_mem_argmin hb h)
      simp [smaller, if_pos all]
    · have some_not : ¬ ∀ b ∈ l, f a < f b := fun all => smaller (all c (List.argmin_mem h))
      simp [smaller, if_neg some_not]

theorem isFirstMin_concat (h : IsFirstMin f l a) (hb : f a ≤ f b) : IsFirstMin f (l ++ [b]) a := by
  obtain ⟨before, after, rfl, strict, weak⟩ := h
  refine ⟨before, after ++ [b], by simp, strict, ?_⟩
  simpa [or_imp, forall_and] using ⟨weak, hb⟩

theorem isFirstMin_of_argmin (h : l.argmin f = some a) : IsFirstMin f l a := by
  induction l using List.reverseRecOn generalizing a with
  | nil => simp at h
  | append_singleton l b ih =>
    rw [argmin_concat_eq] at h
    split at h
    · next smaller =>
      cases h
      exact ⟨l, [], rfl, smaller, by simp⟩
    · next notSmaller =>
      obtain ⟨c, hc, le⟩ : ∃ c ∈ l, f c ≤ f b := by simpa using notSmaller
      exact isFirstMin_concat (ih h) ((List.le_of_mem_argmin hc h).trans le)

/-- Sequences with the same elements and no tie for the minimum have the same first minimum. -/
theorem argmin_congr (same : ∀ a, a ∈ l ↔ a ∈ l')
    (unique : ∀ a ∈ l, ∀ b ∈ l, (∀ c ∈ l, f a ≤ f c) → (∀ c ∈ l, f b ≤ f c) → a = b) :
    l.argmin f = l'.argmin f := by
  cases h : l.argmin f with
  | none =>
    have empty : l' = [] := List.eq_nil_iff_forall_not_mem.2 fun a ha => by
      simpa [List.argmin_eq_none.1 h] using (same a).2 ha
    simp [empty]
  | some a =>
    cases h' : l'.argmin f with
    | none => simpa [List.argmin_eq_none.1 h'] using (same a).1 (List.argmin_mem h)
    | some b =>
      have least_a : ∀ c ∈ l, f a ≤ f c := fun c hc => List.le_of_mem_argmin hc h
      have least_b : ∀ c ∈ l, f b ≤ f c := fun c hc => List.le_of_mem_argmin ((same c).1 hc) h'
      rw [unique a (List.argmin_mem h) b ((same b).2 (List.argmin_mem h')) least_a least_b]

/-- Of two tied elements, the one that comes first is kept. -/
theorem argmin_cons_of_least (least : ∀ b ∈ l, f a ≤ f b) : (a :: l).argmin f = some a := by
  rw [List.argmin_cons]
  cases h : l.argmin f with
  | none => rfl
  | some c => simp [not_lt.2 (least c (List.argmin_mem h))]

end Tikblog.Sequence
