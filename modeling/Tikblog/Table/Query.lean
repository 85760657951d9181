import Mathlib.Data.List.Dedup
import Tikblog.Table.Keyed

/-!
# Groups and joins

The values of a grouping, each once, and the left join, as lists.
-/

namespace Tikblog.Table

variable {α β γ : Type}

/-- The values of `groupBy(key)`, each once. -/
def groups [DecidableEq γ] (key : α → γ) (rows : List α) : List γ := (rows.map key).dedup

theorem mem_groups [DecidableEq γ] {key : α → γ} {rows : List α} {g : γ} :
    g ∈ groups key rows ↔ ∃ r ∈ rows, key r = g := by
  unfold groups
  rw [List.mem_dedup, List.mem_map]

theorem nodup_groups [DecidableEq γ] {key : α → γ} {rows : List α} : (groups key rows).Nodup :=
  List.nodup_dedup _

/-- Rows sorted into groups, each row into the group of its key. -/
theorem perm_flatMap_filter [DecidableEq γ] {key : α → γ} {keys : List γ} (rows : List α)
    (distinct : keys.Nodup) (covers : ∀ r ∈ rows, key r ∈ keys) :
    (keys.flatMap fun k => rows.filter fun r => key r = k).Perm rows := by
  induction rows with
  | nil => simp
  | cons r rows ih =>
    have rest := ih fun x member => covers x (List.mem_cons_of_mem _ member)
    obtain ⟨before, after, split⟩ := List.append_of_mem (covers r List.mem_cons_self)
    rw [split] at distinct
    obtain ⟨-, others, apart⟩ := List.nodup_append.1 distinct
    have fresh := (List.nodup_cons.1 others).1
    -- only the group of `r` gains an element
    have same (ks : List γ) (absent : key r ∉ ks) :
        (ks.flatMap fun k => (r :: rows).filter fun x => key x = k) =
          ks.flatMap fun k => rows.filter fun x => key x = k := by
      apply List.flatMap_congr
      intro k member
      rw [List.filter_cons_of_neg]
      intro holds
      exact absent (of_decide_eq_true holds ▸ member)
    have absent : key r ∉ before := fun member => apart _ member _ List.mem_cons_self rfl
    rw [split, List.flatMap_append, List.flatMap_cons, same before absent, same after fresh,
      List.filter_cons_of_pos (by simp)]
    rw [split, List.flatMap_append, List.flatMap_cons] at rest
    refine List.Perm.trans ?_ (List.Perm.cons r rest)
    rw [List.cons_append]
    exact List.perm_middle

/-- A left join: a row without a partner is kept, with none. -/
def leftJoin (left : List α) (right : List β) (on : α → β → Bool) : List (α × Option β) :=
  left.flatMap fun a =>
    let partners := right.filter (on a)
    if partners.isEmpty then [(a, none)] else partners.map fun b => (a, some b)

/-- One row of the left side and its partners. -/
theorem mem_partners {right : List β} {on : α → β → Bool} {x a : α} {o : Option β} :
    ((a, o) ∈ if (right.filter (on x)).isEmpty then [(x, none)]
      else (right.filter (on x)).map fun b => (x, some b)) ↔
      a = x ∧ ((o = none ∧ ∀ b ∈ right, on a b = false) ∨ ∃ b ∈ right, on a b = true ∧ o = some b) := by
  by_cases alone : ∀ b ∈ right, on x b = false
  · have none_left : right.filter (on x) = [] := by
      apply List.filter_eq_nil_iff.2
      intro b hb
      rw [alone b hb]
      exact Bool.false_ne_true
    rw [none_left]
    constructor
    · intro h
      obtain ⟨rfl, rfl⟩ := Prod.mk.injEq .. ▸ List.mem_singleton.1 h
      exact ⟨rfl, Or.inl ⟨rfl, alone⟩⟩
    · rintro ⟨rfl, ⟨rfl, _⟩ | ⟨b, hb, joined, _⟩⟩
      · exact List.mem_singleton.2 rfl
      · rw [alone b hb] at joined
        cases joined
  · push Not at alone
    obtain ⟨b, hb, joined⟩ := alone
    have joined : on x b = true := by simpa using joined
    have found : b ∈ right.filter (on x) := List.mem_filter.2 ⟨hb, joined⟩
    have some_left : (right.filter (on x)).isEmpty = false :=
      List.isEmpty_eq_false_iff_exists_mem.2 ⟨b, found⟩
    rw [some_left]
    constructor
    · intro h
      obtain ⟨c, hc, same⟩ := List.mem_map.1 h
      obtain ⟨rfl, rfl⟩ := Prod.mk.injEq .. ▸ same
      obtain ⟨hc, joins⟩ := List.mem_filter.1 hc
      exact ⟨rfl, Or.inr ⟨c, hc, joins, rfl⟩⟩
    · rintro ⟨rfl, ⟨_, alone⟩ | ⟨c, hc, joins, rfl⟩⟩
      · rw [alone b hb] at joined
        cases joined
      · exact List.mem_map.2 ⟨c, List.mem_filter.2 ⟨hc, joins⟩, rfl⟩

theorem mem_leftJoin {left : List α} {right : List β} {on : α → β → Bool} {a : α} {o : Option β} :
    (a, o) ∈ leftJoin left right on ↔
      a ∈ left ∧ ((o = none ∧ ∀ b ∈ right, on a b = false) ∨ ∃ b ∈ right, on a b = true ∧ o = some b) := by
  unfold leftJoin
  rw [List.mem_flatMap]
  constructor
  · rintro ⟨x, hx, h⟩
    obtain ⟨rfl, which⟩ := mem_partners.1 h
    exact ⟨hx, which⟩
  · rintro ⟨ha, which⟩
    exact ⟨a, ha, mem_partners.2 ⟨rfl, which⟩⟩

/-- Rows with distinct keys, joined with themselves on the key. -/
theorem leftJoin_self [DecidableEq γ] {key : α → γ} {rows : List α} {on : α → α → Bool}
    (unique : (rows.map key).Nodup) (on_key : ∀ a ∈ rows, ∀ b ∈ rows, on a b = decide (key b = key a)) :
    leftJoin rows rows on = rows.map fun a => (a, some a) := by
  unfold leftJoin
  rw [List.map_eq_flatMap]
  apply List.flatMap_congr
  intro a ha
  have alone : rows.filter (on a) = [a] := by
    rw [List.filter_congr (on_key a ha)]
    exact filter_key unique ha
  rw [alone]
  rfl

end Tikblog.Table
