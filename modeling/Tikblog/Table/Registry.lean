import Mathlib.Data.List.Nodup

/-!
# Registries

Records with an identifier of their own, in a stable order. A record is looked up by a
property, the first that has it, and replaced by its identifier; a new one may come to stand
anywhere. What is found by a property that a change does not touch stays what it was.
-/

namespace Tikblog.Table

variable {α κ : Type}

/-- Records of which no two share an identifier. -/
@[ext] structure Registry (id : α → κ) where
  records : List α
  distinct : (records.map id).Nodup

namespace Registry

variable {id : α → κ}

/-- The first record with a property. -/
def first (r : Registry id) (p : α → Bool) : Option α := r.records.find? p

/-- Replace the record with an identifier. -/
def put [DecidableEq κ] (r : Registry id) (key : κ) (f : α → α) (keeps : ∀ a, id (f a) = id a) :
    Registry id where
  records := r.records.map fun a => if id a = key then f a else a
  distinct := by
    have same : (r.records.map fun a => if id a = key then f a else a).map id = r.records.map id := by
      rw [List.map_map]
      apply List.map_congr_left
      intro a _
      by_cases here : id a = key
      · simp only [Function.comp_apply, if_pos here, keeps]
      · simp only [Function.comp_apply, if_neg here]
    rw [same]
    exact r.distinct

/-- The registry with one record more. -/
def Inserts (r : Registry id) (a : α) (r' : Registry id) : Prop :=
  ∃ before after, r.records = before ++ after ∧ r'.records = before ++ a :: after

variable {r r' : Registry id} {p : α → Bool} {a : α} {f : α → α}

theorem mem_of_first (found : r.first p = some a) : a ∈ r.records := List.mem_of_find?_eq_some found

theorem holds_of_first (found : r.first p = some a) : p a = true := List.find?_some found

theorem eq_of_id {b : α} (ha : a ∈ r.records) (hb : b ∈ r.records) (same : id a = id b) : a = b :=
  List.inj_on_of_nodup_map r.distinct ha hb same

section Put

variable [DecidableEq κ] (keeps : ∀ a, id (f a) = id a)

/-- A record that is as it should be stays, and so does the registry. -/
theorem put_eq_self (here : a ∈ r.records) (same : f a = a) : r.put (id a) f keeps = r := by
  apply Registry.ext
  have each : ∀ b ∈ r.records, (if id b = id a then f b else b) = b := by
    intro b member
    split
    · next ids => rw [eq_of_id member here ids, same]
    · rfl
  exact (List.map_congr_left each).trans (List.map_id _)

theorem find_map_of_same {p : α → Bool} {g : α → α} {l : List α}
    (same : ∀ b ∈ l, g b = b ∨ p b = false ∧ p (g b) = false) : (l.map g).find? p = l.find? p := by
  induction l with
  | nil => rfl
  | cons b l ih =>
    have later := ih fun c member => same c (List.mem_cons_of_mem b member)
    obtain kept | ⟨before, after⟩ := same b List.mem_cons_self
    · rw [List.map_cons, List.find?_cons, List.find?_cons, kept, later]
    · rw [List.map_cons, List.find?_cons, List.find?_cons, before, after, later]

/-- A record that has not the property, before and after, does not matter to what is found. -/
theorem first_put_of_not {key : κ} (before : ∀ b ∈ r.records, id b = key → p b = false)
    (after : ∀ b ∈ r.records, id b = key → p (f b) = false) : (r.put key f keeps).first p = r.first p := by
  apply find_map_of_same
  intro b member
  by_cases here : id b = key
  · rw [if_pos here]
    exact .inr ⟨before b member here, after b member here⟩
  · exact .inl (if_neg here)

/-- The first record with the property, changed. -/
theorem first_put (found : r.first p = some a) (holds : p (f a) = true) :
    (r.put (id a) f keeps).first p = some (f a) := by
  obtain ⟨_, front, back, split, earlier⟩ := List.find?_eq_some_iff_append.1 found
  have others : ∀ b ∈ front, ¬ id b = id a := by
    intro b member same
    have distinct := r.distinct
    rw [split, List.map_append, List.map_cons, List.nodup_append] at distinct
    exact distinct.2.2 _ (List.mem_map_of_mem member) _ List.mem_cons_self same
  have kept : front.map (fun b => if id b = id a then f b else b) = front := by
    conv_rhs => rw [← List.map_id front]
    exact List.map_congr_left fun b member => if_neg (others b member)
  have none : front.find? p = none :=
    List.find?_eq_none.2 fun b member => by simpa using earlier b member
  simp only [first, put, split, List.map_append, List.map_cons, kept, if_true, List.find?_append, none,
    Option.none_or, List.find?_cons_of_pos holds]

end Put

theorem first_insert_of_not (inserts : r.Inserts a r') (not : p a = false) : r'.first p = r.first p := by
  obtain ⟨before, after, old, new⟩ := inserts
  simp [first, old, new, List.find?_append, not]

theorem first_insert (inserts : r.Inserts a r') (none : r.first p = none) (holds : p a = true) :
    r'.first p = some a := by
  obtain ⟨before, after, old, new⟩ := inserts
  rw [first, old, List.find?_append, Option.or_eq_none_iff] at none
  rw [first, new, List.find?_append, none.1, Option.none_or, List.find?_cons_of_pos holds]

end Registry

end Tikblog.Table
