import Mathlib.Data.List.Forall2

/-!
# Loops that may raise

`mapM` in `Except` succeeds exactly when every body does, and then with their results in
order; `foldlM` when each body does on what the ones before it made.
-/

namespace Tikblog.Program

variable {α β γ ε : Type} {f : α → Except ε β} {xs : List α} {ys : List β}

theorem mapM_cons_eq_ok {x : α} :
    (x :: xs).mapM f = .ok ys ↔ ∃ y rest, f x = .ok y ∧ xs.mapM f = .ok rest ∧ ys = y :: rest := by
  rw [List.mapM_cons]
  cases head : f x with
  | error e =>
    constructor
    · intro h
      cases h
    · intro h
      obtain ⟨y, rest, found, -⟩ := h
      cases found
  | ok y =>
    cases tail : xs.mapM f with
    | error e =>
      constructor
      · intro h
        cases h
      · intro h
        obtain ⟨y, rest, -, found, -⟩ := h
        cases found
    | ok rest =>
      constructor
      · intro h
        cases h
        exact ⟨y, rest, rfl, rfl, rfl⟩
      · intro h
        obtain ⟨y', rest', found, found', rfl⟩ := h
        cases found
        cases found'
        rfl

theorem exists_mapM_eq_ok : (∃ ys, xs.mapM f = .ok ys) ↔ ∀ x ∈ xs, ∃ y, f x = .ok y := by
  induction xs with
  | nil =>
    constructor
    · intro _ x member
      cases member
    · exact fun _ => ⟨[], rfl⟩
  | cons x xs ih =>
    rw [List.forall_mem_cons, ← ih]
    constructor
    · intro h
      obtain ⟨ys, results⟩ := h
      obtain ⟨y, rest, head, tail, -⟩ := mapM_cons_eq_ok.1 results
      exact ⟨⟨y, head⟩, rest, tail⟩
    · intro h
      obtain ⟨⟨y, head⟩, rest, tail⟩ := h
      exact ⟨y :: rest, mapM_cons_eq_ok.2 ⟨y, rest, head, tail, rfl⟩⟩

/-- What each result has of its argument, the list of results has of the list. -/
theorem map_of_mapM {g : β → γ} {h : α → γ} (each : ∀ x ∈ xs, ∀ y, f x = .ok y → g y = h x)
    (results : xs.mapM f = .ok ys) : ys.map g = xs.map h := by
  induction xs generalizing ys with
  | nil =>
    cases results
    rfl
  | cons x xs ih =>
    obtain ⟨y, rest, head, tail, rfl⟩ := mapM_cons_eq_ok.1 results
    rw [List.map_cons, List.map_cons, each x List.mem_cons_self y head,
      ih (fun z member => each z (List.mem_cons_of_mem _ member)) tail]

/-- The results are those of the elements, in order. -/
theorem forall₂_of_mapM (results : xs.mapM f = .ok ys) : List.Forall₂ (fun x y => f x = .ok y) xs ys := by
  induction xs generalizing ys with
  | nil =>
    cases results
    exact .nil
  | cons x xs ih =>
    obtain ⟨y, rest, head, tail, rfl⟩ := mapM_cons_eq_ok.1 results
    exact .cons head (ih tail)

/-- Each result comes from an element. -/
theorem exists_of_forall₂ {R : α → β → Prop} (related : List.Forall₂ R xs ys) {y : β} (member : y ∈ ys) :
    ∃ x ∈ xs, R x y := by
  induction related with
  | nil => cases member
  | cons head _ ih =>
    obtain rfl | later := List.mem_cons.1 member
    · exact ⟨_, List.mem_cons_self, head⟩
    · obtain ⟨x, listed, same⟩ := ih later
      exact ⟨x, List.mem_cons_of_mem _ listed, same⟩

theorem foldlM_cons_eq_ok {step : β → α → Except ε β} {x : α} {b c : β} :
    (x :: xs).foldlM step b = .ok c ↔ ∃ d, step b x = .ok d ∧ xs.foldlM step d = .ok c := by
  rw [List.foldlM_cons]
  cases first : step b x with
  | error e =>
    constructor
    · intro h
      cases h
    · intro h
      obtain ⟨d, found, -⟩ := h
      cases found
  | ok d =>
    constructor
    · exact fun rest => ⟨d, rfl, rest⟩
    · intro h
      obtain ⟨d', found, rest⟩ := h
      cases found
      exact rest

end Tikblog.Program
