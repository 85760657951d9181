import Mathlib.Data.Set.Lattice
import Mathlib.Data.List.Forall2
import Mathlib.Order.CompletePartialOrder
import Tikblog.Program.Prog

/-!
# Footprints

A state seen as a family of resources. A program keeps within a footprint when no resource
outside it changes, and a fact is local to a footprint when it depends on nothing else. The
bodies of a loop whose footprints are apart do not disturb one another: what each of them
needs is still there when its turn comes, and what it establishes is still there at the end.
-/

namespace Tikblog.Program

variable {σ ι : Type} {V : ι → Type}

section Footprint

variable (view : (i : ι) → σ → V i)

/-- Nothing outside the footprint has changed. -/
def Within (footprint : Set ι) (s t : σ) : Prop := ∀ i, i ∉ footprint → view i t = view i s

/-- The fact depends on the footprint alone. -/
def LocalTo (footprint : Set ι) (P : σ → Prop) : Prop :=
  ∀ s t, (∀ i ∈ footprint, view i t = view i s) → P s → P t

variable {view} {F F' : Set ι} {P : σ → Prop} {s t u : σ}

theorem Within.refl : Within view F s s := fun _ _ => rfl

theorem Within.trans (first : Within view F s t) (second : Within view F t u) : Within view F s u :=
  fun i outside => (second i outside).trans (first i outside)

theorem Within.mono (sub : F ⊆ F') (within : Within view F s t) : Within view F' s t :=
  fun i outside => within i fun inside => outside (sub inside)

/-- What is apart from the footprint is not disturbed. -/
theorem LocalTo.kept (fact : LocalTo view F P) (within : Within view F' s t) (apart : Disjoint F F')
    (holds : P s) : P t :=
  fact s t (fun i inside => within i (Set.disjoint_left.1 apart inside)) holds

end Footprint

namespace Prog

variable {Op : Type} {Ans : Op → Type} {ε α β γ : Type} {exec : Exec Op Ans σ} {view : (i : ι) → σ → V i}

/-- A run keeps within the footprint, and what it returns satisfies `Q` where it ends. -/
def Confined (exec : Exec Op Ans σ) (view : (i : ι) → σ → V i) (footprint : Set ι) (Q : α → σ → Prop)
    (p : Prog Op Ans ε α) (s : σ) : Prop :=
  Always exec (fun _ _ => True) (fun r t => Within view footprint s t ∧ ∀ a, r = .ok a → Q a t) p s

/-- Throughout a run the state is what it was, every operation satisfies `N`, and what is
returned satisfies `Q`. -/
def Still (exec : Exec Op Ans σ) (N : Op → Prop) (Q : α → Prop) (p : Prog Op Ans ε α) (s : σ) : Prop :=
  Always exec (fun o t => t = s ∧ N o) (fun r t => t = s ∧ ∀ a, r = .ok a → Q a) p s

section Confined

variable {F F' : Set ι} {P : α → σ → Prop} {Q : β → σ → Prop} {p : Prog Op Ans ε α}
  {f : α → Prog Op Ans ε β} {s : σ}

theorem Confined.pure {a : α} (holds : P a s) : Confined exec view F P (.done (.ok a) : Prog Op Ans ε α) s :=
  ⟨.refl, fun _ returned => by cases returned; exact holds⟩

theorem Confined.raise {e : ε} : Confined exec view F P (.done (.error e) : Prog Op Ans ε α) s :=
  ⟨.refl, fun _ returned => nomatch returned⟩

theorem Confined.mono {P' : α → σ → Prop} (confined : Confined exec view F P p s) (sub : F ⊆ F')
    (results : ∀ a t, P a t → P' a t) : Confined exec view F' P' p s :=
  Always.mono (fun _ _ _ => trivial)
    (fun _ t ⟨within, post⟩ => ⟨within.mono sub, fun a returned => results a t (post a returned)⟩) confined

/-- The rest may rely on the footprint of the first part alone. -/
theorem Confined.seq (first : Confined exec view F P p s) (sub : F ⊆ F')
    (next : ∀ a t, Within view F s t → P a t → Confined exec view F' Q (f a) t) :
    Confined exec view F' Q (p.bind f) s := by
  apply Always.seq first
  rintro r t ⟨within, post⟩
  cases r with
  | error e => exact ⟨within.mono sub, fun _ returned => nomatch returned⟩
  | ok a =>
    apply Always.mono (fun _ _ _ => trivial) _ (next a t within (post a rfl))
    rintro r u ⟨later, post⟩
    exact ⟨(within.mono sub).trans later, post⟩

/-- A first part that changes nothing. -/
theorem Confined.seq_still {N : Op → Prop} {P : α → Prop} (first : Still exec N P p s)
    (next : ∀ a, P a → Confined exec view F' Q (f a) s) : Confined exec view F' Q (p.bind f) s := by
  have first : Confined exec view (∅ : Set ι) (fun a t => t = s ∧ P a) p s := by
    apply Always.mono (fun _ _ _ => trivial) _ first
    rintro r t ⟨rfl, post⟩
    exact ⟨.refl, fun a returned => ⟨rfl, post a returned⟩⟩
  apply first.seq (Set.empty_subset _)
  rintro a t _ ⟨rfl, post⟩
  exact next a post

/-- What every body needs is there at the start, and what it establishes is there at the end. -/
theorem Confined.mapEach {g : β → Prog Op Ans ε γ} (touches : β → Set ι) (Pre : β → σ → Prop)
    (R : β → γ → σ → Prop) (needs : ∀ x, LocalTo view (touches x) (Pre x))
    (gives : ∀ x y, LocalTo view (touches x) (R x y)) :
    ∀ {xs : List β} {s : σ},
      (∀ x ∈ xs, ∀ s, Pre x s → Confined exec view (touches x) (R x) (g x) s) →
      xs.Pairwise (fun x x' => Disjoint (touches x) (touches x')) → (∀ x ∈ xs, Pre x s) →
      Confined exec view (⋃ x ∈ xs, touches x)
        (fun ys t => List.Forall₂ (fun x y => R x y t) xs ys) (Prog.mapEach xs g) s
  | [], s, _, _, _ => .pure .nil
  | x :: xs, s, body, apart, start => by
    obtain ⟨others, apart⟩ := List.pairwise_cons.1 apart
    have first : touches x ⊆ ⋃ x' ∈ x :: xs, touches x' :=
      Set.subset_biUnion_of_mem (u := touches) List.mem_cons_self
    have rest : (⋃ x' ∈ xs, touches x') ⊆ ⋃ x' ∈ x :: xs, touches x' :=
      Set.biUnion_subset_biUnion_left fun _ member => List.mem_cons_of_mem _ member
    have separate : Disjoint (touches x) (⋃ x' ∈ xs, touches x') := Set.disjoint_iUnion₂_right.2 others
    apply Always.seq (body x List.mem_cons_self s (start x List.mem_cons_self))
    rintro r t ⟨within, established⟩
    cases r with
    | error e => exact ⟨within.mono first, fun _ returned => nomatch returned⟩
    | ok y =>
      have ready : ∀ x' ∈ xs, Pre x' t := fun x' member =>
        (needs x').kept within (others x' member).symm (start x' (List.mem_cons_of_mem _ member))
      have later := Confined.mapEach touches Pre R needs gives
        (fun x' member => body x' (List.mem_cons_of_mem _ member)) apart ready
      apply Always.seq later
      rintro r u ⟨within', results⟩
      have all := (within.mono first).trans (within'.mono rest)
      cases r with
      | error e => exact ⟨all, fun _ returned => nomatch returned⟩
      | ok ys =>
        refine ⟨all, fun zs returned => ?_⟩
        cases returned
        exact .cons ((gives x y).kept within' separate (established y rfl)) (results ys rfl)

end Confined

section Still

variable {N : Op → Prop} {P : α → Prop} {Q : β → Prop} {p : Prog Op Ans ε α} {f : α → Prog Op Ans ε β} {s : σ}

theorem Still.pure {a : α} (holds : P a) : Still exec N P (.done (.ok a) : Prog Op Ans ε α) s :=
  ⟨rfl, fun _ returned => by cases returned; exact holds⟩

theorem Still.seq (first : Still exec N P p s) (next : ∀ a, P a → Still exec N Q (f a) s) :
    Still exec N Q (p.bind f) s := by
  apply Always.seq first
  rintro r t ⟨rfl, post⟩
  cases r with
  | error e => exact ⟨rfl, fun _ returned => nomatch returned⟩
  | ok a => exact next a (post a rfl)

/-- Where each body returns a known value, the loop returns their list. -/
theorem Still.mapEach {g : β → Prog Op Ans ε γ} {xs : List β} {ys : List γ}
    (body : List.Forall₂ (fun x y => Still exec N (fun z => z = y) (g x) s) xs ys) :
    Still exec N (fun zs => zs = ys) (Prog.mapEach xs g) s := by
  induction body with
  | nil => exact .pure rfl
  | cons first _ ih =>
    apply first.seq
    rintro _ rfl
    apply ih.seq
    rintro _ rfl
    exact .pure rfl

end Still

end Prog

end Tikblog.Program
