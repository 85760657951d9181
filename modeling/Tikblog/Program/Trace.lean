import Tikblog.Program.Component
import Tikblog.Program.Interleaving

/-!
# The own run of a component

A program of a component that runs inside a larger system, with the other parts of the
system moving between its operations, still runs as the component has it, on the component's
view of the state. `Always.traced` keeps that run, from its beginning, as the assertion at
every operation, so that whatever is known of the component alone is known there.

`interruptible` lets a program be told to stop. `Cooperation.post_from` is about a program
in the middle of a run of all programs, and `returned` what one has returned.
-/

namespace Tikblog.Program

namespace Prog

section Trace

variable {Op Op' : Type} {Ans : Op → Type} {Ans' : Op' → Type} {ε α σ σ' : Type}
  {exec : Exec Op Ans σ} {exec' : Exec Op' Ans' σ'} {f : Op → Op'} {back : ∀ o, Ans' (f o) → Ans o}
  {Sees : σ → σ' → Prop}

/-- **The trace rule.** Where each operation of the system is one of the component on what it
`Sees`, the embedded program is at a point that its own run from `c₀` has reached. -/
theorem Always.traced {c₀ : Prog Op Ans ε α × σ}
    (step : ∀ o k u s a t, Run exec c₀ (.op o k, u) → Sees u s → exec' (f o) s a t →
      ∃ v, exec o u (back o a) v ∧ Sees v t) :
    ∀ {p : Prog Op Ans ε α} {u : σ} {s : σ'}, Run exec c₀ (p, u) → Sees u s →
      Always exec' (fun o' s => ∃ o k u, o' = f o ∧ Run exec c₀ (.op o k, u) ∧ Sees u s)
        (fun r s => ∃ u, Run exec c₀ (.done r, u) ∧ Sees u s) (p.embed f back) s
  | .done _, u, _, run, sees => ⟨u, run, sees⟩
  | .op o k, u, _, run, sees => by
    refine ⟨⟨o, k, u, rfl, run, sees⟩, fun a t performed => ?_⟩
    obtain ⟨v, own, sees'⟩ := step o k u _ a t run sees performed
    exact Always.traced step (run.tail (.op own)) sees'

end Trace

/-- What the program has returned. -/
def returned {Op : Type} {Ans : Op → Type} {ε α : Type} : Prog Op Ans ε α → Option α
  | .done (.ok a) => some a
  | _ => none

theorem eq_of_returned {Op : Type} {Ans : Op → Type} {ε α : Type} {a : α} :
    ∀ {p : Prog Op Ans ε α}, p.returned = some a → p = .done (.ok a)
  | .done (.ok _), h => by
    cases h
    rfl

section Interrupts

variable {Op : Type} {Ans : Op → Type} {ε α σ : Type}

/-- A program that asks, before each operation that `points` lists, whether it is to go on. -/
def interruptible (check : Op) (told : Ans check → Except ε Unit) (points : Op → Bool) :
    Prog Op Ans ε α → Prog Op Ans ε α
  | .done r => .done r
  | .op o k =>
    if points o then
      .op check fun a =>
        match told a with
        | .ok _ => .op o fun a => (k a).interruptible check told points
        | .error e => .done (.error e)
    else .op o fun a => (k a).interruptible check told points

variable {exec : Exec Op Ans σ} {G : Op → σ → Prop} {Q : Except ε α → σ → Prop} {R : σ → σ → Prop}

/-- **The interrupt rule.** A check moves the state by `R` only, and the program may stop
wherever it may be told to. -/
theorem Always.interruptible {check : Op} {told : Ans check → Except ε Unit} {points : Op → Bool}
    (free : ∀ o s, points o = true → G o s → G check s) (checks : ∀ s a t, exec check s a t → R s t)
    (guard : ∀ o s t, G o s → R s t → G o t) (absorbs : ∀ o s t a u, R s t → exec o t a u → exec o s a u)
    (stops : ∀ o s e, points o = true → G o s → Q (.error e) s) :
    ∀ {p : Prog Op Ans ε α} {s : σ}, Always exec G Q p s →
      Always exec G Q (p.interruptible check told points) s
  | .done _, _, h => h
  | .op o k, s, h => by
    have rest : ∀ t, (t = s ∨ R s t) →
        Always exec G Q (.op o fun a => (k a).interruptible check told points) t := by
      rintro t (rfl | moved)
      · exact ⟨h.1, fun a u performed => (h.2 a u performed).interruptible free checks guard absorbs stops⟩
      · refine ⟨guard o s t h.1 moved, fun a u performed => ?_⟩
        exact (h.2 a u (absorbs o s t a u moved performed)).interruptible free checks guard absorbs stops
    unfold Prog.interruptible
    split
    · rename_i point
      refine ⟨free o s point h.1, fun a t checked => ?_⟩
      have moved := checks s a t checked
      dsimp only
      cases told a with
      | ok _ => exact rest t (.inr moved)
      | error e => exact stops o t e point (guard o s t h.1 moved)
    · exact rest s (.inl rfl)

end Interrupts

end Prog

namespace Interleaving

variable {ι Op : Type} [DecidableEq ι] {Ans : Op → Type} {ε α σ : Type}
  {sys : Interleaving ι Op Ans ε α σ} {I : σ → Prop} {Rely : ι → σ → σ → Prop}
  {G : ι → Op → σ → Prop} {Q : ι → Except ε α → σ → Prop}
  {threads threads' : ι → Prog Op Ans ε α} {s t : σ}

/-- **The rest of a run.** What is proved of the rest of one program, from a state that the
whole system has reached, holds of it where it ends. -/
theorem Cooperation.post_from (h : sys.Cooperation I Rely G Q) (reached : sys.Reachable threads s) {i : ι}
    {Q' : Except ε α → σ → Prop}
    (rest : Prog.Always (meanwhile I (Rely i) (sys.exec i)) (fun _ _ => True) Q' (threads i) s)
    (run : sys.Run threads s threads' t) {r : Except ε α} (at_i : threads' i = .done r) :
    ∃ s₀, Rely i s₀ t ∧ Q' r s₀ := by
  have outline : sys.Reachable threads' t ∧ ∃ s₀, Rely i s₀ t ∧
      Prog.Always (meanwhile I (Rely i) (sys.exec i)) (fun _ _ => True) Q' (threads' i) s₀ := by
    clear at_i
    induction run with
    | refl => exact ⟨reached, s, h.refl i s, rest⟩
    | @step _ _ _ j o k a _ at_j performed ih =>
      obtain ⟨here, s₀, since, now⟩ := ih
      have inv := h.invariant here
      refine ⟨here.run (.step .refl at_j performed), ?_⟩
      by_cases same : i = j
      · subst same
        rw [at_j] at now
        rw [Function.update_self]
        exact ⟨_, h.refl i _, now.2 a _ ⟨_, inv, since, performed⟩⟩
      · rw [Function.update_of_ne same]
        have moved := h.guarantee j i o _ a _ (Ne.symm same) inv (h.guard here at_j) performed
        exact ⟨s₀, h.trans i _ _ _ since moved, now⟩
  obtain ⟨-, s₀, since, now⟩ := outline
  rw [at_i] at now
  exact ⟨s₀, since, now⟩

end Interleaving

end Tikblog.Program
