import Tikblog.Program.Prog

/-!
# Programs of a component

A system that has a component runs the component's programs on its own state. `embed` turns
a program of the component into one of the system, and `Always.embed` lifts what was proved
of it: the component's part of the state follows the component's semantics, and the rest
moves only as the system's `Frame` allows.
-/

namespace Tikblog.Program.Prog

variable {Op Op' : Type} {Ans : Op → Type} {Ans' : Op' → Type} {ε α σ σ' : Type}

/-- The program over the operations of the system: `f` names an operation of the component,
`back` reads its answer. -/
def embed (f : Op → Op') (back : ∀ o, Ans' (f o) → Ans o) : Prog Op Ans ε α → Prog Op' Ans' ε α
  | .done r => .done r
  | .op o k => .op (f o) fun a => (k (back o a)).embed f back

@[simp] theorem embed_done (f : Op → Op') (back : ∀ o, Ans' (f o) → Ans o) (r : Except ε α) :
    embed f back (.done r) = .done r := rfl

theorem Uses.embed {P : Op' → Prop} {f : Op → Op'} {back : ∀ o, Ans' (f o) → Ans o} (calls : ∀ o, P (f o)) :
    ∀ p : Prog Op Ans ε α, (p.embed f back).Uses P
  | .done _ => trivial
  | .op o k => ⟨calls o, fun a => Uses.embed calls (k (back o a))⟩

/-- **The component rule.** -/
theorem Always.embed {exec : Exec Op Ans σ} {exec' : Exec Op' Ans' σ'} (f : Op → Op')
    (back : ∀ o, Ans' (f o) → Ans o) (part : σ' → σ) (Frame : σ' → σ' → Prop)
    (refl : ∀ s, Frame s s) (trans : ∀ s t u, Frame s t → Frame t u → Frame s u)
    (step : ∀ o s a t, exec' (f o) s a t → exec o (part s) (back o a) (part t) ∧ Frame s t)
    {G : Op → σ → Prop} {Q : Except ε α → σ → Prop} {p : Prog Op Ans ε α} {s : σ'}
    (h : Always exec G Q p (part s)) :
    Always exec' (fun o' t => ∃ o, o' = f o ∧ G o (part t) ∧ Frame s t)
      (fun r t => Q r (part t) ∧ Frame s t) (p.embed f back) s := by
  induction p generalizing s with
  | done r => exact ⟨h, refl s⟩
  | op o k ih =>
    refine ⟨⟨o, rfl, h.1, refl s⟩, ?_⟩
    intro a t ht
    have moved := step o s a t ht
    apply (ih _ (h.2 _ _ moved.1)).mono
    · intro o' u before
      obtain ⟨o₁, rfl, guard, frame⟩ := before
      exact ⟨o₁, rfl, guard, trans _ _ _ moved.2 frame⟩
    · intro r u ended
      obtain ⟨post, frame⟩ := ended
      exact ⟨post, trans _ _ _ moved.2 frame⟩

end Tikblog.Program.Prog
