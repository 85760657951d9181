import Tikblog.Program.Prog

/-!
# Operations that are programs themselves

`interpret f p` runs `f o` wherever `p` performs `o`: a call that takes several steps of the
system, so that others may act between them. `Always.interpret` takes what was proved of
`p`, as if its calls were single operations, to the interpreted program: it is enough that
each `f o` only answers and leaves what `p` was promised of `o`.
-/

namespace Tikblog.Program.Prog

variable {Op Op' : Type} {Ans : Op → Type} {Ans' : Op' → Type} {ε α β σ : Type}

/-- Each operation replaced by a program; an exception of it ends the whole. -/
def interpret (f : (o : Op) → Prog Op' Ans' ε (Ans o)) : Prog Op Ans ε α → Prog Op' Ans' ε α
  | .done r => .done r
  | .op o k => (f o).bind fun a => (k a).interpret f

@[simp] theorem interpret_done (f : (o : Op) → Prog Op' Ans' ε (Ans o)) (r : Except ε α) :
    interpret f (.done r) = .done r := rfl

@[simp] theorem interpret_op (f : (o : Op) → Prog Op' Ans' ε (Ans o)) (o : Op) (k : Ans o → Prog Op Ans ε α) :
    interpret f (.op o k) = (f o).bind fun a => (k a).interpret f := rfl

variable {exec : Exec Op Ans σ} {exec' : Exec Op' Ans' σ} {G : Op → σ → Prop} {G' : Op' → σ → Prop}
  {Q : Except ε α → σ → Prop}

/-- `p` keeps to `exec` as far as it can tell: it returns an answer that `exec` allows. -/
def Implements (exec : Exec Op Ans σ) (exec' : Exec Op' Ans' σ) (G' : Op' → σ → Prop) (o : Op)
    (p : Prog Op' Ans' ε (Ans o)) (s : σ) : Prop :=
  Always exec' G' (fun r t => ∃ a, r = .ok a ∧ exec o s a t) p s

/-- **The interpretation rule.** -/
theorem Always.interpret {f : (o : Op) → Prog Op' Ans' ε (Ans o)}
    (calls : ∀ o s, G o s → Implements exec exec' G' o (f o) s) :
    ∀ {p : Prog Op Ans ε α} {s : σ}, Always exec G Q p s → Always exec' G' Q (p.interpret f) s
  | .done _, _, h => h
  | .op o k, s, h => by
    apply Always.seq (calls o s h.1)
    intro r t ended
    obtain ⟨a, rfl, performed⟩ := ended
    exact Always.interpret calls (h.2 a t performed)

end Tikblog.Program.Prog
