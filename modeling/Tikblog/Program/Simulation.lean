import Tikblog.Program.Sessions

/-!
# Simulation

Two systems that run the same programs on different states. Where every call of the first is
matched by a call of the second with the same answer, the states of the first are those of
the second up to the relation. What is proved of the second's programs may be used to match.
-/

namespace Tikblog.Program.System

variable {κ Op : Type} {Ans : Op → Type} {ε α σ σ' : Type}

/-- Every start and every call of `sys'` is matched in `sys`. At a call, `G` holds of the
state of `sys`. -/
structure Simulates (sys : System κ Op Ans ε α σ) (sys' : System κ Op Ans ε α σ') (G : κ → Op → σ → Prop)
    (R : σ' → σ → Prop) : Prop where
  program : sys'.program = sys.program
  init : ∀ s, sys'.init s → ∃ v, sys.init v ∧ R s v
  begins : ∀ k s v s₀, R s v → sys'.begins k s s₀ → ∃ v₀, sys.begins k v v₀ ∧ R s₀ v₀
  guard : ∀ k v o next t, sys.Reachable v → sys.Session k v (.op o next) t → G k o t
  step : ∀ k o s v a t, R s v → G k o v → sys'.exec k o s a t → ∃ u, sys.exec k o v a u ∧ R t u

variable {sys : System κ Op Ans ε α σ} {sys' : System κ Op Ans ε α σ'} {G : κ → Op → σ → Prop}
  {R : σ' → σ → Prop}

/-- A session is matched call by call. -/
theorem Simulates.session (h : sys.Simulates sys' G R) {k : κ} {s t : σ'} {v : σ} {p : Prog Op Ans ε α}
    (reachable : sys.Reachable v) (related : R s v) (session : sys'.Session k s p t) :
    ∃ u, sys.Session k v p u ∧ R t u := by
  obtain ⟨s₀, begins, run⟩ := session
  obtain ⟨v₀, begins', related⟩ := h.begins k s v s₀ related begins
  suffices matched : ∀ c d : Prog Op Ans ε α × σ', Prog.Run (sys'.exec k) c d → c = (sys'.program k, s₀) →
      ∃ u, Prog.Run (sys.exec k) (sys.program k, v₀) (d.1, u) ∧ R d.2 u by
    obtain ⟨u, run', related⟩ := matched _ _ run rfl
    exact ⟨u, ⟨v₀, begins', run'⟩, related⟩
  intro c d run start
  induction run with
  | refl =>
    subst start
    rw [h.program]
    exact ⟨v₀, .refl, related⟩
  | tail _ step ih =>
    obtain ⟨u, run', related⟩ := ih
    cases step with
    | op performed =>
      have guard := h.guard k v _ _ u reachable ⟨v₀, begins', run'⟩
      obtain ⟨w, performed', related⟩ := h.step k _ _ u _ _ related guard performed
      exact ⟨w, run'.tail (.op performed'), related⟩

/-- **The simulation rule.** -/
theorem Simulates.reachable (h : sys.Simulates sys' G R) {s : σ'} (reachable : sys'.Reachable s) :
    ∃ v, sys.Reachable v ∧ R s v := by
  induction reachable with
  | init start =>
    obtain ⟨v, start', related⟩ := h.init _ start
    exact ⟨v, .init start', related⟩
  | session _ session ih =>
    obtain ⟨v, reachable, related⟩ := ih
    obtain ⟨u, session', related⟩ := h.session reachable related session
    exact ⟨u, .session reachable session', related⟩

end Tikblog.Program.System
