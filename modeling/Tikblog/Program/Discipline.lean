import Tikblog.Program.Interleaving
import Tikblog.Program.Interpret

/-!
# Disciplines

A program that keeps to a discipline (takes a lock before it uses what the lock protects, and
gives it back) can be told to do so from its text: its operations move it from stage to
stage, whatever they are answered. `Discipline` ties the stages of all programs of a system
to its state, so that in every reachable state each program is at a stage that the state
agrees with.
-/

namespace Tikblog.Program

/-- An operation moves its program to the next stage. -/
def stages {Op : Type} (Ans : Op → Type) {τ : Type} (next : Op → τ → τ) : Exec Op Ans τ := fun o x _ y => y = next o x

namespace Prog

variable {Op Op' : Type} {Ans : Op → Type} {Ans' : Op' → Type} {ε α β τ : Type} {next : Op → τ → τ} {legal : Op → τ → Prop}
  {x : τ}

/-- The program performs `legal` operations, and is back at its stage when it ends. -/
abbrev Balanced (next : Op → τ → τ) (legal : Op → τ → Prop) (x : τ) (p : Prog Op Ans ε α) : Prop :=
  Always (stages Ans next) legal (fun _ y => y = x) p x

theorem Balanced.bind {p : Prog Op Ans ε α} {f : α → Prog Op Ans ε β} (h : Balanced next legal x p)
    (rest : ∀ a, Balanced next legal x (f a)) : Balanced next legal x (p.bind f) := by
  apply Always.seq h
  rintro r _ rfl
  cases r with
  | error e => rfl
  | ok a => exact rest a

theorem Balanced.ofExcept {r : Except ε α} {f : α → Prog Op Ans ε β} (rest : ∀ a, Balanced next legal x (f a)) :
    Balanced next legal x ((Prog.ofExcept r).bind f) := by
  cases r with
  | error e => rfl
  | ok a => exact rest a

theorem Balanced.attempt {ε' : Type} {p : Prog Op Ans ε α} (h : Balanced next legal x p) :
    Balanced next legal x (p.attempt : Prog Op Ans ε' (Except ε α)) :=
  Always.attempt (h.mono (fun _ _ guard => guard) fun _ _ ended => ended)

theorem Balanced.mapEach {f : β → Prog Op Ans ε α} (body : ∀ b, Balanced next legal x (f b)) (items : List β) :
    Balanced next legal x (Prog.mapEach items f) :=
  Always.mapEach (I := fun y => y = x) (fun b _ here => here ▸ body b) items x rfl

/-- Operations that leave the stage as it is. -/
theorem Balanced.of_uses {P : Op → Prop} {p : Prog Op Ans ε α} (uses : p.Uses P) (stays : ∀ o, P o → next o x = x)
    (fine : ∀ o, P o → legal o x) : Balanced next legal x p :=
  Always.of_uses (I := fun y => y = x) (fun o at_o _ _ _ here moved => here ▸ moved.trans (here ▸ stays o at_o))
    (fun o at_o _ here => here ▸ fine o at_o) uses rfl

theorem Balanced.interpret {f : (o : Op') → Prog Op Ans ε (Ans' o)} (calls : ∀ o, Balanced next legal x (f o)) :
    ∀ p : Prog Op' Ans' ε α, Balanced next legal x (p.interpret f)
  | .done _ => rfl
  | .op o k => (calls o).bind fun a => Balanced.interpret calls (k a)

end Prog

namespace Interleaving

variable {ι Op : Type} [DecidableEq ι] {Ans : Op → Type} {ε α σ τ : Type}

/-- All programs keep to it, and the state agrees with the stage of each: `At i x s`. -/
structure Discipline (sys : Interleaving ι Op Ans ε α σ) (next : Op → τ → τ) (legal : Op → τ → Prop) (ends : τ → Prop)
    (start : τ) (At : ι → τ → σ → Prop) : Prop where
  init : ∀ i s, sys.init s → At i start s
  program : ∀ i, Prog.Always (stages Ans next) legal (fun _ => ends) (sys.program i) start
  own : ∀ i o x s a t, At i x s → legal o x → sys.exec i o s a t → At i (next o x) t
  other : ∀ i j o x y s a t, i ≠ j → At i x s → At j y s → legal o x → sys.exec i o s a t → At j y t

variable {sys : Interleaving ι Op Ans ε α σ} {next : Op → τ → τ} {legal : Op → τ → Prop} {ends : τ → Prop}
  {start : τ} {At : ι → τ → σ → Prop} {threads : ι → Prog Op Ans ε α} {s : σ}

/-- **The rule of disciplines.** -/
theorem Discipline.stage (h : sys.Discipline next legal ends start At) (reached : sys.Reachable threads s) (i : ι) :
    ∃ x, At i x s ∧ Prog.Always (stages Ans next) legal (fun _ => ends) (threads i) x := by
  obtain ⟨s₀, begins, run⟩ := reached
  induction run generalizing i with
  | refl => exact ⟨start, h.init i s₀ begins, h.program i⟩
  | @step threads s t j o k a _ at_j performed ih =>
    obtain ⟨x, at_x, rest⟩ := ih j
    rw [at_j] at rest
    by_cases same : i = j
    · subst same
      rw [Function.update_self]
      exact ⟨next o x, h.own i o x s a t at_x rest.1 performed, rest.2 a _ rfl⟩
    · rw [Function.update_of_ne same]
      obtain ⟨y, at_y, others⟩ := ih i
      exact ⟨y, h.other j i o x y s a t (Ne.symm same) at_x at_y rest.1 performed, others⟩

/-- A program that is about to perform an operation may. -/
theorem Discipline.permits (h : sys.Discipline next legal ends start At) (reached : sys.Reachable threads s) {i : ι}
    {o : Op} {k : Ans o → Prog Op Ans ε α} (at_i : threads i = .op o k) : ∃ x, At i x s ∧ legal o x := by
  obtain ⟨x, at_x, rest⟩ := h.stage reached i
  rw [at_i] at rest
  exact ⟨x, at_x, rest.1⟩

/-- A program whose stage is none it may end at has an operation before it. -/
theorem Discipline.unfinished (h : sys.Discipline next legal ends start At) (reached : sys.Reachable threads s) {i : ι}
    (inside : ∀ x, At i x s → ¬ ends x) : ∃ o k x, threads i = .op o k ∧ At i x s ∧ legal o x := by
  obtain ⟨x, at_x, rest⟩ := h.stage reached i
  cases at_i : threads i with
  | done r =>
    rw [at_i] at rest
    exact (inside x at_x rest).elim
  | op o k =>
    rw [at_i] at rest
    exact ⟨o, k, x, rfl, at_x, rest.1⟩

end Interleaving

end Tikblog.Program
