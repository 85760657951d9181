import Tikblog.Program.Prog

/-!
# Sessions: programs that are started again after a stop at any point

A `System` runs programs one after another on a shared state. Each session begins with
`begins`, which says what a start does to the state (lose the memory of the process, take
a lock, let time pass), and then runs a prefix of its program: the session may finish, or
stop anywhere. `Reachable` collects the states at every point of every session.
-/

namespace Tikblog.Program

/-- Programs `program k`, started any number of times, in any order. -/
structure System (κ Op : Type) (Ans : Op → Type) (ε α σ : Type) where
  init : σ → Prop
  begins : κ → σ → σ → Prop
  program : κ → Prog Op Ans ε α
  exec : κ → Exec Op Ans σ

namespace System

variable {κ Op : Type} {Ans : Op → Type} {ε α σ : Type}

/-- A session of kind `k` from `s`, stopped at the program point `p` in `t`. -/
def Session (sys : System κ Op Ans ε α σ) (k : κ) (s : σ) (p : Prog Op Ans ε α) (t : σ) : Prop :=
  ∃ s₀, sys.begins k s s₀ ∧ Prog.Run (sys.exec k) (sys.program k, s₀) (p, t)

/-- The states of the system: between sessions, and at every point of a session. -/
inductive Reachable (sys : System κ Op Ans ε α σ) : σ → Prop where
  | init {s : σ} : sys.init s → Reachable sys s
  | session {k : κ} {s t : σ} {p : Prog Op Ans ε α} :
      Reachable sys s → sys.Session k s p t → Reachable sys t

/-- Any sessions one after another lead from one state to another. -/
def Leads (sys : System κ Op Ans ε α σ) : σ → σ → Prop := Relation.ReflTransGen fun s t => ∃ k p, sys.Session k s p t

/-- Sessions one after another, each of which returns. -/
inductive Returned (sys : System κ Op Ans ε α σ) : List κ → σ → σ → Prop where
  | nil {s : σ} : Returned sys [] s s
  | cons {k : κ} {rest : List κ} {s t u : σ} {a : α} :
      sys.Session k s (.done (.ok a)) t → Returned sys rest t u → Returned sys (k :: rest) s u

/-- The same system with fewer behaviours: only the answers `keep` accepts. -/
def restrict (sys : System κ Op Ans ε α σ) (keep : κ → Exec Op Ans σ) : System κ Op Ans ε α σ :=
  { sys with exec := fun k o s a t => sys.exec k o s a t ∧ keep k o s a t }

variable {sys : System κ Op Ans ε α σ} {I J : σ → Prop}

theorem Reachable.of_restrict {keep : κ → Exec Op Ans σ} {s : σ} (h : (sys.restrict keep).Reachable s) :
    sys.Reachable s := by
  induction h with
  | init start => exact .init start
  | session _ session ih =>
    obtain ⟨s₀, begins, run⟩ := session
    exact ih.session ⟨s₀, begins, run.of_le fun _ _ _ _ performed => performed.1⟩

/-- **The invariant rule.** What holds initially and at every point of every session
that starts from it holds in every reachable state. -/
theorem Reachable.invariant {s : σ} (h : sys.Reachable s) (init : ∀ s, sys.init s → I s)
    (session : ∀ k s s₀, I s → sys.begins k s s₀ →
      Prog.Always (sys.exec k) (fun _ => I) (fun _ => I) (sys.program k) s₀) : I s := by
  induction h with
  | init hs => exact init _ hs
  | session _ run ih =>
    obtain ⟨s₀, hb, run⟩ := run
    exact (session _ _ s₀ ih hb).inv_of_run (fun _ _ h => h) (fun _ _ h => h) run

/-- The invariant rule for a predicate that each operation keeps on its own. -/
theorem Reachable.invariant_of_ops {s : σ} (h : sys.Reachable s) (init : ∀ s, sys.init s → I s)
    (begins : ∀ k s s₀, I s → sys.begins k s s₀ → I s₀)
    (op : ∀ k o s a t, I s → sys.exec k o s a t → I t) : I s :=
  h.invariant init fun k s s₀ hs hb =>
    Prog.Always.of_uses (P := fun _ => True) (fun o _ s a t hi he => op k o s a t hi he)
      (fun _ _ _ hi => hi) (uses_true _) (begins k s s₀ hs hb)
where
  uses_true : ∀ p : Prog Op Ans ε α, p.Uses fun _ => True
    | .done _ => trivial
    | .op _ k => ⟨trivial, fun a => uses_true (k a)⟩

/-- A session played by a handler, stopped after `n` operations. -/
theorem Reachable.evalSteps {k : κ} {s s₀ : σ} {h : (o : Op) → σ → Ans o × σ}
    (reachable : sys.Reachable s) (begins : sys.begins k s s₀)
    (sound : ∀ o s, J s → sys.exec k o s (h o s).1 (h o s).2 ∧ J (h o s).2) (hs : J s₀) (n : Nat) :
    sys.Reachable (Prog.evalSteps h n (sys.program k, s₀)).2 ∧
      J (Prog.evalSteps h n (sys.program k, s₀)).2 := by
  obtain ⟨run, kept⟩ := Prog.run_evalSteps sound n (sys.program k, s₀) hs
  exact ⟨.session reachable ⟨s₀, begins, run⟩, kept⟩

/-- A session played by a handler that answers as the system allows, for `n` operations. -/
theorem session_play {k : κ} {s s₀ : σ} {h : (o : Op) → σ → Option (Ans o × σ)} (begins : sys.begins k s s₀)
    (sound : ∀ o s a t, h o s = some (a, t) → sys.exec k o s a t) (n : Nat) :
    sys.Session k s (Prog.play h n (sys.program k, s₀)).1 (Prog.play h n (sys.program k, s₀)).2 :=
  ⟨s₀, begins, Prog.run_play sound n (sys.program k, s₀)⟩

/-- The same for answers that depend on an invariant. -/
theorem Reachable.play_keeps {k : κ} {s s₀ : σ} {h : (o : Op) → σ → Option (Ans o × σ)}
    (reachable : sys.Reachable s) (begins : sys.begins k s s₀)
    (sound : ∀ o s a t, J s → h o s = some (a, t) → sys.exec k o s a t ∧ J t) (hs : J s₀) (n : Nat) :
    sys.Reachable (Prog.play h n (sys.program k, s₀)).2 := by
  obtain ⟨run, -⟩ := Prog.run_play_keeps sound n (sys.program k, s₀) hs
  exact .session reachable ⟨s₀, begins, run⟩

theorem Reachable.play {k : κ} {s s₀ : σ} {h : (o : Op) → σ → Option (Ans o × σ)}
    (reachable : sys.Reachable s) (begins : sys.begins k s s₀)
    (sound : ∀ o s a t, h o s = some (a, t) → sys.exec k o s a t) (n : Nat) :
    sys.Reachable (Prog.play h n (sys.program k, s₀)).2 :=
  .session reachable (session_play begins sound n)

end System

end Tikblog.Program
