import Mathlib.Logic.Function.Basic
import Tikblog.Program.Prog

/-!
# Programs that run at the same time

An `Interleaving` runs one program for each `i : ι` on a shared state, one operation of one
program at a time, in any order. A program that has not started is still at its beginning,
and one that is never scheduled again has crashed, so `ι` may be any type.

`Cooperation` is the rely/guarantee rule. While `i` waits, the others move the state by
`Rely i`; between two operations of `i` the state may have moved so, which is `meanwhile`,
and the specification of `i`'s program is an `Always` over it. In return every operation of
`i` moves the state as the others rely on.
-/

namespace Tikblog.Program

/-- A program for each `i`, over a shared state; the operations know who performs them. -/
structure Interleaving (ι Op : Type) (Ans : Op → Type) (ε α σ : Type) where
  init : σ → Prop
  program : ι → Prog Op Ans ε α
  exec : ι → Exec Op Ans σ

/-- The operations of `exec`, each performed after a move by `R` to a state that meets `I`. -/
def meanwhile {Op : Type} {Ans : Op → Type} {σ : Type} (I : σ → Prop) (R : σ → σ → Prop)
    (exec : Exec Op Ans σ) : Exec Op Ans σ :=
  fun o s a t => ∃ u, I u ∧ R s u ∧ exec o u a t

namespace Interleaving

/-- `Run sys threads s threads' s'`: any number of operations, each of one program, which is
then replaced by its rest. -/
inductive Run {ι Op : Type} [DecidableEq ι] {Ans : Op → Type} {ε α σ : Type}
    (sys : Interleaving ι Op Ans ε α σ) (threads : ι → Prog Op Ans ε α) (s : σ) :
    (ι → Prog Op Ans ε α) → σ → Prop where
  | refl : Run sys threads s threads s
  | step {threads' : ι → Prog Op Ans ε α} {s' t : σ} {i : ι} {o : Op} {k : Ans o → Prog Op Ans ε α}
      {a : Ans o} : Run sys threads s threads' s' → threads' i = .op o k → sys.exec i o s' a t →
      Run sys threads s (Function.update threads' i (k a)) t

variable {ι Op : Type} [DecidableEq ι] {Ans : Op → Type} {ε α σ : Type}

/-- What a run from the beginning of every program can come to. -/
def Reachable (sys : Interleaving ι Op Ans ε α σ) (threads : ι → Prog Op Ans ε α) (s : σ) : Prop :=
  ∃ s₀, sys.init s₀ ∧ sys.Run sys.program s₀ threads s

/-- The programs of `sys` keep `I` and each other's assumptions: `Rely i` is what the others
do while `i` waits, `G i` what `i` knows when it performs an operation, and `Q i` what it
ends with. -/
structure Cooperation (sys : Interleaving ι Op Ans ε α σ) (I : σ → Prop) (Rely : ι → σ → σ → Prop)
    (G : ι → Op → σ → Prop) (Q : ι → Except ε α → σ → Prop) : Prop where
  refl : ∀ i s, Rely i s s
  trans : ∀ i s t u, Rely i s t → Rely i t u → Rely i s u
  init : ∀ s, sys.init s → I s
  program : ∀ i s, sys.init s →
    Prog.Always (meanwhile I (Rely i) (sys.exec i)) (G i) (Q i) (sys.program i) s
  stable : ∀ i o s t, G i o s → Rely i s t → G i o t
  keeps : ∀ i o s a t, I s → G i o s → sys.exec i o s a t → I t
  guarantee : ∀ i j o s a t, i ≠ j → I s → G i o s → sys.exec i o s a t → Rely j s t

variable {sys : Interleaving ι Op Ans ε α σ} {I : σ → Prop} {Rely : ι → σ → σ → Prop}
  {G : ι → Op → σ → Prop} {Q : ι → Except ε α → σ → Prop} {threads threads' : ι → Prog Op Ans ε α} {s t : σ}

theorem Run.trans {threads'' : ι → Prog Op Ans ε α} {u : σ} (run : sys.Run threads s threads' t)
    (rest : sys.Run threads' t threads'' u) : sys.Run threads s threads'' u := by
  induction rest with
  | refl => exact run
  | step _ at_i performed ih => exact .step ih at_i performed

theorem Reachable.run (reached : sys.Reachable threads s) (run : sys.Run threads s threads' t) :
    sys.Reachable threads' t := by
  obtain ⟨s₀, start, before⟩ := reached
  exact ⟨s₀, start, before.trans run⟩

/-- What each operation does to the state is what a run does to it, if it adds up. -/
theorem Run.moves {R : σ → σ → Prop} (run : sys.Run threads s threads' t)
    (refl : ∀ s, R s s) (trans : ∀ s t u, R s t → R t u → R s u)
    (op : ∀ i o s a t, sys.exec i o s a t → R s t) : R s t := by
  induction run with
  | refl => exact refl _
  | step _ _ performed ih => exact trans _ _ _ ih (op _ _ _ _ _ performed)

/-- The assertions of all programs: since the last operation of each, the others have only
done what it relies on. -/
def Outline (sys : Interleaving ι Op Ans ε α σ) (I : σ → Prop) (Rely : ι → σ → σ → Prop)
    (G : ι → Op → σ → Prop) (Q : ι → Except ε α → σ → Prop) (threads : ι → Prog Op Ans ε α)
    (s : σ) : Prop :=
  I s ∧ ∀ i, ∃ s₀, Rely i s₀ s ∧
    Prog.Always (meanwhile I (Rely i) (sys.exec i)) (G i) (Q i) (threads i) s₀

theorem Cooperation.outline_step (h : sys.Cooperation I Rely G Q) {i : ι} {o : Op}
    {k : Ans o → Prog Op Ans ε α} {a : Ans o} (outline : sys.Outline I Rely G Q threads s)
    (at_i : threads i = .op o k) (performed : sys.exec i o s a t) :
    sys.Outline I Rely G Q (Function.update threads i (k a)) t := by
  obtain ⟨inv, outline⟩ := outline
  obtain ⟨s₀, since, now⟩ := outline i
  rw [at_i] at now
  have guard := h.stable i o _ _ now.1 since
  refine ⟨h.keeps i o _ _ _ inv guard performed, fun j => ?_⟩
  by_cases same : j = i
  · subst same
    rw [Function.update_self]
    exact ⟨t, h.refl j t, now.2 _ _ ⟨s, inv, since, performed⟩⟩
  · rw [Function.update_of_ne same]
    obtain ⟨s₁, before, spec⟩ := outline j
    exact ⟨s₁, h.trans j _ _ _ before
      (h.guarantee i j o _ _ _ (Ne.symm same) inv guard performed), spec⟩

theorem Cooperation.outline (h : sys.Cooperation I Rely G Q) (reached : sys.Reachable threads s) :
    sys.Outline I Rely G Q threads s := by
  obtain ⟨s₀, start, run⟩ := reached
  induction run with
  | refl => exact ⟨h.init _ start, fun i => ⟨_, h.refl i _, h.program i _ start⟩⟩
  | step _ at_i performed ih => exact h.outline_step ih at_i performed

theorem Cooperation.invariant (h : sys.Cooperation I Rely G Q) (reached : sys.Reachable threads s) :
    I s :=
  (h.outline reached).1

/-- A program about to perform an operation knows its guard. -/
theorem Cooperation.guard (h : sys.Cooperation I Rely G Q) (reached : sys.Reachable threads s)
    {i : ι} {o : Op} {k : Ans o → Prog Op Ans ε α} (at_i : threads i = .op o k) : G i o s := by
  obtain ⟨s₀, since, now⟩ := (h.outline reached).2 i
  rw [at_i] at now
  exact h.stable i o _ _ now.1 since

/-- A program that has ended did so in its postcondition, and the others went on from there. -/
theorem Cooperation.post (h : sys.Cooperation I Rely G Q) (reached : sys.Reachable threads s)
    {i : ι} {r : Except ε α} (at_i : threads i = .done r) : ∃ s₀, Rely i s₀ s ∧ Q i r s₀ := by
  obtain ⟨s₀, since, now⟩ := (h.outline reached).2 i
  rw [at_i] at now
  exact ⟨s₀, since, now⟩

/-! ## Schedules -/

/-- The programs run in the order of a schedule, under handlers of the operations; a program
that has ended, or whose operation the handler does not answer, is passed over. -/
def play (handler : ι → (o : Op) → σ → Option (Ans o × σ)) :
    List ι → (ι → Prog Op Ans ε α) × σ → (ι → Prog Op Ans ε α) × σ
  | [], c => c
  | i :: rest, (threads, s) =>
    match threads i with
    | .done _ => play handler rest (threads, s)
    | .op o k =>
      match handler i o s with
      | none => play handler rest (threads, s)
      | some (a, t) => play handler rest (Function.update threads i (k a), t)

/-- Handlers that answer as the system allows, while an invariant holds, play runs. -/
theorem run_play {handler : ι → (o : Op) → σ → Option (Ans o × σ)} {J : σ → Prop}
    (sound : ∀ i o s a t, J s → handler i o s = some (a, t) → sys.exec i o s a t ∧ J t) (schedule : List ι)
    (hs : J s) : sys.Run threads s (play handler schedule (threads, s)).1 (play handler schedule (threads, s)).2 ∧
      J (play handler schedule (threads, s)).2 := by
  induction schedule generalizing threads s with
  | nil => exact ⟨.refl, hs⟩
  | cons i rest ih =>
    cases at_i : threads i with
    | done r =>
      simp only [Interleaving.play, at_i]
      exact ih hs
    | op o k =>
      cases answer : handler i o s with
      | none =>
        simp only [Interleaving.play, at_i, answer]
        exact ih hs
      | some result =>
        obtain ⟨a, t⟩ := result
        obtain ⟨performed, ht⟩ := sound i o s a t hs answer
        simp only [Interleaving.play, at_i, answer]
        obtain ⟨run, kept⟩ := @ih (Function.update threads i (k a)) t ht
        exact ⟨.trans (.step .refl at_i performed) run, kept⟩

theorem Reachable.play {handler : ι → (o : Op) → σ → Option (Ans o × σ)}
    (sound : ∀ i o s a t, handler i o s = some (a, t) → sys.exec i o s a t) (schedule : List ι)
    (reached : sys.Reachable threads s) :
    sys.Reachable (play handler schedule (threads, s)).1 (play handler schedule (threads, s)).2 := by
  have kept : ∀ i o s a t, True → handler i o s = some (a, t) → sys.exec i o s a t ∧ True :=
    fun i o s a t _ answer => ⟨sound i o s a t answer, trivial⟩
  exact reached.run (run_play kept schedule trivial).1

/-- A program that is not in the schedule stays where it is. -/
theorem play_other {handler : ι → (o : Op) → σ → Option (Ans o × σ)} {schedule : List ι} {i : ι}
    (absent : i ∉ schedule) (c : (ι → Prog Op Ans ε α) × σ) : (play handler schedule c).1 i = c.1 i := by
  induction schedule generalizing c with
  | nil => rfl
  | cons j rest ih =>
    obtain ⟨threads, s⟩ := c
    obtain ⟨other, later⟩ := not_or.1 (mt List.mem_cons.2 absent)
    cases at_j : threads j with
    | done r =>
      simp only [Interleaving.play, at_j]
      exact ih later _
    | op o k =>
      cases answer : handler j o s with
      | none =>
        simp only [Interleaving.play, at_j, answer]
        exact ih later _
      | some result =>
        simp only [Interleaving.play, at_j, answer]
        rw [ih later]
        exact Function.update_of_ne other ..

end Interleaving

end Tikblog.Program
