import Tikblog.Program.Sessions

/-!
# Histories

A system may be given a history: a list that its operations append to as `note` says, and
that no program reads. A recorded system does what the system does (`Session.recorded`), so a
statement about its runs may speak of what has happened.
-/

namespace Tikblog.Program

variable {κ Op ν : Type} {Ans : Op → Type} {ε α σ : Type}

/-- The operations, each appending its notes to the history. -/
def Exec.recorded (exec : Exec Op Ans σ) (note : (o : Op) → σ → σ → List ν → Prop) :
    Exec Op Ans (σ × List ν) :=
  fun o c a d => exec o c.1 a d.1 ∧ ∃ notes, note o c.1 d.1 notes ∧ d.2 = c.2 ++ notes

/-- The system with a history that is empty at first. -/
def System.recorded (sys : System κ Op Ans ε α σ) (note : κ → (o : Op) → σ → σ → List ν → Prop) :
    System κ Op Ans ε α (σ × List ν) where
  init c := sys.init c.1 ∧ c.2 = []
  begins k c d := sys.begins k c.1 d.1 ∧ d.2 = c.2
  program := sys.program
  exec k := Exec.recorded (sys.exec k) (note k)

section Run

variable {exec : Exec Op Ans σ} {note : (o : Op) → σ → σ → List ν → Prop}

theorem Prog.Run.recorded (total : ∀ o s t, ∃ notes, note o s t notes) {c d : Prog Op Ans ε α × σ}
    (run : Prog.Run exec c d) (log : List ν) :
    ∃ log', Prog.Run (Exec.recorded exec note) (c.1, (c.2, log)) (d.1, (d.2, log')) := by
  induction run with
  | refl => exact ⟨log, .refl⟩
  | tail _ step ih =>
    obtain ⟨log', run⟩ := ih
    cases step with
    | op performed =>
      obtain ⟨notes, noted⟩ := total _ _ _
      exact ⟨log' ++ notes, run.tail (.op ⟨performed, notes, noted, rfl⟩)⟩

end Run

namespace System

variable {sys : System κ Op Ans ε α σ} {note : κ → (o : Op) → σ → σ → List ν → Prop}

theorem Session.recorded (total : ∀ k o s t, ∃ notes, note k o s t notes) {k : κ} {s t : σ}
    {p : Prog Op Ans ε α} (session : sys.Session k s p t) (log : List ν) :
    ∃ log', (sys.recorded note).Session k (s, log) p (t, log') := by
  obtain ⟨s₀, begins, run⟩ := session
  obtain ⟨log', run⟩ := run.recorded (total k) log
  exact ⟨log', (s₀, log), ⟨begins, rfl⟩, run⟩

end System

end Tikblog.Program
