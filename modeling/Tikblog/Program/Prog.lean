import Mathlib.Logic.Relation

/-!
# Programs over operations

A `Prog` is a sequential program whose effects are operations answered from outside,
and which ends with a value or a raised exception. The meaning of the operations is a
parameter: `Exec` relates an operation and a state to the answers it may get and the
states it may leave. A crash needs no syntax of its own, since every prefix of a run is
a run.

`Always exec G Q p s` is the weakest precondition of the whole run rather than of its
end: `G o` holds whenever `p` is about to perform `o`, and `Q` holds where `p` ends.
`Always.run` carries it along runs; `Always.bind` and `Always.tryCatch` compose it.
-/

namespace Tikblog.Program

/-- A program over operations `Op`, the operation `o` being answered in `Ans o`. -/
inductive Prog (Op : Type) (Ans : Op → Type) (ε α : Type) where
  | done (result : Except ε α)
  | op (o : Op) (next : Ans o → Prog Op Ans ε α)

/-- What an operation may answer in a state, and the state it then leaves. -/
abbrev Exec (Op : Type) (Ans : Op → Type) (σ : Type) := (o : Op) → σ → Ans o → σ → Prop

namespace Prog

variable {Op : Type} {Ans : Op → Type} {ε α β γ σ : Type}

/-- Perform one operation and return its answer. -/
def perform (o : Op) : Prog Op Ans ε (Ans o) := .op o fun a => .done (.ok a)

/-- Sequencing: an exception raised by the first program skips the second. -/
def bind : Prog Op Ans ε α → (α → Prog Op Ans ε β) → Prog Op Ans ε β
  | .done (.ok a), f => f a
  | .done (.error e), _ => .done (.error e)
  | .op o k, f => .op o fun a => (k a).bind f

/-- `try p except e: h e`. -/
def tryCatch : Prog Op Ans ε α → (ε → Prog Op Ans ε α) → Prog Op Ans ε α
  | .done (.ok a), _ => .done (.ok a)
  | .done (.error e), h => h e
  | .op o k, h => .op o fun a => (k a).tryCatch h

/-- `p` with its exception as a value, for a caller that handles it. -/
def attempt {ε' : Type} : Prog Op Ans ε α → Prog Op Ans ε' (Except ε α)
  | .done r => .done (.ok r)
  | .op o k => .op o fun a => (k a).attempt

instance : Monad (Prog Op Ans ε) where
  pure a := .done (.ok a)
  bind := bind

instance : MonadExcept ε (Prog Op Ans ε) where
  throw e := .done (.error e)
  tryCatch := tryCatch

/-- `try: p finally: f`, where the exception of `p` is raised again after `f`. -/
def finally' (p : Prog Op Ans ε α) (f : Prog Op Ans ε Unit) : Prog Op Ans ε α := do
  let a ← p.tryCatch fun e => do f; throw e
  f
  return a

/-- Return the value of an answer, or raise its error. -/
def ofExcept (r : Except ε α) : Prog Op Ans ε α := .done r

/-- `[f x for x in xs]`. -/
def mapEach : List β → (β → Prog Op Ans ε γ) → Prog Op Ans ε (List γ)
  | [], _ => pure []
  | x :: xs, f => do
    let y ← f x
    let ys ← mapEach xs f
    return y :: ys

theorem bind_eq (p : Prog Op Ans ε α) (f : α → Prog Op Ans ε β) : p >>= f = p.bind f := rfl

theorem pure_eq (a : α) : (pure a : Prog Op Ans ε α) = .done (.ok a) := rfl

@[simp] theorem bind_ok (a : α) (f : α → Prog Op Ans ε β) :
    bind (.done (.ok a) : Prog Op Ans ε α) f = f a := rfl

@[simp] theorem bind_error (e : ε) (f : α → Prog Op Ans ε β) :
    bind (.done (.error e) : Prog Op Ans ε α) f = .done (.error e) := rfl

@[simp] theorem bind_op (o : Op) (k : Ans o → Prog Op Ans ε α) (f : α → Prog Op Ans ε β) :
    bind (.op o k) f = .op o fun a => (k a).bind f := rfl

@[simp] theorem tryCatch_ok (a : α) (h : ε → Prog Op Ans ε α) :
    tryCatch (.done (.ok a) : Prog Op Ans ε α) h = .done (.ok a) := rfl

@[simp] theorem tryCatch_error (e : ε) (h : ε → Prog Op Ans ε α) :
    tryCatch (.done (.error e) : Prog Op Ans ε α) h = h e := rfl

@[simp] theorem attempt_done {ε' : Type} (r : Except ε α) :
    (attempt (.done r : Prog Op Ans ε α) : Prog Op Ans ε' (Except ε α)) = .done (.ok r) := rfl

@[simp] theorem attempt_op {ε' : Type} (o : Op) (k : Ans o → Prog Op Ans ε α) :
    (attempt (.op o k) : Prog Op Ans ε' (Except ε α)) = .op o fun a => (k a).attempt := rfl

@[simp] theorem tryCatch_op (o : Op) (k : Ans o → Prog Op Ans ε α) (h : ε → Prog Op Ans ε α) :
    tryCatch (.op o k) h = .op o fun a => (k a).tryCatch h := rfl

/-! ## Runs -/

section Runs

variable (exec : Exec Op Ans σ)

/-- One operation of a program, with the state it is performed in. -/
inductive Step : Prog Op Ans ε α × σ → Prog Op Ans ε α × σ → Prop where
  | op {o : Op} {k : Ans o → Prog Op Ans ε α} {s s' : σ} {a : Ans o} :
      exec o s a s' → Step (.op o k, s) (k a, s')

/-- Any number of operations: a run up to some point, not necessarily to the end. -/
abbrev Run : Prog Op Ans ε α × σ → Prog Op Ans ε α × σ → Prop :=
  Relation.ReflTransGen (Step exec)

/-- `G o` holds whenever `p`, started in the state, is about to perform `o`, and `Q`
holds wherever it ends. -/
def Always (G : Op → σ → Prop) (Q : Except ε α → σ → Prop) : Prog Op Ans ε α → σ → Prop
  | .done r, s => Q r s
  | .op o k, s => G o s ∧ ∀ a s', exec o s a s' → Always G Q (k a) s'

/-- Every execution of `p` comes to an end, and ends in `Q`: no operation is left
without an answer. -/
def Ends (Q : Except ε α → σ → Prop) (p : Prog Op Ans ε α) (s : σ) : Prop :=
  Always exec (fun o s => ∃ a s', exec o s a s') Q p s

/-- Run `p` to its end under a handler that answers every operation. -/
def eval (h : (o : Op) → σ → Ans o × σ) : Prog Op Ans ε α → σ → Except ε α × σ
  | .done r, s => (r, s)
  | .op o k, s => eval h (k (h o s).1) (h o s).2

/-- The first `n` operations of `p` under a handler. -/
def evalSteps (h : (o : Op) → σ → Ans o × σ) : Nat → Prog Op Ans ε α × σ → Prog Op Ans ε α × σ
  | n + 1, (.op o k, s) => evalSteps h n (k (h o s).1, (h o s).2)
  | _, (p, s) => (p, s)

/-- The first `n` operations of `p` under a handler that need not answer them all: the run
stops where it does not. -/
def play (h : (o : Op) → σ → Option (Ans o × σ)) : Nat → Prog Op Ans ε α × σ → Prog Op Ans ε α × σ
  | n + 1, (.op o k, s) =>
    match h o s with
    | some (a, t) => play h n (k a, t)
    | none => (.op o k, s)
  | _, (p, s) => (p, s)

/-- The program has returned. -/
def isOk : Prog Op Ans ε α → Bool
  | .done (.ok _) => true
  | _ => false

theorem eq_of_isOk : ∀ {p : Prog Op Ans ε α}, p.isOk = true → ∃ a, p = .done (.ok a)
  | .done (.ok a), _ => ⟨a, rfl⟩

end Runs

section Rules

variable {exec : Exec Op Ans σ} {G G' : Op → σ → Prop} {Q Q' : Except ε α → σ → Prop}

@[simp] theorem always_done {r : Except ε α} {s : σ} :
    Always exec G Q (.done r) s ↔ Q r s := Iff.rfl

@[simp] theorem always_op {o : Op} {k : Ans o → Prog Op Ans ε α} {s : σ} :
    Always exec G Q (.op o k) s ↔ G o s ∧ ∀ a s', exec o s a s' → Always exec G Q (k a) s' := Iff.rfl

theorem Always.mono (hG : ∀ o s, G o s → G' o s) (hQ : ∀ r s, Q r s → Q' r s) :
    ∀ {p : Prog Op Ans ε α} {s : σ}, Always exec G Q p s → Always exec G' Q' p s
  | .done _, _, h => hQ _ _ h
  | .op _ _, _, h => ⟨hG _ _ h.1, fun a s' he => (h.2 a s' he).mono hG hQ⟩

theorem Always.and : ∀ {p : Prog Op Ans ε α} {s : σ}, Always exec G Q p s → Always exec G' Q' p s →
    Always exec (fun o s => G o s ∧ G' o s) (fun r s => Q r s ∧ Q' r s) p s
  | .done _, _, h, h' => ⟨h, h'⟩
  | .op _ _, _, h, h' => ⟨⟨h.1, h'.1⟩, fun a s' he => (h.2 a s' he).and (h'.2 a s' he)⟩

/-- Sequencing. An exception of the first program must already meet the postcondition. -/
theorem Always.bind {Q : Except ε β → σ → Prop} {f : α → Prog Op Ans ε β} :
    ∀ {p : Prog Op Ans ε α} {s : σ},
      Always exec G (fun r s => match r with
        | .ok a => Always exec G Q (f a) s
        | .error e => Q (.error e) s) p s →
      Always exec G Q (p.bind f) s
  | .done (.ok _), _, h => h
  | .done (.error _), _, h => h
  | .op _ _, _, h => ⟨h.1, fun a s' he => (h.2 a s' he).bind⟩

/-- Sequencing after a program with a specification. -/
theorem Always.seq {Q : Except ε β → σ → Prop} {R : Except ε α → σ → Prop} {p : Prog Op Ans ε α}
    {f : α → Prog Op Ans ε β} {s : σ} (h : Always exec G R p s)
    (next : ∀ r t, R r t → match r with
      | .ok a => Always exec G Q (f a) t
      | .error e => Q (.error e) t) : Always exec G Q (p.bind f) s :=
  Always.bind (h.mono (fun _ _ g => g) next)

/-- The handler of `try` runs where the body raised. -/
theorem Always.tryCatch {h : ε → Prog Op Ans ε α} :
    ∀ {p : Prog Op Ans ε α} {s : σ},
      Always exec G (fun r s => match r with
        | .ok a => Q (.ok a) s
        | .error e => Always exec G Q (h e) s) p s →
      Always exec G Q (p.tryCatch h) s
  | .done (.ok _), _, hp => hp
  | .done (.error _), _, hp => hp
  | .op _ _, _, hp => ⟨hp.1, fun a s' he => (hp.2 a s' he).tryCatch⟩

/-- The caller goes on where the body ended, whichever way. -/
theorem Always.attempt {ε' : Type} {Q : Except ε' (Except ε α) → σ → Prop} :
    ∀ {p : Prog Op Ans ε α} {s : σ}, Always exec G (fun r s => Q (.ok r) s) p s →
      Always exec G Q p.attempt s
  | .done _, _, h => h
  | .op _ _, _, h => ⟨h.1, fun a s' he => (h.2 a s' he).attempt⟩

/-- What the body keeps on each item, whether it returns or raises, the loop keeps. -/
theorem Always.mapEach_of_mem {I : σ → Prop} {f : β → Prog Op Ans ε γ} : ∀ {xs : List β} {s : σ},
    (∀ x ∈ xs, ∀ s, I s → Always exec G (fun _ t => I t) (f x) s) → I s →
      Always exec G (fun _ t => I t) (Prog.mapEach xs f) s
  | [], _, _, hs => hs
  | x :: xs, s, body, hs => by
    apply Always.seq (body x List.mem_cons_self s hs)
    intro r t ht
    cases r with
    | error e => exact ht
    | ok y =>
      apply Always.seq (Always.mapEach_of_mem (fun x member => body x (List.mem_cons_of_mem _ member)) ht)
      intro r u hu
      cases r <;> exact hu

theorem Always.mapEach {I : σ → Prop} {f : β → Prog Op Ans ε γ}
    (body : ∀ x s, I s → Always exec G (fun _ t => I t) (f x) s) (xs : List β) (s : σ) (hs : I s) :
    Always exec G (fun _ t => I t) (Prog.mapEach xs f) s :=
  Always.mapEach_of_mem (fun x _ => body x) hs

/-- `f` runs wherever `p` ended, and its own exception takes the place of the result. -/
theorem Always.finally' {p : Prog Op Ans ε α} {f : Prog Op Ans ε Unit} {s : σ}
    (h : Always exec G (fun r s => Always exec G (fun r' s' => match r' with
      | .ok _ => Q r s'
      | .error e => Q (.error e) s') f s) p s) : Always exec G Q (p.finally' f) s := by
  refine Always.bind (Always.tryCatch (h.mono (fun _ _ g => g) ?_))
  intro r t ht
  cases r with
  | error e =>
    apply Always.seq ht
    intro r' u hu
    cases r' <;> exact hu
  | ok a =>
    apply Always.seq ht
    intro r' u hu
    cases r' <;> exact hu

/-- How a `finally` clause ends: an exception of its own replaces the result. -/
def closing (r : Except ε α) : Except ε Unit → Except ε α
  | .ok _ => r
  | .error e => .error e

/-- `finally` after a program with a specification. -/
theorem Always.closes {R : Except ε α → σ → Prop} {p : Prog Op Ans ε α} {f : Prog Op Ans ε Unit} {s : σ}
    (body : Always exec G R p s)
    (final : ∀ r t, R r t → Always exec G (fun r' u => Q (closing r r') u) f t) :
    Always exec G Q (p.finally' f) s := by
  apply Always.finally'
  apply body.mono (fun _ _ guard => guard)
  intro r t ended
  apply (final r t ended).mono (fun _ _ guard => guard)
  intro r' u post
  cases r' <;> exact post

theorem Always.perform {o : Op} {s : σ} {Q : Except ε (Ans o) → σ → Prop} (guard : G o s)
    (post : ∀ a s', exec o s a s' → Q (.ok a) s') : Always exec G Q (perform o) s :=
  ⟨guard, post⟩

/-- An operation that is answered, and after each of whose answers the rest comes to an end
under the same condition. -/
theorem Ends.op_iff {o : Op} {k : Ans o → Prog Op Ans ε α} {s : σ} {C : Prop}
    (answered : ∃ a s', exec o s a s') (rest : ∀ a s', exec o s a s' → (Ends exec Q (k a) s' ↔ C)) :
    Ends exec Q (.op o k) s ↔ C := by
  constructor
  · intro ends
    obtain ⟨a, s', step⟩ := answered
    exact (rest a s' step).1 (ends.2 a s' step)
  · intro condition
    exact ⟨answered, fun a s' step => (rest a s' step).2 condition⟩

/-- There is an end. -/
theorem Ends.exists_end : ∀ {p : Prog Op Ans ε α} {s : σ}, Ends exec Q p s → ∃ r t, Q r t
  | .done r, s, ends => ⟨r, s, ends⟩
  | .op _ _, _, ends => by
    obtain ⟨a, s', step⟩ := ends.1
    exact exists_end (ends.2 a s' step)

/-! ## Soundness -/

theorem Always.step {c d : Prog Op Ans ε α × σ} (h : Always exec G Q c.1 c.2) (step : Step exec c d) :
    Always exec G Q d.1 d.2 := by
  cases step with
  | op he => exact h.2 _ _ he

/-- `Always` holds of every configuration a run reaches. -/
theorem Always.run {c d : Prog Op Ans ε α × σ} (h : Always exec G Q c.1 c.2) (run : Run exec c d) :
    Always exec G Q d.1 d.2 := by
  induction run with
  | refl => exact h
  | tail _ step ih => exact ih.step step

theorem Always.guard_of_run {p : Prog Op Ans ε α} {s s' : σ} {o : Op} {k : Ans o → Prog Op Ans ε α}
    (h : Always exec G Q p s) (run : Run exec (p, s) (.op o k, s')) : G o s' :=
  (h.run run).1

theorem Always.post_of_run {p : Prog Op Ans ε α} {s s' : σ} {r : Except ε α}
    (h : Always exec G Q p s) (run : Run exec (p, s) (.done r, s')) : Q r s' :=
  h.run run

/-- A state predicate that follows from every guard and from the postcondition holds of
every state a run reaches. -/
theorem Always.inv_of_run {I : σ → Prop} {p q : Prog Op Ans ε α} {s s' : σ}
    (h : Always exec G Q p s) (hG : ∀ o s, G o s → I s) (hQ : ∀ r s, Q r s → I s)
    (run : Run exec (p, s) (q, s')) : I s' := by
  have now := h.run run
  cases q with
  | done r => exact hQ _ _ now
  | op o k => exact hG _ _ now.1

/-- What each step keeps under the guard is kept along the run. -/
theorem Always.keeps_of_run {I : σ → Prop} {c d : Prog Op Ans ε α × σ}
    (h : Always exec G Q c.1 c.2) (keeps : ∀ o s a t, G o s → I s → exec o s a t → I t)
    (run : Run exec c d) (hc : I c.2) : I d.2 := by
  induction run with
  | refl => exact hc
  | tail before step ih =>
    have now := h.run before
    cases step with
    | op he => exact keeps _ _ _ _ now.1 ih he

theorem Run.op {o : Op} {k : Ans o → Prog Op Ans ε α} {s t : σ} {a : Ans o} {d : Prog Op Ans ε α × σ}
    (performed : exec o s a t) (rest : Run exec (k a, t) d) : Run exec (.op o k, s) d :=
  Relation.ReflTransGen.head (Step.op performed) rest

/-- A program that has ended goes no further. -/
theorem Run.eq_of_done {r : Except ε α} {s : σ} {d : Prog Op Ans ε α × σ} (run : Run exec (.done r, s) d) :
    d = (.done r, s) := by
  obtain rfl | ⟨_, step, _⟩ := Relation.ReflTransGen.cases_head run
  · rfl
  · cases step

/-- A handler that answers as `exec` allows, and keeps an invariant `J` of its own, walks
along a run. -/
theorem run_evalSteps {h : (o : Op) → σ → Ans o × σ} {J : σ → Prop}
    (sound : ∀ o s, J s → exec o s (h o s).1 (h o s).2 ∧ J (h o s).2)
    (n : Nat) (c : Prog Op Ans ε α × σ) (hc : J c.2) :
    Run exec c (evalSteps h n c) ∧ J (evalSteps h n c).2 := by
  induction n generalizing c with
  | zero => exact ⟨.refl, hc⟩
  | succ n ih =>
    obtain ⟨p, s⟩ := c
    cases p with
    | done r => exact ⟨.refl, hc⟩
    | op o k =>
      obtain ⟨step, hs⟩ := sound o s hc
      obtain ⟨run, kept⟩ := ih (k (h o s).1, (h o s).2) hs
      exact ⟨Run.op step run, kept⟩

/-- A handler that answers as `exec` allows plays a run to its end. -/
theorem run_eval {h : (o : Op) → σ → Ans o × σ} (sound : ∀ o s, exec o s (h o s).1 (h o s).2)
    (p : Prog Op Ans ε α) (s : σ) : Run exec (p, s) (.done (eval h p s).1, (eval h p s).2) := by
  induction p generalizing s with
  | done r => exact .refl
  | op o k ih => exact Run.op (sound o s) (ih _ _)

/-- Fewer answers, fewer runs. -/
theorem Always.of_le {exec' : Exec Op Ans σ} (le : ∀ o s a t, exec' o s a t → exec o s a t) :
    ∀ {p : Prog Op Ans ε α} {s : σ}, Always exec G Q p s → Always exec' G Q p s
  | .done _, _, h => h
  | .op _ _, _, h => ⟨h.1, fun a s' performed => (h.2 a s' (le _ _ _ _ performed)).of_le le⟩

theorem Run.of_le {exec' : Exec Op Ans σ} (le : ∀ o s a t, exec' o s a t → exec o s a t)
    {c d : Prog Op Ans ε α × σ} (run : Run exec' c d) : Run exec c d := by
  induction run with
  | refl => exact .refl
  | tail _ step ih =>
    cases step with
    | op performed => exact ih.tail (.op (le _ _ _ _ performed))

/-- What a handler answers where `exec` allows it is a run, and keeps what its answers keep. -/
theorem run_play_keeps {h : (o : Op) → σ → Option (Ans o × σ)} {J : σ → Prop}
    (sound : ∀ o s a t, J s → h o s = some (a, t) → exec o s a t ∧ J t) (n : Nat) (c : Prog Op Ans ε α × σ)
    (hc : J c.2) : Run exec c (play h n c) ∧ J (play h n c).2 := by
  induction n generalizing c with
  | zero => exact ⟨.refl, hc⟩
  | succ n ih =>
    obtain ⟨p, s⟩ := c
    cases p with
    | done r => exact ⟨.refl, hc⟩
    | op o k =>
      cases answer : h o s with
      | none =>
        simp only [play, answer]
        exact ⟨.refl, hc⟩
      | some result =>
        obtain ⟨a, t⟩ := result
        simp only [play, answer]
        obtain ⟨performed, kept⟩ := sound o s a t hc answer
        obtain ⟨run, kept⟩ := ih (k a, t) kept
        exact ⟨Run.op performed run, kept⟩

theorem run_play {h : (o : Op) → σ → Option (Ans o × σ)}
    (sound : ∀ o s a t, h o s = some (a, t) → exec o s a t) (n : Nat) (c : Prog Op Ans ε α × σ) :
    Run exec c (play h n c) :=
  (run_play_keeps (J := fun _ => True) (fun o s a t _ answer => ⟨sound o s a t answer, trivial⟩) n c trivial).1

end Rules

/-! ## Programs confined to some operations -/

section Uses

/-- `p` performs only operations that satisfy `P`. -/
def Uses (P : Op → Prop) : Prog Op Ans ε α → Prop
  | .done _ => True
  | .op o k => P o ∧ ∀ a, Uses P (k a)

variable {P : Op → Prop} {exec : Exec Op Ans σ} {G : Op → σ → Prop} {I : σ → Prop}

theorem Uses.bind {f : α → Prog Op Ans ε β} :
    ∀ {p : Prog Op Ans ε α}, p.Uses P → (∀ a, (f a).Uses P) → (p.bind f).Uses P
  | .done (.ok a), _, hf => hf a
  | .done (.error _), _, _ => trivial
  | .op _ _, u, hf => ⟨u.1, fun a => (u.2 a).bind hf⟩

theorem Uses.tryCatch {h : ε → Prog Op Ans ε α} :
    ∀ {p : Prog Op Ans ε α}, p.Uses P → (∀ e, (h e).Uses P) → (p.tryCatch h).Uses P
  | .done (.ok _), _, _ => trivial
  | .done (.error e), _, hh => hh e
  | .op _ _, u, hh => ⟨u.1, fun a => (u.2 a).tryCatch hh⟩

theorem Uses.mono {P' : Op → Prop} (sub : ∀ o, P o → P' o) :
    ∀ {p : Prog Op Ans ε α}, p.Uses P → p.Uses P'
  | .done _, _ => trivial
  | .op o _, u => ⟨sub o u.1, fun a => (u.2 a).mono sub⟩

theorem Uses.mapEach {f : β → Prog Op Ans ε γ} (body : ∀ x, (f x).Uses P) :
    ∀ xs : List β, (mapEach xs f).Uses P
  | [] => trivial
  | x :: xs => (body x).bind fun _ => (Uses.mapEach body xs).bind fun _ => trivial

/-- The frame rule: what the operations in `P` preserve, a program confined to `P`
preserves at every point of its run. -/
theorem Always.of_uses (keeps : ∀ o, P o → ∀ s a s', I s → exec o s a s' → I s')
    (guard : ∀ o, P o → ∀ s, I s → G o s) :
    ∀ {p : Prog Op Ans ε α} {s : σ}, p.Uses P → I s → Always exec G (fun _ s => I s) p s
  | .done _, _, _, hi => hi
  | .op _ _, _, u, hi =>
    ⟨guard _ u.1 _ hi, fun a s' he => Always.of_uses keeps guard (u.2 a) (keeps _ u.1 _ a s' hi he)⟩

/-- What every operation preserves, every program preserves. -/
theorem Always.of_exec (keeps : ∀ o s a s', I s → exec o s a s' → I s') :
    ∀ {p : Prog Op Ans ε α} {s : σ}, I s → Always exec (fun _ _ => True) (fun _ s => I s) p s
  | .done _, _, hi => hi
  | .op _ _, _, hi => ⟨trivial, fun a s' he => Always.of_exec keeps (keeps _ _ a s' hi he)⟩

/-- Every operation that a run comes to is one of them. -/
theorem Uses.of_run {p : Prog Op Ans ε α} {s t : σ} {o : Op} {k : Ans o → Prog Op Ans ε α} (uses : p.Uses P)
    (run : Run exec (p, s) (.op o k, t)) : P o := by
  have always : Always exec (fun o _ => P o) (fun _ _ => True) p s := by
    clear run
    induction p generalizing s with
    | done r => exact trivial
    | op o k ih => exact ⟨uses.1, fun a t _ => ih a (uses.2 a)⟩
  exact always.guard_of_run run

/-- Whatever the answers, `p` performs only operations that satisfy `P`, and what it returns
satisfies `R`. -/
def Yields (P : Op → Prop) (R : α → Prop) : Prog Op Ans ε α → Prop
  | .done (.ok a) => R a
  | .done (.error _) => True
  | .op o k => P o ∧ ∀ a, Yields P R (k a)

variable {R R' : α → Prop}

theorem Yields.mono {P' : Op → Prop} (ops : ∀ o, P o → P' o) (results : ∀ a, R a → R' a) :
    ∀ {p : Prog Op Ans ε α}, p.Yields P R → p.Yields P' R'
  | .done (.ok _), h => results _ h
  | .done (.error _), _ => trivial
  | .op _ _, h => ⟨ops _ h.1, fun a => (h.2 a).mono ops results⟩

theorem Yields.uses : ∀ {p : Prog Op Ans ε α}, p.Yields P R → p.Uses P
  | .done _, _ => trivial
  | .op _ _, h => ⟨h.1, fun a => (h.2 a).uses⟩

theorem Yields.bind {S : β → Prop} {f : α → Prog Op Ans ε β} :
    ∀ {p : Prog Op Ans ε α}, p.Yields P R → (∀ a, R a → (f a).Yields P S) → (p.bind f).Yields P S
  | .done (.ok _), h, next => next _ h
  | .done (.error _), _, _ => trivial
  | .op _ _, h, next => ⟨h.1, fun a => (h.2 a).bind next⟩

/-- What each result has of its argument, the list of results has of the list. -/
theorem Yields.mapEach {δ : Type} {f : β → Prog Op Ans ε γ} {g : γ → δ} {h : β → δ} {N : γ → Prop}
    (body : ∀ x, (f x).Yields P fun y => g y = h x ∧ N y) :
    ∀ xs : List β, (Prog.mapEach xs f).Yields P fun ys => ys.map g = xs.map h ∧ ∀ y ∈ ys, N y
  | [] => ⟨rfl, fun _ member => by cases member⟩
  | x :: xs => by
    apply (body x).bind
    intro y hy
    apply (Yields.mapEach body xs).bind
    intro ys hys
    refine ⟨?_, ?_⟩
    · rw [List.map_cons, List.map_cons, hy.1, hys.1]
    · intro z member
      obtain rfl | later := List.mem_cons.1 member
      · exact hy.2
      · exact hys.2 z later

/-- What every result has, every member of the list of results has. -/
theorem Yields.each {f : β → Prog Op Ans ε γ} {N : γ → Prop} (body : ∀ x, (f x).Yields P N)
    (xs : List β) : (Prog.mapEach xs f).Yields P fun ys => ∀ y ∈ ys, N y := by
  have paired : ∀ x, (f x).Yields P fun y => () = () ∧ N y :=
    fun x => (body x).mono (fun _ h => h) fun _ h => ⟨rfl, h⟩
  exact (Yields.mapEach paired xs).mono (fun _ h => h) fun _ h => h.2

/-- The frame rule with what is returned. -/
theorem Always.of_yields (keeps : ∀ o, P o → ∀ s a s', I s → exec o s a s' → I s')
    (guard : ∀ s, I s → ∀ o, G o s) :
    ∀ {p : Prog Op Ans ε α} {s : σ}, p.Yields P R → I s →
      Always exec G (fun r t => I t ∧ ∀ a, r = .ok a → R a) p s
  | .done (.ok _), _, h, hs => ⟨hs, fun _ returned => by cases returned; exact h⟩
  | .done (.error _), _, _, hs => ⟨hs, fun _ returned => by cases returned⟩
  | .op o _, s, h, hs =>
    ⟨guard s hs o, fun a s' he => Always.of_yields keeps guard (h.2 a) (keeps o h.1 s a s' hs he)⟩

end Uses

/-! ## Programs that return -/

section Returns

/-- Whatever the answers that `ok` allows, the program returns. -/
def Returns (ok : (o : Op) → Ans o → Prop) : Prog Op Ans ε α → Prop
  | .done r => ∃ a, r = .ok a
  | .op o k => ∀ a, ok o a → Returns ok (k a)

variable {ok : (o : Op) → Ans o → Prop} {exec : Exec Op Ans σ}

theorem Returns.bind {f : α → Prog Op Ans ε β} :
    ∀ {p : Prog Op Ans ε α}, p.Returns ok → (∀ a, (f a).Returns ok) → (p.bind f).Returns ok
  | .done (.ok a), _, next => next a
  | .done (.error _), returns, _ => by
    obtain ⟨a, impossible⟩ := returns
    cases impossible
  | .op _ _, returns, next => fun a allowed => (returns a allowed).bind next

/-- A handler is not reached. -/
theorem Returns.tryCatch {h : ε → Prog Op Ans ε α} :
    ∀ {p : Prog Op Ans ε α}, p.Returns ok → (p.tryCatch h).Returns ok
  | .done (.ok a), _ => ⟨a, rfl⟩
  | .done (.error _), returns => by
    obtain ⟨a, impossible⟩ := returns
    cases impossible
  | .op _ _, returns => fun a allowed => (returns a allowed).tryCatch

theorem Returns.mapEach {f : β → Prog Op Ans ε γ} :
    ∀ {xs : List β}, (∀ x ∈ xs, (f x).Returns ok) → (Prog.mapEach xs f).Returns ok
  | [], _ => ⟨[], rfl⟩
  | x :: xs, body => by
    apply (body x List.mem_cons_self).bind
    intro y
    apply (Returns.mapEach fun x member => body x (List.mem_cons_of_mem _ member)).bind
    intro ys
    exact ⟨y :: ys, rfl⟩

theorem Returns.always (answers : ∀ o s a t, exec o s a t → ok o a) :
    ∀ {p : Prog Op Ans ε α} {s : σ}, p.Returns ok →
      Always exec (fun _ _ => True) (fun r _ => ∃ a, r = .ok a) p s
  | .done _, _, returns => returns
  | .op _ _, _, returns =>
    ⟨trivial, fun a _ performed => (returns a (answers _ _ _ _ performed)).always answers⟩

end Returns

end Prog

end Tikblog.Program
