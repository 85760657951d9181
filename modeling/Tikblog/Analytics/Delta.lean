import Mathlib.Data.Rat.Init
import Mathlib.Data.List.Infix
import Mathlib.Algebra.Order.Ring.Rat
import Tikblog.Program.Prog
import Tikblog.Python.Runtime

/-!
# Writing to Delta

`retry` and `insert_once` of `common/delta.py`, and the checks of `settings` they rest on. A
row is a function of its column names. A merge reads a snapshot, joins the frame with it and
commits the rows it would insert; a commit after another one is refused.
-/

namespace Tikblog.Analytics

open Python Program

/-- The configuration of one deployment, with what `settings` checks. -/
structure Settings where
  mergeAttempts : Int
  mergeBackoffSeconds : ℚ
  vacuumRetentionHours : Int
  vacuumRetentionHours_ge : 168 ≤ vacuumRetentionHours
  mergeAttempts_pos : 1 ≤ mergeAttempts

/-- The checks of `settings`. -/
def settings (mergeAttempts : Int) (mergeBackoffSeconds : ℚ) (vacuumRetentionHours : Int) :
    Except PyException Settings :=
  if retention : vacuumRetentionHours < 168 then
    .error (.valueError "VACUUM retention must be at least 168 hours")
  else if attempts : mergeAttempts < 1 then
    .error (.valueError "merge_attempts must be positive")
  else
    .ok ⟨mergeAttempts, mergeBackoffSeconds, vacuumRetentionHours, by omega, by omega⟩

/-- The values of `analytics.yaml`. -/
def Settings.defaults : Settings where
  mergeAttempts := 5
  mergeBackoffSeconds := 1
  vacuumRetentionHours := 168
  vacuumRetentionHours_ge := by decide
  mergeAttempts_pos := by decide

/-! ## retry -/

/-- The names `retry` looks for. -/
def conflictNames : List String :=
  ["ConcurrentAppendException", "ConcurrentWriteException", "ConcurrentDeleteReadException",
    "ConcurrentDeleteDeleteException", "MetadataChangedException", "ProtocolChangedException",
    "DELTA_CONCURRENT"]

/-- `any(name in str(exc) for name in ...)`. -/
def isConflict (exc : PyException) : Bool :=
  conflictNames.any fun name => decide (PyStr.ofString name <:+: exc.text)

section Retry

variable {Op : Type} {Ans : Op → Type} {α : Type}

/-- The rest of the loop, from the attempt with this number; it falls through to `None`. -/
def retryFrom (cfg : Settings) (pause : Nat → Prog Op Ans PyException Unit)
    (operation : Prog Op Ans PyException α) (attempt : Nat) :
    (remaining : Nat) → Prog Op Ans PyException (Option α)
  | 0 => return none
  | remaining + 1 => do
    match ← operation.attempt with
    | .ok value => return some value
    | .error exc =>
      if !isConflict exc || (attempt + 1 : Int) == cfg.mergeAttempts then throw exc
      pause attempt
      retryFrom cfg pause operation (attempt + 1) remaining

/-- `retry`; `pause` is its sleep after an attempt. -/
def retry (cfg : Settings) (pause : Nat → Prog Op Ans PyException Unit)
    (operation : Prog Op Ans PyException α) : Prog Op Ans PyException (Option α) :=
  retryFrom cfg pause operation 0 cfg.mergeAttempts.toNat

/-- `merge_backoff_seconds * 2**attempt`. -/
def backoff (cfg : Settings) (attempt : Nat) : ℚ := cfg.mergeBackoffSeconds * 2 ^ attempt

/-- The end of one attempt: its value is that of the call, and so may be its exception. -/
def Attempted {σ : Type} (Q : Except PyException (Option α) → σ → Prop) (After : σ → Prop) :
    Except PyException α → σ → Prop
  | .ok value, s => Q (.ok (some value)) s
  | .error exc, s => Q (.error exc) s ∧ After s

variable {σ : Type} {exec : Exec Op Ans σ} {G : Op → σ → Prop}
  {Q : Except PyException (Option α) → σ → Prop} {cfg : Settings}
  {pause : Nat → Prog Op Ans PyException Unit} {operation : Prog Op Ans PyException α}
  (Before After : Nat → σ → Prop)

theorem always_retryFrom
    (attempted : ∀ n s, n < cfg.mergeAttempts.toNat → Before n s →
      Prog.Always exec G (Attempted Q (After n)) operation s)
    (paused : ∀ n s, After n s → Prog.Always exec G (fun r t => match r with
      | .ok _ => Before (n + 1) t
      | .error exc => Q (.error exc) t) (pause n) s)
    (remaining attempt : Nat) (s : σ) (count : attempt + (remaining + 1) = cfg.mergeAttempts.toNat)
    (before : Before attempt s) :
    Prog.Always exec G Q (retryFrom cfg pause operation attempt (remaining + 1)) s := by
  induction remaining generalizing attempt s with
  | zero =>
    apply Prog.Always.bind
    apply Prog.Always.attempt
    apply (attempted attempt s (by omega) before).mono (fun _ _ guard => guard)
    intro r t ended
    cases r with
    | ok value => exact ended
    | error exc =>
      -- the last attempt raises whatever it met
      have last : (attempt + 1 : Int) = cfg.mergeAttempts := by
        have := cfg.mergeAttempts_pos
        omega
      simp only [last, beq_self_eq_true, Bool.or_true, if_true]
      exact ended.1
  | succ remaining ih =>
    apply Prog.Always.bind
    apply Prog.Always.attempt
    apply (attempted attempt s (by omega) before).mono (fun _ _ guard => guard)
    intro r t ended
    cases r with
    | ok value => exact ended
    | error exc =>
      dsimp only
      split
      · exact ended.1
      · apply Prog.Always.seq (paused attempt t ended.2)
        intro r u after
        cases r with
        | error exc => exact after
        | ok _ => exact ih (attempt + 1) u (by omega) after

/-- **The rule of `retry`.** `Before n` holds when attempt `n` begins, `After n` when it has
raised: no more than `merge_attempts` attempts are made, and the result is that of one of them. -/
theorem always_retry
    (attempted : ∀ n s, n < cfg.mergeAttempts.toNat → Before n s →
      Prog.Always exec G (Attempted Q (After n)) operation s)
    (paused : ∀ n s, After n s → Prog.Always exec G (fun r t => match r with
      | .ok _ => Before (n + 1) t
      | .error exc => Q (.error exc) t) (pause n) s)
    {s : σ} (start : Before 0 s) : Prog.Always exec G Q (retry cfg pause operation) s := by
  have positive := cfg.mergeAttempts_pos
  obtain ⟨remaining, count⟩ : ∃ remaining, cfg.mergeAttempts.toNat = remaining + 1 :=
    ⟨cfg.mergeAttempts.toNat - 1, by omega⟩
  rw [retry, count]
  exact always_retryFrom Before After attempted paused remaining 0 s (by omega) start

end Retry

/-! ## insert_once -/

/-- A row, by the names of its columns. -/
abbrev Record (V : Type) := String → Option V

/-- A version of a table: the number of commits before it, and its rows. -/
structure Snapshot (V : Type) where
  version : Nat
  rows : List (Record V)

inductive DeltaOp (V : Type) where
  | random
  | sleep (seconds : ℚ)
  | snapshot
  | commit (version : Nat) (inserted : List (Record V))

abbrev DeltaOp.Answer {V : Type} : DeltaOp V → Type
  | random => ℚ
  | sleep _ => Unit
  | snapshot => Except PyException (Snapshot V)
  | commit _ _ => Except PyException Unit

abbrev DeltaM (V : Type) := Prog (DeltaOp V) DeltaOp.Answer PyException

/-- `KEYS`. -/
def KEYS : List (String × List String) :=
  [("monitoring.dq_results", ["run_id", "source", "check_name"]),
    ("monitoring.dq_quarantine", ["run_id", "kafka_topic", "kafka_partition", "kafka_offset"]),
    ("monitoring.pipeline_metrics", ["run_id", "source", "metric_name", "kafka_topic", "kafka_partition"]),
    ("monitoring.alert_events", ["alert_id"])]

/-- `keys or KEYS[table]`. -/
def keyColumns (table : String) : Option (List String) → Except PyException (List String)
  | some (key :: keys) => .ok (key :: keys)
  | _ =>
    match KEYS.lookup table with
    | some keys => .ok keys
    | none => .error (.keyError table)

section InsertOnce

variable {V : Type} [DecidableEq V]

/-- `a <=> b`. -/
def nullSafeEqual : Option V → Option V → Bool
  | some a, some b => a == b
  | none, none => true
  | _, _ => false

/-- The join condition of the merge. -/
def mergeCondition (keys : List String) (t s : Record V) : Bool :=
  keys.all fun key => nullSafeEqual (t key) (s key)

/-- The values a row has in the key columns. -/
def keyOf (keys : List String) (row : Record V) : List (Option V) := keys.map row

theorem nullSafeEqual_iff (a b : Option V) : nullSafeEqual a b = true ↔ a = b := by
  cases a <;> cases b <;> simp [nullSafeEqual]

theorem mergeCondition_iff (keys : List String) (t s : Record V) :
    mergeCondition keys t s = true ↔ keyOf keys t = keyOf keys s := by
  rw [mergeCondition, keyOf, keyOf, List.all_eq_true, List.map_inj_left]
  simp only [nullSafeEqual_iff]

/-- `write`: `whenNotMatchedInsertAll` on the snapshot, then the commit. -/
def merge (keys : List String) (frame : List (Record V)) : DeltaM V Unit := do
  let target ← Prog.ofExcept (← Prog.perform DeltaOp.snapshot)
  let inserted := frame.filter fun s => !target.rows.any fun t => mergeCondition keys t s
  Prog.ofExcept (← Prog.perform (DeltaOp.commit target.version inserted))

/-- `time.sleep(... + random.random())`. -/
def sleepAfter (cfg : Settings) (attempt : Nat) : DeltaM V Unit := do
  let jitter ← Prog.perform DeltaOp.random
  Prog.perform (DeltaOp.sleep (backoff cfg attempt + jitter))

/-- `insert_once`. -/
def insertOnce (cfg : Settings) (table : String) (frame : List (Record V)) (keys : Option (List String)) :
    DeltaM V (Option Unit) := do
  let columns ← Prog.ofExcept (keyColumns table keys)
  retry cfg (sleepAfter cfg) (merge columns frame)

end InsertOnce

end Tikblog.Analytics
