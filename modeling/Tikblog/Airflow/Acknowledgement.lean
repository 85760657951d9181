import Mathlib.Order.Nat
import Tikblog.Airflow.LegalSensor

/-!
# The sensor acknowledges only what has been carried

The watermarks are captured first, the stages read later ones, and the commit comes last with
the captured values. What is captured bounds records that are all there already, so it stays
a bound on what the two stages carry afterwards (`Captured`, `InBronze`, `Carried`); and what
has been carried stays so, whatever is appended or expires (`Later`).
-/

namespace Tikblog.Airflow

open Python Program

variable {s s₀ t u : LegalFlow}

/-- Every record of the partition below `n` has been through both stages, and `n` is no more
than its high watermark. -/
def LegalFlow.CarriedUpTo (s : LegalFlow) (p : Int) (n : Nat) : Prop :=
  n ≤ s.high p ∧ ∀ o ∈ s.offsets p, o < n → o ∈ s.silver p

/-- What only grows. -/
structure Later (s t : LegalFlow) : Prop where
  appended : ∀ p, s.offsets p ⊆ t.offsets p
  fromHigh : ∀ p, ∀ o ∈ t.offsets p, o ∈ s.offsets p ∨ s.high p ≤ o
  high : ∀ p, s.high p ≤ t.high p
  low : ∀ p, s.low p ≤ t.low p
  bronze : ∀ p, s.bronze p ⊆ t.bronze p
  silver : ∀ p, s.silver p ⊆ t.silver p

theorem Later.refl (s : LegalFlow) : Later s s where
  appended _ := List.Subset.refl _
  fromHigh _ _ member := .inl member
  high _ := Nat.le_refl _
  low _ := Nat.le_refl _
  bronze _ := List.Subset.refl _
  silver _ := List.Subset.refl _

theorem Later.trans (first : Later s t) (second : Later t u) : Later s u where
  appended p := List.Subset.trans (first.appended p) (second.appended p)
  fromHigh p o member := by
    obtain old | new := second.fromHigh p o member
    · exact first.fromHigh p o old
    · exact .inr ((first.high p).trans new)
  high p := (first.high p).trans (second.high p)
  low p := (first.low p).trans (second.low p)
  bronze p := List.Subset.trans (first.bronze p) (second.bronze p)
  silver p := List.Subset.trans (first.silver p) (second.silver p)

theorem LegalFlow.Moves.refl (s : LegalFlow) : s.Moves s where
  appended _ := List.Subset.refl _
  fromHigh _ _ member := .inl member
  high _ := Nat.le_refl _
  low _ := Nat.le_refl _
  unread _ _ member expired := .inl ⟨member, expired⟩
  bronze _ := List.Subset.refl _
  fromTopic _ _ member := .inl member
  silver _ := List.Subset.refl _
  fromBronze _ _ member := .inl member
  committed := rfl
  read := rfl

theorem LegalFlow.Moves.later (moves : s.Moves t) : Later s t where
  appended := moves.appended
  fromHigh p o member := (moves.fromHigh p o member).imp_right And.left
  high := moves.high
  low := moves.low
  bronze := moves.bronze
  silver := moves.silver

theorem SensorStep.later {o : SensorOp} {a : o.Answer} (step : SensorStep o s a t) : Later s t := by
  have refl := Later.refl s
  cases step with
  | listTopics | watermarks | commit =>
    exact ⟨refl.appended, refl.fromHigh, refl.high, refl.low, refl.bronze, refl.silver⟩
  | _ => exact refl

/-- A record below an old watermark is an old record. -/
theorem Later.old (later : Later s t) {p : Int} {o n : Nat} (member : o ∈ t.offsets p) (below : o < n)
    (captured : n ≤ s.high p) : o ∈ s.offsets p := by
  obtain old | new := later.fromHigh p o member
  · exact old
  · exact absurd (below.trans_le (captured.trans new)) (Nat.lt_irrefl _)

theorem LegalFlow.CarriedUpTo.later {p : Int} {n : Nat} (carried : s.CarriedUpTo p n) (later : Later s t) :
    t.CarriedUpTo p n := by
  obtain ⟨captured, silver⟩ := carried
  refine ⟨captured.trans (later.high p), ?_⟩
  intro o member below
  exact later.silver p (silver o (later.old member below captured) below)

/-! ## The invariant -/

/-- What holds at every point of every run. -/
structure Safe (s : LegalFlow) : Prop where
  below : ∀ p, ∀ o ∈ s.offsets p, o < s.high p
  read : ∀ p, ∀ o ∈ s.offsets p, o < s.low p → o ∈ s.bronze p
  fromTopic : ∀ p, s.bronze p ⊆ s.offsets p
  fromBronze : ∀ p, s.silver p ⊆ s.bronze p
  committed : ∀ p n, s.committed p = some n → s.CarriedUpTo p n

theorem safe_fresh (fresh : s.Fresh) : Safe s where
  below := fresh.below
  read := fresh.read
  fromTopic := fresh.fromTopic
  fromBronze := fresh.fromBronze
  committed p n done := by
    rw [fresh.committed p] at done
    cases done

theorem Safe.moves (safe : Safe s) (moves : s.Moves t) : Safe t where
  below p o member := by
    obtain old | new := moves.fromHigh p o member
    · exact (safe.below p o old).trans_le (moves.high p)
    · exact new.2
  read p o member expired := by
    obtain ⟨old, before⟩ | done := moves.unread p o member expired
    · exact moves.bronze p (safe.read p o old before)
    · exact done
  fromTopic p o member := by
    obtain old | new := moves.fromTopic p o member
    · exact moves.appended p (safe.fromTopic p old)
    · exact new
  fromBronze p o member := by
    obtain old | new := moves.fromBronze p o member
    · exact moves.bronze p (safe.fromBronze p old)
    · exact new
  committed p n done := by
    rw [moves.committed] at done
    exact (safe.committed p n done).later moves.later

theorem Safe.step {o : SensorOp} {a : o.Answer} (safe : Safe s) (step : SensorStep o s a t)
    (acknowledged : ∀ offsets, o = .commit offsets → ∀ p n, (p, n) ∈ offsets → s.CarriedUpTo p n) :
    Safe t := by
  cases step with
  | listTopics | watermarks => exact ⟨safe.below, safe.read, safe.fromTopic, safe.fromBronze, safe.committed⟩
  | commit commits =>
    refine ⟨safe.below, safe.read, safe.fromTopic, safe.fromBronze, ?_⟩
    intro p n done
    obtain same | ⟨m, member, new⟩ := commits p
    · exact safe.committed p n (same.symm.trans done)
    · cases new.symm.trans done
      exact acknowledged _ rfl p n member
  | _ => exact safe

/-- Between `s₀` and now nothing unsafe was acknowledged. -/
structure Kept (s₀ s : LegalFlow) : Prop where
  safe : Safe s
  since : Later s₀ s

/-- The rule of an operation: it happens after the others have moved. -/
theorem always_ask {o : SensorOp} {Q : Except PyException o.Value → LegalFlow → Prop} (kept : Kept s₀ s)
    (acknowledged : ∀ offsets, o = .commit offsets → ∀ p n, (p, n) ∈ offsets → s.CarriedUpTo p n)
    (post : ∀ a u t, s.Moves u → Kept s₀ u → SensorStep o u a t → Kept s₀ t → Q a t) :
    Prog.Always SensorExec (fun _ => Safe) Q (ask o) s := by
  refine ⟨kept.safe, ?_⟩
  intro a t performed
  obtain ⟨u, moves, step⟩ := performed
  have before : Kept s₀ u := ⟨kept.safe.moves moves, kept.since.trans moves.later⟩
  have after : Kept s₀ t := by
    refine ⟨before.safe.step step ?_, before.since.trans step.later⟩
    intro offsets is_commit p n member
    exact (acknowledged offsets is_commit p n member).later moves.later
  exact post a u t moves before step after

/-- An operation that is no commit, when its answer does not matter. -/
theorem always_ask_kept {o : SensorOp} (kept : Kept s₀ s) (quiet : ∀ offsets, o ≠ .commit offsets) :
    Prog.Always SensorExec (fun _ => Safe) (fun _ t => Kept s₀ t) (ask o) s :=
  always_ask kept (fun offsets is_commit => absurd is_commit (quiet offsets)) fun _ _ _ _ _ _ after => after

/-! ## The probe -/

/-- The captured watermarks have been reached by the topic. -/
def Captured (s : LegalFlow) (offsets : List (Int × Nat)) : Prop := ∀ p n, (p, n) ∈ offsets → n ≤ s.high p

/-- No retained record below these watermarks is still to be carried. -/
def Settled (s : LegalFlow) (reads : List (Int × Nat)) : Prop :=
  ∀ p n, (p, n) ∈ reads → n ≤ s.high p ∧ ∀ o ∈ s.offsets p, s.low p ≤ o → o < n → o ∈ s.silver p

theorem Captured.later {offsets : List (Int × Nat)} (captured : Captured s offsets) (later : Later s t) :
    Captured t offsets :=
  fun p n member => (captured p n member).trans (later.high p)

theorem Settled.later {reads : List (Int × Nat)} (settled : Settled s reads) (later : Later s t) :
    Settled t reads := by
  intro p n member
  obtain ⟨captured, carried⟩ := settled p n member
  refine ⟨captured.trans (later.high p), ?_⟩
  intro o present retained below
  exact later.silver p
    (carried o (later.old present below captured) ((later.low p).trans retained) below)

/-- What a partition that is not pending means. -/
theorem settled_of_not_pending {p offset : Int}
    (carried : 0 ≤ offset → s.CarriedUpTo p offset.toNat)
    (idle : ¬ (s.high p : Int) > if offset ≥ 0 then offset else s.low p) : Settled s [(p, s.high p)] := by
  intro q n member
  cases List.mem_singleton.1 member
  refine ⟨Nat.le_refl _, ?_⟩
  intro o present retained below
  split at idle
  · rename_i has_commit
    obtain ⟨-, silver⟩ := carried has_commit
    exact silver o present (by omega)
  · -- without a commit the probe starts at the low watermark
    omega

theorem always_readEnds (answers : List (Int × Int)) (ends : List (Int × Nat)) (pending : Bool)
    (kept : Kept s₀ s)
    (carried : ∀ p offset, (p, offset) ∈ answers → 0 ≤ offset → s.CarriedUpTo p offset.toNat)
    (captured : Captured s ends) (settled : pending = false → Settled s s.read) :
    Prog.Always SensorExec (fun _ => Safe)
      (fun r t => Kept s₀ t ∧ ∀ found, r = .ok found →
        Captured t found.1 ∧ (found.2 = false → Settled t t.read))
      (readEnds answers ends pending) s := by
  induction answers generalizing ends pending s with
  | nil =>
    refine ⟨kept, ?_⟩
    intro found returned
    cases returned
    exact ⟨captured, settled⟩
  | cons answer rest ih =>
    obtain ⟨p, offset⟩ := answer
    apply Prog.Always.bind
    apply always_ask kept (fun _ is_commit => by cases is_commit)
    intro a u t moves before step after
    have later := moves.later.trans step.later
    cases step with
    | failed => exact ⟨after, fun _ returned => by cases returned⟩
    | watermarks =>
      apply ih _ _ after
      · intro q offset member nonneg
        exact (carried q offset (List.mem_cons_of_mem _ member) nonneg).later later
      · intro q n member
        obtain old | new := List.mem_append.1 member
        · exact captured.later later q n old
        · cases List.mem_singleton.1 new
          exact Nat.le_refl _
      · intro idle
        rw [Bool.or_eq_false_iff, decide_eq_false_iff_not] at idle
        have now := settled_of_not_pending
          (fun nonneg => (carried p offset List.mem_cons_self nonneg).later moves.later) idle.2
        have old : Settled u u.read := by
          rw [moves.read]
          exact (settled idle.1).later moves.later
        intro q n member
        obtain here | there := List.mem_cons.1 member
        · exact now q n (here ▸ List.mem_singleton_self _)
        · exact old q n there

/-- What `pending_offsets` found. -/
def Found (t : LegalFlow) : Except PyException (Option LegalEvent) → Prop
  | .error _ => True
  | .ok none => Settled t t.read
  | .ok (some event) => Captured t event.offsets

/-- Closing the consumer changes nothing of it. -/
theorem always_close {found : Except PyException (Option LegalEvent)} (kept : Kept s₀ s)
    (now : Found s found) :
    Prog.Always SensorExec (fun _ => Safe) (fun r t => Kept s₀ t ∧ Found t (Prog.closing found r))
      (ask .close) s := by
  apply always_ask kept (fun _ is_commit => by cases is_commit)
  intro a u t moves _ step after
  cases step with
  | failed => exact ⟨after, trivial⟩
  | close =>
    refine ⟨after, ?_⟩
    match found, now with
    | .error _, _ => trivial
    | .ok none, now =>
      show Settled u u.read
      rw [moves.read]
      exact Settled.later now moves.later
    | .ok (some event), now => exact Captured.later now moves.later

theorem always_pendingOffsets {topic : String} (kept : Kept s₀ s) :
    Prog.Always SensorExec (fun _ => Safe) (fun r t => Kept s₀ t ∧ Found t r) (pendingOffsets topic) s := by
  apply Prog.Always.closes (R := fun r t => Kept s₀ t ∧ Found t r) _ fun r t ended => always_close ended.1 ended.2
  apply Prog.Always.bind
  apply always_ask kept (fun _ is_commit => by cases is_commit)
  intro a u t moves before step after
  cases step with
  | failed => exact ⟨after, trivial⟩
  | @listTopics _ metadata =>
    cases metadata with
    | error message => exact ⟨after, trivial⟩
    | ok partitions =>
      apply Prog.Always.bind
      apply always_ask after (fun _ is_commit => by cases is_commit)
      intro a v w moves before step after
      cases step with
      | failed => exact ⟨after, trivial⟩
      | @committed _ _ answers _ each =>
        have carried : ∀ p offset, (p, offset) ∈ answers → 0 ≤ offset → v.CarriedUpTo p offset.toNat := by
          intro p offset member nonneg
          obtain invalid | ⟨n, done, same⟩ := each _ member
          · cases invalid
            cases nonneg
          · cases same
            exact before.safe.committed p n done
        have none_read : v.read = [] := moves.read
        have nothing : Captured v [] := fun p n member => by cases member
        have start : Settled v v.read := by
          intro p n member
          rw [none_read] at member
          cases member
        apply Prog.Always.seq (always_readEnds answers [] false after carried nothing (fun _ => start))
        intro r x ended
        obtain ⟨after, found⟩ := ended
        cases r with
        | error e => exact ⟨after, trivial⟩
        | ok result =>
          obtain ⟨captured, settled⟩ := found result rfl
          obtain ⟨ends, pending⟩ := result
          cases pending with
          | true => exact ⟨after, captured⟩
          | false => exact ⟨after, settled rfl⟩

/-- The event of `wait`. -/
def Awaited (t : LegalFlow) (found : Option LegalEvent) : Prop :=
  ∀ event, found = some event → Captured t event.offsets

theorem always_waitForLegalEvents {topic : String} (polls : Nat) (kept : Kept s₀ s) :
    Prog.Always SensorExec (fun _ => Safe) (fun r t => Kept s₀ t ∧ ∀ found, r = .ok found → Awaited t found)
      (waitForLegalEvents topic polls) s := by
  induction polls generalizing s with
  | zero =>
    refine ⟨kept, ?_⟩
    intro found returned event is_event
    cases returned
    cases is_event
  | succ polls ih =>
    apply Prog.Always.seq (always_pendingOffsets kept)
    intro r t ended
    obtain ⟨after, found⟩ := ended
    match r, found with
    | .error _, _ => exact ⟨after, fun _ returned => by cases returned⟩
    | .ok (some event), captured =>
      refine ⟨after, ?_⟩
      intro found returned event' is_event
      cases returned
      cases is_event
      exact captured
    | .ok none, _ =>
      apply Prog.Always.seq (always_ask_kept after (fun _ is_commit => by cases is_commit))
      intro r u after
      cases r with
      | error e => exact ⟨after, fun _ returned => by cases returned⟩
      | ok _ => exact ih after

/-! ## The stages -/

/-- What a stage reads, over the whole history: nothing expires before it is in Bronze. -/
def LegalFlow.input (s : LegalFlow) : Stage → Int → List Nat
  | .kafkaToBronze => s.offsets
  | .bronzeToSilver => s.bronze

theorem Safe.input_of_available {stage : Stage} (safe : Safe s) {p : Int} {o : Nat}
    (member : o ∈ s.input stage p) :
    o ∈ s.available stage p ∨ o ∈ s.processed stage p := by
  cases stage with
  | bronzeToSilver => exact .inl member
  | kafkaToBronze =>
    obtain expired | retained := Nat.lt_or_ge o (s.low p)
    · exact .inr (safe.read p o member expired)
    · exact .inl (List.mem_filter.2 ⟨member, decide_eq_true retained⟩)

theorem Later.processed (later : Later s t) (stage : Stage) (p : Int) :
    s.processed stage p ⊆ t.processed stage p := by
  cases stage with
  | kafkaToBronze => exact later.bronze p
  | bronzeToSilver => exact later.silver p

theorem Later.input (later : Later s t) (stage : Stage) (p : Int) : s.input stage p ⊆ t.input stage p := by
  cases stage with
  | kafkaToBronze => exact later.appended p
  | bronzeToSilver => exact later.bronze p

theorem always_awaitQuery {query : Query} (rounds : Nat) (kept : Kept s₀ s) :
    Prog.Always SensorExec (fun _ => Safe)
      (fun r t => Kept s₀ t ∧ (r = .ok () → ∀ p, query.available p ⊆ t.processed query.stage p))
      (awaitQuery query rounds) s := by
  induction rounds generalizing s with
  | zero => exact ⟨kept, fun returned => by cases returned⟩
  | succ rounds ih =>
    apply Prog.Always.bind
    apply always_ask kept (fun _ is_commit => by cases is_commit)
    intro a u t moves _ step after
    cases step with
    | failed => exact ⟨after, fun returned => by cases returned⟩
    | running =>
      apply Prog.Always.seq (always_ask_kept after (fun _ is_commit => by cases is_commit))
      intro r v after
      cases r with
      | error e => exact ⟨after, fun returned => by cases returned⟩
      | ok _ => exact ih after
    | terminated done =>
      apply Prog.Always.bind
      apply always_ask after (fun _ is_commit => by cases is_commit)
      intro r v w moves _ step after
      cases r with
      | error e => exact ⟨after, fun returned => by cases returned⟩
      | ok _ =>
        refine ⟨after, ?_⟩
        intro _ p o member
        exact (moves.later.trans step.later).processed query.stage p (done p member)

/-- A stage that succeeds has carried everything there was when it began. -/
theorem always_submitStage {stage : Stage} (rounds : Nat) (kept : Kept s₀ s) :
    Prog.Always SensorExec (fun _ => Safe)
      (fun r t => Kept s₀ t ∧ ∀ done, r = .ok done → ∀ p, s₀.input stage p ⊆ t.processed stage p)
      (submitStage stage rounds) s := by
  apply Prog.Always.bind
  apply always_ask kept (fun _ is_commit => by cases is_commit)
  intro a u t moves before step after
  cases step with
  | failed => exact ⟨after, fun _ returned => by cases returned⟩
  | start =>
    have here : Kept u u := ⟨before.safe, Later.refl u⟩
    apply Prog.Always.closes (always_awaitQuery rounds here)
    intro r v ended
    obtain ⟨waited, done⟩ := ended
    apply always_ask waited (fun _ is_commit => by cases is_commit)
    intro a w x moves _ step stopped
    have later := moves.later.trans step.later
    refine ⟨⟨stopped.safe, before.since.trans stopped.since⟩, ?_⟩
    intro _ returned p o member
    have success : r = .ok () := by
      cases a with
      | error e => cases returned
      | ok _ => exact returned
    obtain available | carried := before.safe.input_of_available (before.since.input stage p member)
    · exact later.processed stage p (done success p available)
    · exact stopped.since.processed stage p carried

/-! ## Tasks -/

/-- **Retries.** What holds after an attempt that succeeds holds after the task. -/
theorem always_task {α : Type} {body : SensorM α} {Q : α → LegalFlow → Prop}
    (attempt : ∀ s, Kept s₀ s → Prog.Always SensorExec (fun _ => Safe)
      (fun r t => Kept s₀ t ∧ ∀ a, r = .ok a → Q a t) body s)
    (retries : Nat) (kept : Kept s₀ s) :
    Prog.Always SensorExec (fun _ => Safe) (fun r t => Kept s₀ t ∧ ∀ a, r = .ok a → Q a t)
      (task body retries) s := by
  induction retries generalizing s with
  | zero => exact attempt s kept
  | succ retries ih =>
    apply Prog.Always.tryCatch
    apply (attempt s kept).mono (fun _ _ guard => guard)
    intro r t ended
    cases r with
    | ok a => exact ended
    | error e =>
      apply Prog.Always.seq (always_ask_kept ended.1 (fun _ is_commit => by cases is_commit))
      intro r u after
      cases r with
      | error e => exact ⟨after, fun _ returned => by cases returned⟩
      | ok _ => exact ih after

/-- An acknowledgement of what has been carried. -/
theorem always_acknowledgeSensor {event : LegalEvent}
    (carried : ∀ p n, (p, n) ∈ event.offsets → s₀.CarriedUpTo p n) (kept : Kept s₀ s) :
    Prog.Always SensorExec (fun _ => Safe) (fun r t => Kept s₀ t ∧ ∀ done, r = .ok done → True)
      (acknowledgeSensor event) s := by
  apply Prog.Always.closes (R := fun _ t => Kept s₀ t)
  · apply Prog.Always.seq (always_ask_kept kept (fun _ is_commit => by cases is_commit))
    intro r t after
    cases r with
    | error e => exact after
    | ok _ =>
      apply always_ask after
      · intro offsets is_commit p n member
        cases is_commit
        exact (carried p n member).later after.since
      · exact fun _ _ _ _ _ _ done => done
  · intro r t ended
    apply (always_ask_kept ended (fun _ is_commit => by cases is_commit)).mono (fun _ _ guard => guard)
    exact fun _ _ closed => ⟨closed, fun _ _ => trivial⟩

/-- A run of the DAG. -/
theorem always_analyticsLegalIngestion {topic : String} (retries rounds : Nat) (safe : Safe s) :
    Prog.Always SensorExec (fun _ => Safe) (fun _ => Safe)
      (analyticsLegalIngestion topic retries rounds) s := by
  have start : Kept s s := ⟨safe, Later.refl s⟩
  apply Prog.Always.seq (always_task (Q := fun found t => Awaited t found)
    (fun t kept => always_waitForLegalEvents rounds kept) retries start)
  intro r t ended
  obtain ⟨waited, awaited⟩ := ended
  match r, awaited with
  | .error _, _ => exact waited.safe
  | .ok none, _ => exact waited.safe
  | .ok (some event), awaited =>
    have captured := awaited _ rfl event rfl
    have woken : Kept t t := ⟨waited.safe, Later.refl t⟩
    apply Prog.Always.seq
      (always_task (Q := fun _ u => ∀ p, t.input .kafkaToBronze p ⊆ u.processed .kafkaToBronze p)
        (fun u kept => always_submitStage rounds kept) retries woken)
    intro r u ended
    obtain ⟨ingested, in_bronze⟩ := ended
    cases r with
    | error e => exact ingested.safe
    | ok _ =>
      have here : Kept u u := ⟨ingested.safe, Later.refl u⟩
      apply Prog.Always.seq
        (always_task (Q := fun _ v => ∀ p, u.input .bronzeToSilver p ⊆ v.processed .bronzeToSilver p)
          (fun v kept => always_submitStage rounds kept) retries here)
      intro r v ended
      obtain ⟨processed, in_silver⟩ := ended
      cases r with
      | error e => exact processed.safe
      | ok _ =>
        have since := ingested.since.trans processed.since
        have carried : ∀ p n, (p, n) ∈ event.offsets → v.CarriedUpTo p n := by
          intro p n member
          refine ⟨(captured p n member).trans (since.high p), ?_⟩
          intro o present below
          have old := since.old present below (captured p n member)
          exact in_silver _ rfl p (in_bronze _ rfl p old)
        have here : Kept v v := ⟨processed.safe, Later.refl v⟩
        apply (always_task (Q := fun _ _ => True)
          (fun w kept => always_acknowledgeSensor carried kept) retries here).mono (fun _ _ guard => guard)
        exact fun _ _ ended => ended.1.safe

theorem safe_of_reachable {topic : String} (h : (legalSensor topic).Reachable s) : Safe s := by
  apply h.invariant
  · exact fun _ fresh => safe_fresh fresh
  · intro k s s₀ safe moves
    exact always_analyticsLegalIngestion k.1 k.2 (safe.moves moves)

/-- **The sensor never acknowledges unprocessed data.** At every point of every run, the
commit of a partition has been reached by the topic and every record below it has been through
Silver; and where `pending_offsets` returns `None`, so has every retained record below a high
watermark it read. -/
theorem acknowledged_carried (topic : String) (s : LegalFlow) (h : (legalSensor topic).Reachable s) :
    (∀ p n, s.committed p = some n → s.CarriedUpTo p n) ∧
    ∀ t, Prog.Run SensorExec (pendingOffsets topic, s) (.done (.ok none), t) →
      ∀ p n, (p, n) ∈ t.read → ∀ o ∈ t.offsets p, t.low p ≤ o → o < n → o ∈ t.bronze p ∧ o ∈ t.silver p := by
  have safe := safe_of_reachable h
  refine ⟨safe.committed, ?_⟩
  intro t run p n member o present retained below
  have here : Kept s s := ⟨safe, Later.refl s⟩
  obtain ⟨after, settled⟩ := (always_pendingOffsets here).post_of_run run
  have carried := (settled p n member).2 o present retained below
  exact ⟨after.safe.fromBronze p carried, carried⟩

/-! ## One wake-up -/

/-- Two records in one partition, and nothing carried. -/
def wokenFlow : LegalFlow where
  offsets p := if p = 0 then [0, 1] else []
  low _ := 0
  high p := if p = 0 then 2 else 0
  bronze _ := []
  silver _ := []
  committed _ := none
  read := []

/-- The stages have carried everything. -/
def carriedFlow : LegalFlow := { wokenFlow with bronze := wokenFlow.offsets, silver := wokenFlow.offsets }

/-- The sensor has acknowledged it. -/
def acknowledgedFlow : LegalFlow :=
  { carriedFlow with committed := fun p => if p = 0 then some 2 else none, read := [(0, 2)] }

theorem wokenFlow_moves : { wokenFlow with read := [(0, 2)] }.Moves
    { carriedFlow with read := [(0, 2)] } where
  appended _ := List.Subset.refl _
  fromHigh _ _ member := .inl member
  high _ := Nat.le_refl _
  low _ := Nat.le_refl _
  unread _ _ member _ := .inr member
  bronze _ := List.nil_subset _
  fromTopic _ _ member := .inr member
  silver _ := List.nil_subset _
  fromBronze _ _ member := .inr member
  committed := rfl
  read := rfl

/-- A run without retries. -/
theorem run_acknowledgedFlow :
    Prog.Run SensorExec (analyticsLegalIngestion "unsubscribe-legal" 0 1, wokenFlow)
      (.done (.ok ()), acknowledgedFlow) := by
  have quiet {o : SensorOp} {s t : LegalFlow} {a : o.Answer} (step : SensorStep o s a t) :
      SensorExec o s a t := ⟨s, .refl s, step⟩
  refine Prog.Run.op (quiet (@SensorStep.listTopics _ (.ok [0]))) ?_
  refine Prog.Run.op (quiet (@SensorStep.committed _ [0] [(0, OFFSET_INVALID)] rfl ?_)) ?_
  · intro answer member
    cases List.mem_singleton.1 member
    exact .inl rfl
  refine Prog.Run.op (quiet .watermarks) ?_
  refine Prog.Run.op (quiet .close) ?_
  refine Prog.Run.op ⟨_, wokenFlow_moves, .start⟩ ?_
  refine Prog.Run.op (quiet (.terminated ?_)) ?_
  · exact fun p => List.filter_sublist.subset
  refine Prog.Run.op (quiet .reportProgress) ?_
  refine Prog.Run.op (quiet .stop) ?_
  refine Prog.Run.op (quiet .start) ?_
  refine Prog.Run.op (quiet (.terminated ?_)) ?_
  · exact fun p => List.Subset.refl _
  refine Prog.Run.op (quiet .reportProgress) ?_
  refine Prog.Run.op (quiet .stop) ?_
  refine Prog.Run.op (quiet .assign) ?_
  refine Prog.Run.op (quiet (@SensorStep.commit _ [(0, 2)] (.ok ()) acknowledgedFlow.committed ?_)) ?_
  · intro p
    obtain zero | other := eq_or_ne p 0
    · subst zero
      exact .inr ⟨2, List.mem_singleton_self _, rfl⟩
    · exact .inl (if_neg other)
  refine Prog.Run.op (quiet .close) ?_
  exact Relation.ReflTransGen.refl

/-- The next probe finds nothing. -/
theorem run_idle : Prog.Run SensorExec (pendingOffsets "unsubscribe-legal", acknowledgedFlow)
    (.done (.ok none), acknowledgedFlow) := by
  have quiet {o : SensorOp} {s t : LegalFlow} {a : o.Answer} (step : SensorStep o s a t) :
      SensorExec o s a t := ⟨s, .refl s, step⟩
  refine Prog.Run.op (quiet (@SensorStep.listTopics _ (.ok [0]))) ?_
  refine Prog.Run.op (quiet (@SensorStep.committed _ [0] [(0, 2)] rfl ?_)) ?_
  · intro answer member
    cases List.mem_singleton.1 member
    exact .inr ⟨2, rfl, rfl⟩
  refine Prog.Run.op (quiet .watermarks) ?_
  refine Prog.Run.op (quiet .close) ?_
  exact Relation.ReflTransGen.refl

theorem acknowledged_carried_woken :
    acknowledgedFlow.committed 0 = some 2 ∧ acknowledgedFlow.CarriedUpTo 0 2 ∧
    ∀ o ∈ acknowledgedFlow.offsets 0, o < 2 → o ∈ acknowledgedFlow.bronze 0 ∧ o ∈ acknowledgedFlow.silver 0 := by
  have start : (legalSensor "unsubscribe-legal").Reachable wokenFlow := by
    apply System.Reachable.init
    refine ⟨?_, ?_, fun _ => List.nil_subset _, fun _ => List.nil_subset _, fun _ => rfl⟩
    · intro p o member
      obtain rfl | other := eq_or_ne p 0
      · simp [wokenFlow] at member ⊢
        omega
      · simp [wokenFlow, other] at member
    · exact fun p o _ expired => absurd expired (Nat.not_lt_zero o)
  have reached := start.session (k := (0, 1)) ⟨wokenFlow, .refl _, run_acknowledgedFlow⟩
  obtain ⟨committed, idle⟩ := acknowledged_carried "unsubscribe-legal" acknowledgedFlow reached
  refine ⟨rfl, committed 0 2 rfl, ?_⟩
  intro o present below
  exact idle acknowledgedFlow run_idle 0 2 (List.mem_singleton_self _) o present (Nat.zero_le o) below

end Tikblog.Airflow
