import Tikblog.Program.Interleaving
import Tikblog.Table.Keyed
import Tikblog.Analytics.Delta

/-!
# Several writers of one table

Any number of `insert_once` calls on one table, with the operations of their attempts
interleaved. A commit is refused when another one came since its snapshot, so the rows an
attempt computed are still the unmatched ones where its commit succeeds: each commit is then
an insert-only merge of its writer's frame into the table as it is (`Serial`). The rest
follows from what such merges do.
-/

namespace Tikblog.Analytics

open Python Program

variable {ι V : Type}

/-- The table, with the writers that have committed and those that have begun an attempt, in
order. -/
structure Store (ι V : Type) where
  version : Nat
  rows : List (Record V)
  commits : List ι
  attempts : List ι

/-- What an operation of a writer does. Only a commit changes the table, and only from the
snapshot of the present version; every operation on the table may also fail. -/
inductive StoreExec (writer : ι) : (o : DeltaOp V) → Store ι V → o.Answer → Store ι V → Prop where
  | random {s : Store ι V} {drawn : ℚ} : 0 ≤ drawn → drawn < 1 → StoreExec writer .random s drawn s
  | sleep {s : Store ι V} {seconds : ℚ} : StoreExec writer (.sleep seconds) s () s
  | snapshot {s : Store ι V} : StoreExec writer .snapshot s (.ok ⟨s.version, s.rows⟩)
      { s with attempts := s.attempts ++ [writer] }
  | snapshotFailed {s : Store ι V} {exc : PyException} : StoreExec writer .snapshot s (.error exc)
      { s with attempts := s.attempts ++ [writer] }
  | committed {s : Store ι V} {inserted : List (Record V)} :
      StoreExec writer (.commit s.version inserted) s (.ok ())
        { s with version := s.version + 1, rows := s.rows ++ inserted, commits := s.commits ++ [writer] }
  | conflict {s : Store ι V} {version : Nat} {inserted : List (Record V)} {exc : PyException} :
      version ≠ s.version → isConflict exc = true →
      StoreExec writer (.commit version inserted) s (.error exc) s
  | commitFailed {s : Store ι V} {version : Nat} {inserted : List (Record V)} {exc : PyException} :
      StoreExec writer (.commit version inserted) s (.error exc) s

section

variable [DecidableEq V]

/-- A call of `insert_once` for each writer, on a table that holds `initial`. -/
def writers (cfg : Settings) (table : String) (keys : Option (List String))
    (frame : ι → List (Record V)) (initial : List (Record V)) :
    Interleaving ι (DeltaOp V) DeltaOp.Answer PyException (Option Unit) (Store ι V) where
  init s := s.rows = initial ∧ s.commits = [] ∧ s.attempts = []
  program i := insertOnce cfg table (frame i) keys
  exec := StoreExec

/-- The frames of the writers merged one after another. -/
def mergeAll (columns : List String) (frame : ι → List (Record V)) (initial : List (Record V))
    (commits : List ι) : List (Record V) :=
  commits.foldl (fun rows i => Table.insertNew (keyOf columns) rows (frame i)) initial

theorem mergeAll_concat (columns : List String) (frame : ι → List (Record V)) (initial : List (Record V))
    (commits : List ι) (i : ι) : mergeAll columns frame initial (commits ++ [i]) =
      Table.insertNew (keyOf columns) (mergeAll columns frame initial commits) (frame i) := by
  rw [mergeAll, List.foldl_append]
  rfl

theorem nodup_mergeAll {columns : List String} {frame : ι → List (Record V)} {initial : List (Record V)}
    (distinct : ∀ i, ((frame i).map (keyOf columns)).Nodup)
    (start : (initial.map (keyOf columns)).Nodup) (commits : List ι) :
    ((mergeAll columns frame initial commits).map (keyOf columns)).Nodup := by
  induction commits using List.reverseRecOn with
  | nil => exact start
  | append_singleton commits i ih =>
    rw [mergeAll_concat]
    exact Table.nodup_insertNew ih (distinct i)

/-- The rows a merge computes are those of the frame whose key the snapshot does not hold. -/
theorem unmatched_eq (columns : List String) (target frame : List (Record V)) :
    (frame.filter fun s => !target.any fun t => mergeCondition columns t s) =
      Table.newRows (keyOf columns) target frame := by
  apply List.filter_congr
  intro s _
  rw [Bool.eq_iff_iff, Bool.not_eq_true', List.any_eq_false]
  simp only [decide_eq_true_eq]
  constructor
  · intro unmatched held
    obtain ⟨t, member, same⟩ := List.mem_map.1 held
    exact unmatched t member ((mergeCondition_iff columns t s).2 same)
  · intro fresh t member matched
    have same := (mergeCondition_iff columns t s).1 matched
    exact fresh (List.mem_map.2 ⟨t, member, same⟩)

end

/-! ## What the writers keep -/

variable [DecidableEq ι]

section

variable [DecidableEq V]

/-- The table is what the committed merges make of it, one after another, and no writer has
begun more than `limit` attempts. -/
structure Serial (columns : List String) (frame : ι → List (Record V)) (initial : List (Record V))
    (limit : Nat) (s : Store ι V) : Prop where
  rows : s.rows = mergeAll columns frame initial s.commits
  bounded : ∀ i, s.attempts.count i ≤ limit

/-- What writer `i` knows when it performs an operation: there is an attempt left when it
takes a snapshot, and the rows of its commit are the unmatched ones unless the table has moved. -/
def Prepared (columns : List String) (frame : ι → List (Record V)) (limit : Nat) (i : ι) :
    DeltaOp V → Store ι V → Prop
  | .snapshot, s => s.attempts.count i < limit
  | .commit version inserted, s => version ≤ s.version ∧
      (version = s.version → inserted = Table.newRows (keyOf columns) s.rows (frame i))
  | _, _ => True

end

/-- What the others do while `i` waits: rows and commits are added, none under the same
version, and none in the name of `i`. -/
structure Others (i : ι) (s t : Store ι V) : Prop where
  rows : s.rows <+: t.rows
  version : s.version ≤ t.version
  unchanged : t.version = s.version → t.rows = s.rows
  commits : t.commits.count i = s.commits.count i
  attempts : t.attempts.count i = s.attempts.count i

theorem Others.refl (i : ι) (s : Store ι V) : Others i s s :=
  ⟨List.prefix_rfl, Nat.le_refl _, fun _ => rfl, rfl, rfl⟩

theorem Others.trans {i : ι} {s t u : Store ι V} (h : Others i s t) (h' : Others i t u) :
    Others i s u where
  rows := h.rows.trans h'.rows
  version := h.version.trans h'.version
  unchanged same := by
    have first : t.version = s.version := le_antisymm (same ▸ h'.version) h.version
    rw [h'.unchanged (same.trans first.symm), h.unchanged first]
  commits := h'.commits.trans h.commits
  attempts := h'.attempts.trans h.attempts

/-- Where writer `i` stands: the attempts it has begun, and whether it has committed. -/
structure Stands (i : ι) (begun committed : Nat) (s : Store ι V) : Prop where
  attempts : s.attempts.count i = begun
  commits : s.commits.count i = committed

theorem Others.stands {i : ι} {begun committed : Nat} {s t : Store ι V} (h : Others i s t)
    (stands : Stands i begun committed s) : Stands i begun committed t :=
  ⟨h.attempts.trans stands.attempts, h.commits.trans stands.commits⟩

/-- What an operation of `i` is to another writer. -/
theorem StoreExec.others {i j : ι} {o : DeltaOp V} {s t : Store ι V} {a : o.Answer} (step : StoreExec i o s a t) (other : i ≠ j) :
    Others j s t := by
  have uncounted (l : List ι) : (l ++ [i]).count j = l.count j := by
    rw [List.count_append, List.count_singleton, beq_false_of_ne other]
    simp
  cases step with
  | random => exact .refl j s
  | sleep => exact .refl j s
  | snapshot => exact ⟨List.prefix_rfl, Nat.le_refl _, fun _ => rfl, rfl, uncounted _⟩
  | snapshotFailed => exact ⟨List.prefix_rfl, Nat.le_refl _, fun _ => rfl, rfl, uncounted _⟩
  | committed =>
    refine ⟨List.prefix_append _ _, Nat.le_succ _, ?_, uncounted _, rfl⟩
    intro same
    exact absurd same (Nat.succ_ne_self _)
  | conflict => exact .refl j s
  | commitFailed => exact .refl j s

section Steps

variable [DecidableEq V] {columns : List String} {frame : ι → List (Record V)}
  {initial : List (Record V)} {limit : Nat} {i : ι} {s t : Store ι V}

theorem Others.prepared {o : DeltaOp V} (h : Others i s t) (prepared : Prepared columns frame limit i o s) :
    Prepared columns frame limit i o t := by
  cases o with
  | random => trivial
  | sleep seconds => trivial
  | snapshot => exact h.attempts.trans_lt prepared
  | commit version inserted =>
    refine ⟨prepared.1.trans h.version, ?_⟩
    intro same
    have here : version = s.version := le_antisymm prepared.1 (same ▸ h.version)
    rw [h.unchanged (same.symm.trans here)]
    exact prepared.2 here

/-- A prepared operation keeps the table serial. -/
theorem Serial.step {o : DeltaOp V} {a : o.Answer} (serial : Serial columns frame initial limit s)
    (prepared : Prepared columns frame limit i o s) (step : StoreExec i o s a t) :
    Serial columns frame initial limit t := by
  have begun : s.attempts.count i < limit → ∀ j, (s.attempts ++ [i]).count j ≤ limit := by
    intro left j
    rw [List.count_append, List.count_singleton]
    have := serial.bounded j
    by_cases same : i = j
    · subst same
      rw [beq_self_eq_true, if_pos rfl]
      omega
    · rw [beq_false_of_ne same]
      simpa using this
  cases step with
  | random => exact serial
  | sleep => exact serial
  | snapshot => exact ⟨serial.rows, begun prepared⟩
  | snapshotFailed => exact ⟨serial.rows, begun prepared⟩
  | committed =>
    refine ⟨?_, serial.bounded⟩
    rw [prepared.2 rfl, mergeAll_concat, ← serial.rows]
    rfl
  | conflict => exact serial
  | commitFailed => exact serial

/-! ## One writer -/

/-- The operations of writer `i` among those of the others. -/
abbrev amidWriters (columns : List String) (frame : ι → List (Record V)) (initial : List (Record V))
    (limit : Nat) (i : ι) : Exec (DeltaOp V) DeltaOp.Answer (Store ι V) :=
  meanwhile (Serial columns frame initial limit) (Others i) (StoreExec i)

/-- How a call of `insert_once` by `i` can end: it has committed once and its keys are in the
table, or it has raised without a commit. -/
def Finished (columns : List String) (frame : ι → List (Record V)) (i : ι) :
    Except PyException (Option Unit) → Store ι V → Prop
  | .ok value, s => value = some () ∧ s.commits.count i = 1 ∧
      ∀ row ∈ frame i, keyOf columns row ∈ s.rows.map (keyOf columns)
  | .error _, s => s.commits.count i = 0

/-- One attempt. -/
theorem always_merge {n : Nat} (stands : Stands i n 0 s) (left : n < limit) :
    Prog.Always (amidWriters columns frame initial limit i) (Prepared columns frame limit i)
      (Attempted (Finished columns frame i) (Stands i (n + 1) 0)) (merge columns (frame i)) s := by
  have mine (l : List ι) : (l ++ [i]).count i = l.count i + 1 := by simp
  refine ⟨stands.attempts.trans_lt left, ?_⟩
  intro a t₂ moved
  obtain ⟨t, -, others, read⟩ := moved
  have here := others.stands stands
  have begun : Stands i (n + 1) 0 { t with attempts := t.attempts ++ [i] } :=
    ⟨(mine t.attempts).trans (congrArg (· + 1) here.attempts), here.commits⟩
  cases read with
  | snapshotFailed => exact ⟨begun.commits, begun⟩
  | snapshot =>
    refine ⟨⟨Nat.le_refl _, fun _ => unmatched_eq columns t.rows (frame i)⟩, ?_⟩
    intro a u₂ moved
    obtain ⟨u, -, others', commit⟩ := moved
    have there := others'.stands begun
    generalize version_eq : t.version = version at commit
    cases commit with
    | conflict => exact ⟨there.commits, there⟩
    | commitFailed => exact ⟨there.commits, there⟩
    | committed =>
      refine ⟨rfl, (mine u.commits).trans (congrArg (· + 1) there.commits), ?_⟩
      intro row member
      -- no commit came in between, so the merge is one into the table as it is
      have unmoved : u.rows = t.rows := others'.unchanged version_eq.symm
      have merged : u.rows ++ (frame i).filter (fun s => !t.rows.any fun r => mergeCondition columns r s) =
          Table.insertNew (keyOf columns) u.rows (frame i) := by
        rw [unmatched_eq, ← unmoved]
        rfl
      rw [merged]
      exact Table.mem_keys_insertNew.2 (.inr (List.mem_map_of_mem member))

theorem always_sleepAfter {cfg : Settings} {n begun committed : Nat} (stands : Stands i begun committed s) :
    Prog.Always (amidWriters columns frame initial limit i) (Prepared columns frame limit i)
      (fun r t => (∃ u, r = .ok u) ∧ Stands i begun committed t) (sleepAfter cfg n) s := by
  refine ⟨trivial, ?_⟩
  intro jitter t moved
  obtain ⟨t₁, -, others, drawn⟩ := moved
  cases drawn with
  | random =>
    refine ⟨trivial, ?_⟩
    intro _ u moved'
    obtain ⟨u₁, -, others', slept⟩ := moved'
    cases slept with
    | sleep => exact ⟨⟨(), rfl⟩, others'.stands (others.stands stands)⟩

/-- **One call.** -/
theorem always_insertOnce {cfg : Settings} {table : String} {keys : Option (List String)}
    (resolved : keyColumns table keys = .ok columns) (stands : Stands i 0 0 s) :
    Prog.Always (amidWriters columns frame initial cfg.mergeAttempts.toNat i)
      (Prepared columns frame cfg.mergeAttempts.toNat i) (Finished columns frame i)
      (insertOnce cfg table (frame i) keys) s := by
  rw [insertOnce, resolved]
  apply always_retry (fun n => Stands i n 0) (fun n => Stands i (n + 1) 0)
  · intro n s left stands
    exact always_merge stands left
  · intro n s after
    apply (always_sleepAfter after).mono (fun _ _ guard => guard)
    intro r t ended
    obtain ⟨⟨u, rfl⟩, stands⟩ := ended
    exact stands
  · exact stands

/-! ## All writers -/

variable {cfg : Settings} {table : String} {keys : Option (List String)}

theorem writers_cooperate (resolved : keyColumns table keys = .ok columns) :
    (writers cfg table keys frame initial).Cooperation
      (Serial columns frame initial cfg.mergeAttempts.toNat) Others
      (Prepared columns frame cfg.mergeAttempts.toNat) (Finished columns frame) where
  refl := Others.refl
  trans _ _ _ _ := Others.trans
  init s start := by
    obtain ⟨rows, commits, attempts⟩ := start
    exact ⟨by rw [rows, commits]; rfl, fun i => by simp [attempts]⟩
  program i s start := by
    obtain ⟨-, commits, attempts⟩ := start
    exact always_insertOnce resolved ⟨by simp [attempts], by simp [commits]⟩
  stable _ _ _ _ prepared others := others.prepared prepared
  keeps _ _ _ _ _ serial prepared step := serial.step prepared step
  guarantee _ _ _ _ _ _ other _ _ step := StoreExec.others step other

end Steps

/-- **Concurrent `insert_once` calls are safe.** At any point of any run of concurrent calls
with frames of distinct keys on one table: the table is what the merges of the committed
calls make of it, one after another, so it has at most one row for each key if it had at
first; rows stay as they are in all that follows; a call that returned has committed once
and every key of its frame is present; a call that raised has committed nothing; and no
call has begun more than `merge_attempts` attempts. -/
theorem insert_once_safe [DecidableEq V] (cfg : Settings) (table : String)
    (keys : Option (List String)) (columns : List String)
    (resolved : keyColumns table keys = .ok columns) (frame : ι → List (Record V))
    (distinct : ∀ i, ((frame i).map (keyOf columns)).Nodup) (initial : List (Record V))
    {threads : ι → DeltaM V (Option Unit)} {s : Store ι V}
    (reached : (writers cfg table keys frame initial).Reachable threads s) :
    s.rows = mergeAll columns frame initial s.commits ∧
    ((initial.map (keyOf columns)).Nodup → (s.rows.map (keyOf columns)).Nodup) ∧
    (∀ threads' t, (writers cfg table keys frame initial).Run threads s threads' t →
      s.rows <+: t.rows) ∧
    (∀ i value, threads i = .done (.ok value) → value = some () ∧ s.commits.count i = 1 ∧
      ∀ row ∈ frame i, keyOf columns row ∈ s.rows.map (keyOf columns)) ∧
    (∀ i exc, threads i = .done (.error exc) → s.commits.count i = 0) ∧
    ∀ i, (s.attempts.count i : Int) ≤ cfg.mergeAttempts := by
  have cooperate : (writers cfg table keys frame initial).Cooperation
      (Serial columns frame initial cfg.mergeAttempts.toNat) Others
      (Prepared columns frame cfg.mergeAttempts.toNat) (Finished columns frame) :=
    writers_cooperate resolved
  have serial := cooperate.invariant reached
  refine ⟨serial.rows, ?_, ?_, ?_, ?_, ?_⟩
  · intro start
    rw [serial.rows]
    exact nodup_mergeAll distinct start s.commits
  · intro threads' t run
    apply run.moves (R := fun s t => s.rows <+: t.rows)
    · exact fun s => List.prefix_rfl
    · exact fun s t u first second => first.trans second
    · intro i o s a t step
      cases step with
      | committed => exact List.prefix_append _ _
      | _ => exact List.prefix_rfl
  · intro i value ended
    obtain ⟨s₀, others, returned, commits, present⟩ := cooperate.post reached ended
    refine ⟨returned, others.commits.trans commits, ?_⟩
    intro row member
    exact (others.rows.map (keyOf columns)).subset (present row member)
  · intro i exc ended
    obtain ⟨s₀, others, nothing⟩ := cooperate.post reached ended
    exact others.commits.trans nothing
  · intro i
    have bounded := serial.bounded i
    have positive := cfg.mergeAttempts_pos
    omega

/-! ## Two writers of one key -/

/-- Operations that fail only where they must. -/
def Store.answer (writer : ι) : (o : DeltaOp V) → Store ι V → Option (o.Answer × Store ι V)
  | .random, s => some (0, s)
  | .sleep _, s => some ((), s)
  | .snapshot, s => some (.ok ⟨s.version, s.rows⟩, { s with attempts := s.attempts ++ [writer] })
  | .commit version inserted, s =>
    if version = s.version then
      some (.ok (), { s with
        version := s.version + 1, rows := s.rows ++ inserted, commits := s.commits ++ [writer] })
    else some (.error (.runtimeError "ConcurrentAppendException"), s)

omit [DecidableEq ι] in
theorem storeExec_answer (writer : ι) (o : DeltaOp V) (s : Store ι V) (a : o.Answer) (t : Store ι V)
    (answer : Store.answer writer o s = some (a, t)) : StoreExec writer o s a t := by
  cases o with
  | random => cases answer; exact .random (le_refl 0) zero_lt_one
  | sleep seconds => cases answer; exact .sleep
  | snapshot => cases answer; exact .snapshot
  | commit version inserted =>
    rw [Store.answer] at answer
    split at answer
    · rename_i same
      subst same
      cases answer
      exact .committed
    · rename_i other
      cases answer
      exact .conflict other (by decide +kernel)

/-- A metric of a run whose source is null. -/
def nullKeyRow : Record String
  | "run_id" => some "run-1"
  | "metric_name" => some "lag"
  | _ => none

/-- Both writers read the empty table; the second commit is refused and its retry finds the row. -/
def racedInsert : (Bool → DeltaM String (Option Unit)) × Store Bool String :=
  Interleaving.play Store.answer [true, false, true, false, false, false, false, false]
    ((writers Settings.defaults "monitoring.pipeline_metrics" none (fun _ => [nullKeyRow]) []).program,
      ⟨0, [], [], []⟩)

theorem insert_once_safe_race :
    (racedInsert.1 false = .done (.ok (some ())) ∧ racedInsert.2.attempts = [true, false, false] ∧
      racedInsert.2.rows.length = 1) ∧
    racedInsert.2.commits.count false = 1 := by
  have columns : keyColumns "monitoring.pipeline_metrics" none =
      .ok ["run_id", "source", "metric_name", "kafka_topic", "kafka_partition"] := by decide
  have ended : racedInsert.1 false = .done (.ok (some ())) := by rfl
  have reached : (writers Settings.defaults "monitoring.pipeline_metrics" none
      (fun _ => [nullKeyRow]) []).Reachable racedInsert.1 racedInsert.2 :=
    Interleaving.Reachable.play storeExec_answer [true, false, true, false, false, false, false, false]
      ⟨⟨0, [], [], []⟩, ⟨rfl, rfl, rfl⟩, .refl⟩
  have safe := insert_once_safe Settings.defaults _ none _ columns (fun _ => [nullKeyRow])
    (by decide) [] reached
  exact ⟨⟨ended, by rfl, by rfl⟩, (safe.2.2.2.1 false (some ()) ended).2.1⟩

end Tikblog.Analytics
