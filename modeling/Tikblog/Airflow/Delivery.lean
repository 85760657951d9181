import Mathlib.Data.Finset.Insert
import Tikblog.Airflow.TaskFailed

/-!
# Every failure is alerted once, or two share an alert

A spool file is removed only after its row is in the table, and a row is inserted only under
a new alert id: nothing is lost and nothing is doubled, over any interleaving and any crash
(`Delivered`). What is left is the alert id. It is made of the run and the task and leaves
out the DAG, so two DAGs with one run id and one task name share it, and the second failure
finds the row of the first.
-/

namespace Tikblog.Airflow

open Python Program Analytics

variable {env : Env} {failed : Finset TaskFailure}

/-- The row is the alert of the task. -/
def IsFor (env : Env) (task : TaskFailure) (row : AlertRow) : Prop :=
  row.alertType = "AIRFLOW_TASK_FAILURE" ∧ row.alertId = task.alertId env ∧
    row.pipelineName = task.dagId ∧ row.runId = task.runId

instance (env : Env) (task : TaskFailure) (row : AlertRow) : Decidable (IsFor env task row) :=
  inferInstanceAs (Decidable (_ ∧ _))

/-- One alert for each failed task, and no other of this kind. -/
structure AlertedOnce (env : Env) (failed : Finset TaskFailure) (rows : List AlertRow) : Prop where
  once : ∀ task ∈ failed, (rows.filter fun row => IsFor env task row).length = 1
  only : ∀ row ∈ rows, row.alertType = "AIRFLOW_TASK_FAILURE" → ∃ task ∈ failed, IsFor env task row

/-- Every file, request and row comes from a failed task, and whoever has spooled a file has
the file or a row under its alert id. -/
structure Delivered (env : Env) (failed : Finset TaskFailure) (s : Alerting) : Prop where
  unique : (s.rows.map AlertRow.key).Nodup
  origin : ∀ row ∈ s.rows, Foreign env failed row ∨ ∃ task ∈ failed, IsFor env task row
  temporary : ∀ id row, s.temporary id = some row →
    ∃ task ∈ failed, id = task.alertId env ∧ row = (task.payload env).spoolRow
  spool : ∀ file ∈ s.spool, ∃ task ∈ failed, file = (task.alertId env, (task.payload env).spoolRow)
  requests : ∀ payload ∈ s.requests, ∃ task ∈ failed, payload = task.payload env
  kept : ∀ task ∈ s.spooled,
    task.alertId env ∈ s.rows.map AlertRow.key ∨ task.alertId env ∈ s.spool.map (·.1)

/-- What the processes rely on: alerts stay. -/
def Stays (s t : Alerting) : Prop := s.rows.map AlertRow.key ⊆ t.rows.map AlertRow.key

/-- What a process knows when it performs an operation. -/
def Justified (env : Env) (process : Process failed) : AlertOp → Alerting → Prop
  | .writeTemporary id row, _ =>
    ∃ task ∈ failed, id = task.alertId env ∧ row = (task.payload env).spoolRow
  | .replace id, _ => ∀ task ∈ process.spools, id = task.alertId env
  | .callWriter payload, _ => ∃ task ∈ failed, payload = task.payload env
  | .insertAlerts rows, _ =>
    (rows.map AlertRow.key).Nodup ∧ ∀ row ∈ rows, ∃ task ∈ failed, IsFor env task row
  | .unlink id, s => id ∈ s.rows.map AlertRow.key
  | _, _ => True

section Steps

variable {process : Process failed} {s t : Alerting}

theorem stays_insert (s : Alerting) (rows : List AlertRow) :
    s.rows.map AlertRow.key ⊆ (Table.insertNew AlertRow.key s.rows rows).map AlertRow.key :=
  fun _ held => Table.mem_keys_insertNew.2 (.inl held)

theorem AlertExec.stays {o : AlertOp} {a : o.Answer} (step : AlertExec env process o s a t) : Stays s t := by
  cases step with
  | inserted => exact stays_insert s _
  | checkedQueries => exact stays_insert s _
  | _ => exact List.Subset.refl _

/-- Inserting rows of a known origin. -/
theorem Delivered.insert (h : Delivered env failed s) {rows : List AlertRow}
    (unique : (rows.map AlertRow.key).Nodup)
    (origin : ∀ row ∈ rows, Foreign env failed row ∨ ∃ task ∈ failed, IsFor env task row) :
    Delivered env failed { s with rows := Table.insertNew AlertRow.key s.rows rows } where
  unique := Table.nodup_insertNew h.unique unique
  origin row member := by
    obtain old | ⟨new, -⟩ := Table.mem_insertNew.1 member
    · exact h.origin row old
    · exact origin row new
  temporary := h.temporary
  spool := h.spool
  requests := h.requests
  kept task spooled := (h.kept task spooled).imp_left fun held => stays_insert s rows held

theorem Delivered.write (h : Delivered env failed s) {id : String} {row : SpoolRow}
    (origin : ∃ task ∈ failed, id = task.alertId env ∧ row = (task.payload env).spoolRow) :
    Delivered env failed { s with temporary := Function.update s.temporary id (some row) } where
  unique := h.unique
  origin := h.origin
  temporary id' row' found := by
    by_cases same : id' = id
    · subst same
      simp only [Function.update_self, Option.some.injEq] at found
      exact found ▸ origin
    · simp only [Function.update_of_ne same] at found
      exact h.temporary id' row' found
  spool := h.spool
  requests := h.requests
  kept := h.kept

/-- A file that becomes a spool file, in place of another of its name. -/
theorem Delivered.rename (h : Delivered env failed s) {id : String} {row : SpoolRow}
    (written : s.temporary id = some row) (named : ∀ task ∈ process.spools, id = task.alertId env) :
    Delivered env failed { s with
      temporary := Function.update s.temporary id none
      spool := (id, row) :: s.spool.filter (·.1 ≠ id)
      spooled := s.spooled ++ process.spools } where
  unique := h.unique
  origin := h.origin
  temporary id' row' found := by
    by_cases same : id' = id
    · subst same
      simp at found
    · exact h.temporary id' row' (by simpa [same] using found)
  spool file member := by
    obtain new | old := List.mem_cons.1 member
    · obtain ⟨task, task_failed, same, content⟩ := h.temporary id row written
      exact ⟨task, task_failed, by rw [new, same, content]⟩
    · exact h.spool file (List.mem_filter.1 old).1
  requests := h.requests
  kept task spooled := by
    obtain old | new := List.mem_append.1 spooled
    · obtain held | waiting := h.kept task old
      · exact .inl held
      · right
        obtain ⟨file, member, same⟩ := List.mem_map.1 waiting
        by_cases replaced : file.1 = id
        · exact List.mem_map.2 ⟨(id, row), List.mem_cons_self, replaced.symm.trans same⟩
        · exact List.mem_map.2 ⟨file, List.mem_cons_of_mem _
            (List.mem_filter.2 ⟨member, decide_eq_true replaced⟩), same⟩
    · exact .inr (List.mem_map.2 ⟨(id, row), List.mem_cons_self, named task new⟩)

/-- A spool file is removed once its row is there. -/
theorem Delivered.unlink (h : Delivered env failed s) {id : String}
    (recorded : id ∈ s.rows.map AlertRow.key) :
    Delivered env failed { s with spool := s.spool.filter (·.1 ≠ id) } where
  unique := h.unique
  origin := h.origin
  temporary := h.temporary
  spool file member := h.spool file (List.mem_filter.1 member).1
  requests := h.requests
  kept task spooled := by
    obtain held | waiting := h.kept task spooled
    · exact .inl held
    · by_cases removed : task.alertId env = id
      · exact .inl (removed ▸ recorded)
      · obtain ⟨file, member, same⟩ := List.mem_map.1 waiting
        exact .inr (List.mem_map.2 ⟨file, List.mem_filter.2 ⟨member,
          decide_eq_true fun gone => removed (same.symm.trans gone)⟩, same⟩)

theorem Delivered.step {o : AlertOp} {a : o.Answer} (h : Delivered env failed s)
    (justified : Justified env process o s) (step : AlertExec env process o s a t) :
    Delivered env failed t := by
  cases step with
  | wrote => exact h.write justified
  | renamed written => exact h.rename written justified
  | @posted s payload r =>
    refine { h with requests := ?_ }
    intro other member
    obtain old | new := List.mem_append.1 member
    · exact h.requests other old
    · rw [List.mem_singleton.1 new]
      exact justified
  | received =>
    exact { h with requests := fun other member => h.requests other (List.mem_of_mem_erase member) }
  | inserted => exact h.insert justified.1 fun row member => .inr (justified.2 row member)
  | checkedQueries foreign unique => exact h.insert unique fun row member => .inl (foreign row member)
  | unlinked => exact h.unlink justified
  | _ => exact h

end Steps

/-! ## The programs -/

/-- The operations of a process among those of the others. -/
abbrev amidProcesses (env : Env) (process : Process failed) :
    Exec AlertOp AlertOp.Answer Alerting :=
  meanwhile (Delivered env failed) Stays (AlertExec env process)

section Programs

variable {process : Process failed} {task : TaskFailure}

theorem isFor_alert (createdAt : Instant) : IsFor env task ((task.payload env).alert createdAt) :=
  ⟨rfl, rfl, rfl, rfl⟩

theorem always_taskFailed (s : Alerting) (member : task ∈ failed) :
    Prog.Always (amidProcesses env (.callback ⟨task, member⟩)) (Justified env (.callback ⟨task, member⟩))
      (fun _ _ => True) (taskFailed env task) s := by
  refine ⟨trivial, fun made s₁ _ => ?_⟩
  cases made with
  | error e => trivial
  | ok _ =>
    refine ⟨⟨task, member, rfl, rfl⟩, fun wrote s₂ _ => ?_⟩
    cases wrote with
    | error e => trivial
    | ok _ =>
      refine ⟨?_, fun renamed s₃ _ => ?_⟩
      · intro other mine
        rw [List.mem_singleton.1 mine]
        rfl
      · cases renamed with
        | error e => trivial
        | ok _ => exact ⟨⟨task, member, rfl⟩, fun _ _ _ => trivial⟩

theorem always_postFailure (s : Alerting) :
    Prog.Always (amidProcesses env process) (Justified env process) (fun _ _ => True) postFailure s := by
  refine ⟨trivial, fun payload s₂ moved => ?_⟩
  obtain ⟨s₁, delivered, -, step⟩ := moved
  cases step with
  | received member =>
    obtain ⟨task, task_failed, rfl⟩ := delivered.requests payload member
    refine ⟨trivial, fun createdAt s₃ _ => ⟨⟨List.nodup_singleton _, ?_⟩, fun _ _ _ => trivial⟩⟩
    intro row listed
    rw [List.mem_singleton.1 listed]
    exact ⟨task, task_failed, isFor_alert createdAt⟩

/-- One spool file: its row is in the table when the file is removed. -/
theorem always_recordFile (id : String) (s : Alerting) :
    Prog.Always (amidProcesses env process) (Justified env process) (fun _ _ => True) (recordFile id) s := by
  refine ⟨trivial, fun content s₂ moved => ?_⟩
  obtain ⟨s₁, delivered, -, step⟩ := moved
  cases step with
  | readFailed => trivial
  | @read _ _ row found =>
    obtain ⟨before, after, split, -⟩ := List.lookup_eq_some_iff.1 found
    have present : (id, row) ∈ s₂.spool := by
      rw [split]
      exact List.mem_append_right _ List.mem_cons_self
    obtain ⟨task, task_failed, same⟩ := delivered.spool _ present
    obtain ⟨rfl, rfl⟩ := Prod.mk.inj same
    refine ⟨trivial, fun createdAt s₃ _ => ⟨⟨List.nodup_singleton _, ?_⟩, fun inserted s₅ moved => ?_⟩⟩
    · intro row listed
      rw [List.mem_singleton.1 listed]
      exact ⟨task, task_failed, isFor_alert createdAt⟩
    · obtain ⟨s₄, -, -, step⟩ := moved
      cases step with
      | insertFailed => trivial
      | inserted =>
        cases inserted with
        | error e => trivial
        | ok _ =>
          refine ⟨?_, fun unlinked _ _ => ?_⟩
          · exact Table.mem_keys_insertNew.2 (.inr List.mem_cons_self)
          · cases unlinked <;> trivial

theorem always_serve (passes : Nat) (s : Alerting) :
    Prog.Always (amidProcesses env process) (Justified env process) (fun _ _ => True) (serve passes) s := by
  induction passes generalizing s with
  | zero => trivial
  | succ passes ih =>
    refine ⟨trivial, fun files s₁ _ => ?_⟩
    apply Prog.Always.seq
      (Prog.Always.mapEach (fun id s _ => always_recordFile id s) files s₁ trivial)
    intro recorded s₂ _
    cases recorded with
    | error e => trivial
    | ok _ =>
      refine ⟨trivial, fun checked s₃ _ => ?_⟩
      cases checked with
      | error e => trivial
      | ok _ => exact ih s₃

end Programs

theorem alerting_cooperates (env : Env) (failed : Finset TaskFailure) :
    (alerting env failed).Cooperation (Delivered env failed) (fun _ => Stays) (Justified env)
      (fun _ _ _ => True) where
  refl _ _ := List.Subset.refl _
  trans _ _ _ _ first second := List.Subset.trans first second
  init s start := by
    obtain ⟨temporary, spool, requests, spooled, unique, foreign⟩ := start
    refine ⟨unique, fun row member => .inl (foreign row member), ?_, ?_, ?_, ?_⟩
    · intro id row found
      rw [temporary] at found
      cases found
    · simp [spool]
    · simp [requests]
    · simp [spooled]
  program process s _ := by
    cases process with
    | callback task => exact always_taskFailed s task.2
    | handler n => exact always_postFailure s
    | driver n passes => exact always_serve passes s
  stable process o s t justified stays := by
    cases o with
    | unlink id => exact stays justified
    | _ => exact justified
  keeps _ _ _ _ _ delivered justified step := delivered.step justified step
  guarantee _ _ _ _ _ _ _ _ _ step := AlertExec.stays step

/-! ## The alerts once the spool is empty -/

theorem identity_injective_of_run {task other : TaskFailure} (same : task.identity = other.identity)
    (dag : task.dagId = other.dagId) (run : task.runId = other.runId) : task = other := by
  obtain ⟨dagId, runId, taskId⟩ := task
  obtain ⟨dagId', runId', taskId'⟩ := other
  simp only at dag run
  subst dag run
  have tails : taskId = taskId' := by
    have lists := congrArg String.toList same
    simp only [TaskFailure.identity, String.toList_append, List.append_assoc] at lists
    exact String.toList_inj.1 (List.append_cancel_left (List.append_cancel_left lists))
  rw [tails]

section

variable {s : Alerting}

/-- Under distinct identities the row under a task's alert id is its own. -/
theorem Delivered.alertedOnce (h : Delivered env failed s)
    (collisionFree : ∀ task ∈ failed, ∀ other ∈ failed, task.alertId env = other.alertId env →
      task.identity = other.identity)
    (distinct : Set.InjOn TaskFailure.identity (failed : Set TaskFailure))
    (spooled : ∀ task ∈ failed, task ∈ s.spooled) (empty : s.spool = []) :
    AlertedOnce env failed s.rows := by
  constructor
  · intro task member
    have recorded : task.alertId env ∈ s.rows.map AlertRow.key := by
      obtain held | waiting := h.kept task (spooled task member)
      · exact held
      · rw [empty] at waiting
        cases waiting
    obtain ⟨row, present, key⟩ := List.mem_map.1 recorded
    have own : IsFor env task row := by
      obtain foreign | ⟨other, other_failed, isFor⟩ := h.origin row present
      · exact absurd key (foreign.2 task member)
      · have same := collisionFree other other_failed task member (isFor.2.1.symm.trans key)
        rw [← distinct other_failed member same]
        exact isFor
    have filtered : (s.rows.filter fun r => IsFor env task r) =
        s.rows.filter fun r => r.key = row.key := by
      apply List.filter_congr
      intro r r_present
      rw [decide_eq_decide]
      constructor
      · exact fun isFor => isFor.2.1.trans own.2.1.symm
      · intro same
        rw [List.inj_on_of_nodup_map h.unique r_present present same]
        exact own
    rw [filtered, Table.filter_key h.unique present]
    rfl
  · intro row present kind
    obtain foreign | isFor := h.origin row present
    · exact absurd kind foreign.1
    · exact isFor

theorem Delivered.distinct_of_alertedOnce (h : Delivered env failed s)
    (alerted : AlertedOnce env failed s.rows) :
    Set.InjOn TaskFailure.identity (failed : Set TaskFailure) := by
  intro task member other member' same
  have row_of : ∀ t ∈ failed, ∃ row ∈ s.rows, IsFor env t row := by
    intro t t_failed
    obtain ⟨row, only⟩ := List.length_eq_one_iff.1 (alerted.once t t_failed)
    have present := List.mem_filter.1 (only ▸ List.mem_singleton_self row)
    exact ⟨row, present.1, of_decide_eq_true present.2⟩
  obtain ⟨row, present, isFor⟩ := row_of task member
  obtain ⟨row', present', isFor'⟩ := row_of other member'
  have rows : row = row' := by
    apply List.inj_on_of_nodup_map h.unique present present'
    exact isFor.2.1.trans ((congrArg env.sha256 same).trans isFor'.2.1.symm)
  subst rows
  exact identity_injective_of_run same (isFor.2.2.1.symm.trans isFor'.2.2.1)
    (isFor.2.2.2.symm.trans isFor'.2.2.2)

end

/-- **When every failure is alerted once.** In any state that callbacks, handlers and drivers
can come to, with crashes and restarts at any point, where every failed task has spooled its
file and the spool is empty: each failed task has exactly one alert of its own if and only if
no two of them have the same `run_id:task_id`, the hash being free of collisions among them. -/
theorem failures_alerted_once_iff (env : Env) (failed : Finset TaskFailure)
    (collisionFree : ∀ task ∈ failed, ∀ other ∈ failed, task.alertId env = other.alertId env →
      task.identity = other.identity)
    {threads : Process failed → AlertM Unit} {s : Alerting}
    (reached : (alerting env failed).Reachable threads s)
    (spooled : ∀ task ∈ failed, task ∈ s.spooled) (empty : s.spool = []) :
    AlertedOnce env failed s.rows ↔ Set.InjOn TaskFailure.identity (failed : Set TaskFailure) := by
  have delivered := (alerting_cooperates env failed).invariant reached
  exact ⟨delivered.distinct_of_alertedOnce,
    fun distinct => delivered.alertedOnce collisionFree distinct spooled empty⟩

/-! ## Two runs -/

/-- Operations that succeed where they can; `/failure` does not reach the driver. -/
def Alerting.answer (process : Process failed) : (o : AlertOp) → Alerting → Option (o.Answer × Alerting)
  | .mkdir, s => some (.ok (), s)
  | .writeTemporary id row, s =>
    some (.ok (), { s with temporary := Function.update s.temporary id (some row) })
  | .replace id, s => (s.temporary id).map fun row => (.ok (), { s with
      temporary := Function.update s.temporary id none
      spool := (id, row) :: s.spool.filter (·.1 ≠ id)
      spooled := s.spooled ++ process.spools })
  | .callWriter _, s => some (.error (.httpError "Connection refused"), s)
  | .receive, _ => none
  | .glob, s => some (s.spool.map (·.1), s)
  | .readText id, s => (s.spool.lookup id).map fun row => (.ok row, s)
  | .now, s => some (0, s)
  | .insertAlerts rows, s =>
    some (.ok (), { s with rows := Table.insertNew AlertRow.key s.rows rows })
  | .unlink id, s => some (.ok (), { s with spool := s.spool.filter (·.1 ≠ id) })
  | .checkQueries, s => some (.ok (), { s with rows := Table.insertNew AlertRow.key s.rows [] })

theorem alertExec_answer (env : Env) (process : Process failed) (o : AlertOp) (s : Alerting)
    (a : o.Answer) (t : Alerting) (answer : Alerting.answer process o s = some (a, t)) :
    AlertExec env process o s a t := by
  cases o with
  | mkdir => cases answer; exact .mkdir
  | writeTemporary id row => cases answer; exact .wrote
  | replace id =>
    obtain ⟨row, written, same⟩ := Option.map_eq_some_iff.1 answer
    cases same
    exact .renamed written
  | callWriter payload => cases answer; exact .notPosted
  | receive => cases answer
  | glob => cases answer; exact .listed (List.Perm.refl _)
  | readText id =>
    obtain ⟨row, found, same⟩ := Option.map_eq_some_iff.1 answer
    cases same
    exact .read found
  | now => cases answer; exact .now
  | insertAlerts rows => cases answer; exact .inserted
  | unlink id => cases answer; exact .unlinked
  | checkQueries =>
    cases answer
    exact .checkedQueries (fun _ member => by cases member) List.nodup_nil

/-- No exception text, and the identity for the hash. -/
def demoEnv : Env := ⟨id, fun _ => none⟩

def Alerting.start : Alerting := ⟨fun _ => none, [], [], [], []⟩

theorem alerting_start (env : Env) (failed : Finset TaskFailure) :
    (alerting env failed).Reachable (alerting env failed).program Alerting.start :=
  ⟨Alerting.start, ⟨fun _ => rfl, rfl, rfl, rfl, List.nodup_nil, fun _ member => by cases member⟩, .refl⟩

/-- A run of two DAGs over the same day, and its last task in each. -/
def goldFailure : TaskFailure :=
  ⟨"analytics_gold_refresh", "scheduled__2026-09-05T00:00:00+00:00", "evaluate_alerts"⟩

def legalFailure : TaskFailure :=
  ⟨"analytics_legal_ingestion", "scheduled__2026-09-05T00:00:00+00:00", "evaluate_alerts"⟩

/-- Each callback spools its file, and a driver empties the spool after each. -/
def sharedAlert : (Process {goldFailure, legalFailure} → AlertM Unit) × Alerting :=
  Interleaving.play Alerting.answer
    (List.replicate 4 (.callback ⟨goldFailure, by decide⟩) ++ List.replicate 6 (.driver 0 2) ++
      List.replicate 4 (.callback ⟨legalFailure, by decide⟩) ++ List.replicate 6 (.driver 0 2))
    ((alerting demoEnv {goldFailure, legalFailure}).program, Alerting.start)

/-- **Two failures, one alert.** The second failure finds the alert of the other DAG. -/
theorem shared_alert :
    (alerting demoEnv {goldFailure, legalFailure}).Reachable sharedAlert.1 sharedAlert.2 ∧
    goldFailure ≠ legalFailure ∧
    (∀ task ∈ ({goldFailure, legalFailure} : Finset TaskFailure), task ∈ sharedAlert.2.spooled) ∧
    sharedAlert.2.spool = [] ∧
    ¬ AlertedOnce demoEnv {goldFailure, legalFailure} sharedAlert.2.rows := by
  refine ⟨Interleaving.Reachable.play (alertExec_answer demoEnv) _ (alerting_start _ _),
    by decide, by decide +kernel, by decide +kernel, ?_⟩
  intro alerted
  have once := alerted.once legalFailure (by decide)
  revert once
  decide +kernel

/-- Two tasks of one run. -/
def datesFailure : TaskFailure :=
  ⟨"analytics_gold_refresh", "scheduled__2026-09-05T00:00:00+00:00", "find_touched_dates"⟩

/-- The first driver crashes after its first insert; the next one finds both files. -/
def crashedDriver : (Process {goldFailure, datesFailure} → AlertM Unit) × Alerting :=
  Interleaving.play Alerting.answer
    (List.replicate 4 (.callback ⟨goldFailure, by decide⟩) ++ List.replicate 4 (.driver 0 1) ++
      List.replicate 4 (.callback ⟨datesFailure, by decide⟩) ++ List.replicate 10 (.driver 1 1))
    ((alerting demoEnv {goldFailure, datesFailure}).program, Alerting.start)

theorem failures_alerted_once_crash : AlertedOnce demoEnv {goldFailure, datesFailure} crashedDriver.2.rows := by
  have distinct : Set.InjOn TaskFailure.identity (({goldFailure, datesFailure} : Finset TaskFailure) : Set TaskFailure) := by
    simp [Set.InjOn, TaskFailure.identity, goldFailure, datesFailure]
  exact (failures_alerted_once_iff demoEnv {goldFailure, datesFailure} (fun _ _ _ _ same => same)
    (Interleaving.Reachable.play (alertExec_answer demoEnv) _ (alerting_start _ _))
    (by decide +kernel) (by decide +kernel)).2 distinct

end Tikblog.Airflow
