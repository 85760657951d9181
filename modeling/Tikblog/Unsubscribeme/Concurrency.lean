import Tikblog.Program.Interleaving
import Tikblog.Unsubscribeme.Api

/-!
# Concurrent calls of the endpoint

Any number of calls run at the same time, and between the upsert of a call and its select
the others may commit. The argument is that of one row: once there it stays, and its time
only gets earlier (`Progress`), always with the time and the source of a request that wrote
it (`Truthful`). A select that follows an upsert therefore finds a row, and what it finds
was supplied by somebody and is not later than the call's own request.
-/

namespace Tikblog.Unsubscribeme

open Python Contracts Program

variable {ι : Type}

/-- A committed upsert that wrote the row: `inserted` as it was returned. -/
structure Write (ι : Type) where
  caller : ι
  request : Request
  inserted : Bool

/-- The table, and which upserts made it. -/
structure Database (ι : Type) where
  table : Table
  writes : List (Write ι)

def Database.empty : Database ι := ⟨Table.empty, []⟩

/-- The database after an upsert that commits. -/
def Database.upsert (db : Database ι) (caller : ι) (now : Instant) (request : Request) : Database ι where
  table := (Unsubscribeme.upsert now request db.table).2
  writes :=
    match (Unsubscribeme.upsert now request db.table).1 with
    | some (inserted, _) => db.writes ++ [⟨caller, request, inserted⟩]
    | none => db.writes

/-- The database after a write of `row`. -/
def Database.record (db : Database ι) (write : Write ι) (row : Subscription) : Database ι where
  table := Function.update db.table write.request.key (some row)
  writes := db.writes ++ [write]

theorem Database.record_self (db : Database ι) (write : Write ι) (row : Subscription) :
    (db.record write row).table write.request.key = some row :=
  Function.update_self ..

theorem Database.record_other (db : Database ι) {write : Write ι} (row : Subscription) {key : Key}
    (other : key ≠ write.request.key) : (db.record write row).table key = db.table key :=
  Function.update_of_ne other ..

/-- Statements under READ COMMITTED. Any of them may fail; a failed upsert has been rolled
back, or its answer was lost after the commit. -/
inductive Statement (caller : ι) : (o : Op) → Database ι → Ans o → Database ι → Prop where
  | upserted (db : Database ι) (now : Instant) (request : Request) :
      Statement caller (.upsert request) db (.ok (Unsubscribeme.upsert now request db.table).1)
        (db.upsert caller now request)
  | upsertFailed (db : Database ι) (request : Request) (error : String) :
      Statement caller (.upsert request) db (.error error) db
  | upsertLost (db : Database ι) (now : Instant) (request : Request) (error : String) :
      Statement caller (.upsert request) db (.error error) (db.upsert caller now request)
  | selected (db : Database ι) (key : Key) :
      Statement caller (.select key) db (.ok (select key db.table)) db
  | selectFailed (db : Database ι) (key : Key) (error : String) :
      Statement caller (.select key) db (.error error) db

/-- What the operations of one call of the endpoint do. -/
inductive ApiExec (caller : ι) : (o : ApiOp) → Database ι → ApiAns o → Database ι → Prop where
  | random {db : Database ι} {drawn : ℚ} :
      0 ≤ drawn → drawn < 1 → ApiExec caller .random db drawn db
  | sleep {db : Database ι} {seconds : ℚ} : ApiExec caller (.sleep seconds) db () db
  | repository {o : Op} {db db' : Database ι} {a : Ans o} :
      Statement caller o db a db' → ApiExec caller (.repository o) db a db'

/-- A call of the endpoint for each `i`, on a table that is empty at first. -/
def concurrentCalls (settings : Settings) (payload : ι → UnsubscribeRequest) :
    Interleaving ι ApiOp ApiAns HTTPException UnsubscribeResponse (Database ι) where
  init db := db = Database.empty
  program i := postUnsubscribe settings (payload i)
  exec := ApiExec

/-! ## One row -/

/-- `write` supplied the time and the source. -/
def Write.Supplies (write : Write ι) (unsubscribedAt : Option Instant)
    (source : Option UnsubscribeSource) : Prop :=
  unsubscribedAt = some write.request.requestedAt ∧ source = some write.request.source

/-- What the rows say is what some committed request said, and each pair was inserted once. -/
structure Truthful (db : Database ι) : Prop where
  supplied : ∀ key row, db.table key = some row → row.status = .unsubscribed ∧
    ∃ write ∈ db.writes, write.request.key = key ∧ write.Supplies row.unsubscribedAt row.unsubscribeSource
  present : ∀ write ∈ db.writes, db.table write.request.key ≠ none
  once : db.writes.Pairwise fun write later => later.inserted → write.request.key ≠ later.request.key

/-- The pair has a row with a time no later than `t`. -/
def UnsubscribedBy (key : Key) (t : Instant) (db : Database ι) : Prop :=
  ∃ row at', db.table key = some row ∧ row.unsubscribedAt = some at' ∧ at' ≤ t

/-- Writes are not forgotten, rows stay, and their times only get earlier. -/
structure Progress (db db' : Database ι) : Prop where
  writes : ∀ write ∈ db.writes, write ∈ db'.writes
  earlier : ∀ key t, UnsubscribedBy key t db → UnsubscribedBy key t db'

theorem Progress.refl (db : Database ι) : Progress db db := ⟨fun _ h => h, fun _ _ h => h⟩

theorem Progress.trans {db₁ db₂ db₃ : Database ι} (h : Progress db₁ db₂) (h' : Progress db₂ db₃) :
    Progress db₁ db₃ :=
  ⟨fun _ member => h'.writes _ (h.writes _ member), fun _ _ row => h'.earlier _ _ (h.earlier _ _ row)⟩

theorem truthful_empty : Truthful (Database.empty : Database ι) where
  supplied _ _ found := by cases found
  present _ member := by cases member
  once := .nil

variable {db db' : Database ι} {caller : ι}

/-- What an upsert does: it writes the row of its pair, or finds one that is not later. -/
theorem upsert_cases (db : Database ι) (caller : ι) (now : Instant) (request : Request) :
    (∃ createdAt inserted, (inserted = true → db.table request.key = none) ∧
      (∀ old, db.table request.key = some old → request.Replaces old) ∧
      (upsert now request db.table).1 = some (inserted, (request.row createdAt now).reported) ∧
      db.upsert caller now request = db.record ⟨caller, request, inserted⟩ (request.row createdAt now)) ∨
    (∃ old, db.table request.key = some old ∧ ¬ request.Replaces old ∧
      (upsert now request db.table).1 = none ∧ db.upsert caller now request = db) := by
  cases found : db.table request.key with
  | none =>
    left
    exact ⟨now, true, fun _ => rfl, by simp, by simp only [upsert, found],
      by simp only [Database.upsert, upsert, found, Database.record]⟩
  | some old =>
    by_cases replaces : request.Replaces old
    · left
      refine ⟨old.createdAt, false, by simp, ?_, ?_, ?_⟩
      · intro row same
        cases same
        exact replaces
      · simp only [upsert, found, if_pos replaces]
      · simp only [Database.upsert, upsert, found, if_pos replaces, Database.record]
    · right
      exact ⟨old, rfl, replaces, by simp only [upsert, found, if_neg replaces],
        by simp only [Database.upsert, upsert, found, if_neg replaces]⟩

/-- Two insertions for one pair are the same. -/
theorem Truthful.inserted_once (h : Truthful db) {write write' : Write ι} (member : write ∈ db.writes)
    (member' : write' ∈ db.writes) (inserted : write.inserted = true)
    (inserted' : write'.inserted = true) (keys : write.request.key = write'.request.key) :
    write = write' := by
  let Same (w v : Write ι) : Prop :=
    w.inserted = true → v.inserted = true → w.request.key = v.request.key → w = v
  have ordered : db.writes.Pairwise Same :=
    h.once.imp fun differ _ created keys => absurd keys (differ created)
  have reversed : db.writes.Pairwise (flip Same) :=
    h.once.imp fun differ created _ keys => absurd keys.symm (differ created)
  have all := List.Pairwise.forall_of_forall_of_flip (R := Same) (fun _ _ _ _ _ => rfl) ordered reversed
  exact all member member' inserted inserted' keys

theorem Truthful.upsert (h : Truthful db) (caller : ι) (now : Instant) (request : Request) :
    Truthful (db.upsert caller now request) := by
  obtain ⟨createdAt, inserted, fresh, -, -, after⟩ | ⟨old, -, -, -, after⟩ :=
    upsert_cases db caller now request
  · rw [after]
    constructor
    · intro key row found
      by_cases same : key = request.key
      · subst same
        rw [Database.record_self] at found
        cases found
        exact ⟨rfl, _, List.mem_append_right _ (List.mem_singleton_self _), rfl, rfl, rfl⟩
      · rw [Database.record_other _ _ same] at found
        obtain ⟨status, write, member, keys, supplies⟩ := h.supplied key row found
        exact ⟨status, write, List.mem_append_left _ member, keys, supplies⟩
    · intro write member
      obtain old | new := List.mem_append.1 member
      · by_cases same : write.request.key = request.key
        · rw [same, Database.record_self]
          exact Option.some_ne_none _
        · rw [Database.record_other _ _ same]
          exact h.present write old
      · rw [List.mem_singleton.1 new, Database.record_self]
        exact Option.some_ne_none _
    · apply List.pairwise_append.2
      refine ⟨h.once, List.pairwise_singleton _ _, ?_⟩
      intro write member later last
      rw [List.mem_singleton.1 last]
      intro created same
      exact h.present write member (same ▸ fresh created)
  · rw [after]
    exact h

theorem progress_upsert (db : Database ι) (caller : ι) (now : Instant) (request : Request) :
    Progress db (db.upsert caller now request) := by
  obtain ⟨createdAt, inserted, -, replaces, -, after⟩ | ⟨old, -, -, -, after⟩ :=
    upsert_cases db caller now request
  · rw [after]
    refine ⟨fun write member => List.mem_append_left _ member, ?_⟩
    intro key t unsubscribed
    obtain ⟨row, time, found, at_row, early⟩ := unsubscribed
    by_cases same : key = request.key
    · subst same
      refine ⟨_, request.requestedAt, Database.record_self .., rfl, ?_⟩
      exact (replaces row found time at_row).le.trans early
    · exact ⟨row, time, by rw [Database.record_other _ _ same, found], at_row, early⟩
  · rw [after]
    exact Progress.refl db

/-- Every statement keeps the rows truthful and lets them only progress. -/
theorem Statement.keeps {o : Op} {a : Ans o} (step : Statement caller o db a db') (h : Truthful db) :
    Truthful db' ∧ Progress db db' := by
  cases step with
  | upserted now request => exact ⟨h.upsert _ _ _, progress_upsert ..⟩
  | upsertFailed => exact ⟨h, Progress.refl db⟩
  | upsertLost now request error => exact ⟨h.upsert _ _ _, progress_upsert ..⟩
  | selected => exact ⟨h, Progress.refl db⟩
  | selectFailed => exact ⟨h, Progress.refl db⟩

theorem ApiExec.keeps {o : ApiOp} {a : ApiAns o} (step : ApiExec caller o db a db') (h : Truthful db) :
    Truthful db' ∧ Progress db db' := by
  cases step with
  | random => exact ⟨h, Progress.refl db⟩
  | sleep => exact ⟨h, Progress.refl db⟩
  | repository statement => exact statement.keeps h

/-! ## One call -/

/-- A select is made only for a pair that has a row, by a request no earlier than the row. -/
def SelectsRow (request : Request) : Op → Database ι → Prop
  | .select key, db => key = request.key ∧ UnsubscribedBy key request.requestedAt db
  | .upsert _, _ => True

/-- The result repeats a committed request of the same pair that is not later than the
call's own; a call that is told `created` inserted the row. -/
structure Answers (caller : ι) (request : Request) (result : UnsubscribeResult)
    (db : Database ι) : Prop where
  pair : result.userId = request.userId ∧ result.writerId = request.writerId
  status : result.status = .unsubscribed
  supplied : ∃ write ∈ db.writes, write.request.key = request.key ∧
    write.request.requestedAt ≤ request.requestedAt ∧
    write.Supplies result.unsubscribedAt result.unsubscribeSource
  created : result.outcome = .created → ⟨caller, request, true⟩ ∈ db.writes

/-- The state between two operations of a call: others have progressed. -/
abbrev amidOthers (caller : ι) : Exec Op Ans (Database ι) :=
  meanwhile Truthful Progress (Statement caller)

/-- After an upsert that returned no row: the select finds the row of the pair. -/
theorem always_select (caller : ι) (request : Request)
    (found : UnsubscribedBy request.key request.requestedAt db)
    {next : Ans (.select request.key) → RepositoryM UnsubscribeResult}
    {Q : Except DatabaseError UnsubscribeResult → Database ι → Prop}
    (failed : ∀ error db', Prog.Always (amidOthers caller) (SelectsRow request) Q (next (.error error)) db')
    (row : ∀ row db', Truthful db' → db'.table request.key = some row →
      (∀ t ∈ row.unsubscribedAt, t ≤ request.requestedAt) →
      Prog.Always (amidOthers caller) (SelectsRow request) Q (next (.ok (some row.reported))) db') :
    Prog.Always (amidOthers caller) (SelectsRow request) Q (.op (.select request.key) next) db := by
  refine ⟨⟨rfl, found⟩, ?_⟩
  intro a db₂ moved
  obtain ⟨db₁, truthful, progress, statement⟩ := moved
  obtain ⟨old, t, present, at_old, early⟩ := progress.earlier _ _ found
  cases statement with
  | selected =>
    have read : select request.key db₂.table = some old.reported := by
      rw [select, present, Option.map_some]
    rw [read]
    apply row old db₂ truthful present
    intro t' same
    rw [at_old] at same
    cases same
    exact early
  | selectFailed error => exact failed _ _

/-- **One call among others.** -/
theorem always_unsubscribe (caller : ι) (request : Request) (db : Database ι) :
    Prog.Always (amidOthers caller) (SelectsRow request)
      (fun r db => ∀ result, r = .ok result → Answers caller request result db)
      (unsubscribe request) db := by
  refine ⟨trivial, ?_⟩
  intro a db₂ moved
  obtain ⟨db₁, truthful, -, statement⟩ := moved
  cases statement with
  | upsertFailed _ error => intro result ended; cases ended
  | upsertLost _ now _ error => intro result ended; cases ended
  | upserted _ now =>
    obtain ⟨createdAt, inserted, -, -, answer, after⟩ | ⟨old, found, keeps, answer, after⟩ :=
      upsert_cases db₁ caller now request
    · rw [answer, after]
      intro result ended
      cases ended
      have written : (⟨caller, request, inserted⟩ : Write ι) ∈ db₁.writes ++ [⟨caller, request, inserted⟩] :=
        List.mem_append_right _ (List.mem_singleton_self _)
      refine ⟨⟨rfl, rfl⟩, rfl, ⟨_, written, rfl, le_refl _, rfl, rfl⟩, ?_⟩
      intro created
      cases inserted with
      | true => exact written
      | false => cases created
    · rw [answer, after]
      obtain ⟨-, write, -, -, time, -⟩ := truthful.supplied _ _ found
      have early : write.request.requestedAt ≤ request.requestedAt := by
        by_contra later
        apply keeps
        intro t same
        rw [time] at same
        cases same
        exact not_le.1 later
      apply always_select caller request ⟨old, _, found, time, early⟩
      · intro error db' result ended
        cases ended
      · intro row db' truthful' present early' result ended
        cases ended
        obtain ⟨status, write', member, keys, time', source⟩ := truthful'.supplied _ _ present
        refine ⟨⟨rfl, rfl⟩, status, ⟨write', member, keys, early' _ time', time', source⟩, ?_⟩
        intro created
        cases created

/-! ## All calls -/

/-- What a call knows when it performs an operation. -/
def Knows (request : Request) : ApiOp → Database ι → Prop
  | .repository o, db => SelectsRow request o db
  | _, _ => True

/-- A successful response is that of a result which answers the request. -/
def Responds (caller : ι) (request : Request) (r : Except HTTPException UnsubscribeResponse)
    (db : Database ι) : Prop :=
  ∀ response, r = .ok response →
    ∃ result, response = result.response ∧ Answers caller request result db

theorem always_callRepository (caller : ι) (payload : UnsubscribeRequest) (db : Database ι) :
    Prog.Always (meanwhile Truthful Progress (ApiExec caller)) (Knows payload.request)
      (fun r db => ∃ attempted, r = .ok attempted ∧
        ∀ result, attempted = .ok result → Answers caller payload.request result db)
      (callRepository payload) db := by
  apply Prog.Always.attempt
  refine (Prog.Always.embed ApiOp.repository (fun _ a => a) id (fun _ _ => True) (fun _ => trivial)
    (fun _ _ _ _ _ => trivial) ?_ (always_unsubscribe caller payload.request db)).mono ?_ ?_
  · intro o db₁ a db₃ moved
    obtain ⟨db₂, truthful, progress, step⟩ := moved
    cases step with
    | repository statement => exact ⟨⟨db₂, truthful, progress, statement⟩, trivial⟩
  · intro o db' before
    obtain ⟨statement, rfl, selects, -⟩ := before
    exact selects
  · intro r db' ended
    exact ⟨r, rfl, ended.1⟩

/-- The endpoint after its pause, among other calls. -/
theorem always_respond (caller : ι) (payload : UnsubscribeRequest) (db : Database ι) :
    Prog.Always (meanwhile Truthful Progress (ApiExec caller)) (Knows payload.request)
      (Responds caller payload.request) (do
        match ← callRepository payload with
        | .error _ => throw ⟨503, "database unavailable"⟩
        | .ok result => return result.response : ApiM UnsubscribeResponse) db := by
  apply Prog.Always.seq (always_callRepository caller payload db)
  intro r db' ended
  obtain ⟨attempted, rfl, answers⟩ := ended
  cases attempted with
  | error error => intro response ended; cases ended
  | ok result =>
    intro response ended
    cases ended
    exact ⟨result, rfl, answers result rfl⟩

/-- The endpoint that does not fail on purpose, among other calls. -/
theorem always_sleep_respond (settings : Settings) (caller : ι) (payload : UnsubscribeRequest)
    (db : Database ι) :
    Prog.Always (meanwhile Truthful Progress (ApiExec caller)) (Knows payload.request)
      (Responds caller payload.request) (do
        sleepBeforeCall settings
        match ← callRepository payload with
        | .error _ => throw ⟨503, "database unavailable"⟩
        | .ok result => return result.response : ApiM UnsubscribeResponse) db := by
  rw [sleepBeforeCall]
  split
  · exact ⟨trivial, fun _ db' _ => always_respond caller payload db'⟩
  · exact always_respond caller payload db

/-- The endpoint, among other calls. -/
theorem always_postUnsubscribe (settings : Settings) (caller : ι) (payload : UnsubscribeRequest)
    (db : Database ι) :
    Prog.Always (meanwhile Truthful Progress (ApiExec caller)) (Knows payload.request)
      (Responds caller payload.request) (postUnsubscribe settings payload) db := by
  have refused : ∀ db : Database ι,
      Responds caller payload.request (.error ⟨settings.failureStatus, "injected failure"⟩) db := by
    intro db response ended
    cases ended
  rw [postUnsubscribe, shouldFail]
  split
  · refine ⟨trivial, ?_⟩
    intro drawn db' _
    by_cases unlucky : drawn < settings.failureRate
    · simp only [Prog.bind_eq, Prog.pure_eq, Prog.bind_ok, unlucky, decide_true, if_true]
      exact refused db'
    · simp only [Prog.bind_eq, Prog.pure_eq, Prog.bind_ok, unlucky, decide_false, Bool.false_eq_true,
        if_false]
      exact always_sleep_respond settings caller payload db'
  · exact always_sleep_respond settings caller payload db

/-- The calls keep each other's assumptions. -/
theorem cooperation (settings : Settings) (payload : ι → UnsubscribeRequest) :
    (concurrentCalls settings payload).Cooperation Truthful (fun _ => Progress)
      (fun i => Knows (payload i).request) (fun i => Responds i (payload i).request) where
  refl _ := Progress.refl
  trans _ _ _ _ := Progress.trans
  init db start := by
    cases start
    exact truthful_empty
  program i db _ := always_postUnsubscribe settings i (payload i) db
  stable i o db db' knows progress := by
    cases o with
    | random => trivial
    | sleep seconds => trivial
    | repository statement =>
      cases statement with
      | upsert request => trivial
      | select key => exact ⟨knows.1, progress.earlier _ _ knows.2⟩
  keeps _ _ _ _ _ truthful _ step := (ApiExec.keeps step truthful).1
  guarantee _ _ _ _ _ _ _ truthful _ step := (ApiExec.keeps step truthful).2

/-- **Concurrent requests get truthful answers.** At any point of any run of concurrent calls:
a select that is about to be made finds a row unless it fails; every response says
`UNSUBSCRIBED` and repeats the time and the source of a request of the same pair that has
already written the row and is not later than the call's own; and of the calls for one pair
at most one was told `created`. -/
theorem concurrent_answers_truthful [DecidableEq ι] (settings : Settings)
    (payload : ι → UnsubscribeRequest) {threads : ι → ApiM UnsubscribeResponse} {db : Database ι}
    (reached : (concurrentCalls settings payload).Reachable threads db) :
    (∀ i key next a db', threads i = .op (.repository (.select key)) next →
      Statement i (.select key) db a db' → a ≠ .ok none) ∧
    (∀ i response, threads i = .done (.ok response) →
      response.userId = (payload i).userId ∧ response.writerId = (payload i).writerId ∧
      response.status = "UNSUBSCRIBED" ∧
      ∃ write ∈ db.writes, write.request.key = (payload i).request.key ∧
        write.request.requestedAt ≤ (payload i).requestedAt.instant ∧
        response.unsubscribedAt = some write.request.requestedAt ∧
        response.unsubscribeSource = some write.request.source.value) ∧
    ∀ i j response response', threads i = .done (.ok response) → threads j = .done (.ok response') →
      response.outcome = .created → response'.outcome = .created →
      (payload i).request.key = (payload j).request.key → i = j := by
  have cooperate := cooperation settings payload
  have answered : ∀ i response, threads i = .done (.ok response) →
      ∃ result db₀, response = result.response ∧ Progress db₀ db ∧
        Answers i (payload i).request result db₀ := by
    intro i response ended
    obtain ⟨db₀, progress, responds⟩ := cooperate.post reached ended
    obtain ⟨result, same, answers⟩ := responds response rfl
    exact ⟨result, db₀, same, progress, answers⟩
  refine ⟨?_, ?_, ?_⟩
  · intro i key next a db' about statement
    obtain ⟨-, row, t, found, -⟩ := cooperate.guard reached about
    cases statement with
    | selected =>
      rw [select, found]
      simp
    | selectFailed error => simp
  · intro i response ended
    obtain ⟨result, db₀, rfl, progress, answers⟩ := answered i response ended
    obtain ⟨write, member, keys, early, time, source⟩ := answers.supplied
    refine ⟨answers.pair.1, answers.pair.2, ?_, write, progress.writes _ member, keys, early, time, ?_⟩
    · rw [UnsubscribeResult.response, answers.status]
      rfl
    · rw [UnsubscribeResult.response, source]
      rfl
  · intro i j response response' ended ended' created created' keys
    obtain ⟨result, db₀, rfl, progress, answers⟩ := answered i response ended
    obtain ⟨result', db₀', rfl, progress', answers'⟩ := answered j response' ended'
    have same := (cooperate.invariant reached).inserted_once
      (progress.writes _ (answers.created created)) (progress'.writes _ (answers'.created created'))
      rfl rfl keys
    exact congrArg Write.caller same

/-! ## A select that sees a later write -/

/-- Operations that succeed, in transactions at time `0`. -/
def Database.answer (caller : ι) : (o : ApiOp) → Database ι → Option (ApiAns o × Database ι)
  | .random, db => some (0, db)
  | .sleep _, db => some ((), db)
  | .repository (.upsert request), db =>
    some (.ok (Unsubscribeme.upsert 0 request db.table).1, db.upsert caller 0 request)
  | .repository (.select key), db => some (.ok (select key db.table), db)

theorem apiExec_answer (caller : ι) (o : ApiOp) (db : Database ι) (a : ApiAns o) (db' : Database ι)
    (answer : Database.answer caller o db = some (a, db')) : ApiExec caller o db a db' := by
  cases o with
  | random => cases answer; exact .random (le_refl 0) zero_lt_one
  | sleep seconds => cases answer; exact .sleep
  | repository statement =>
    cases statement with
    | upsert request => cases answer; exact .repository (.upserted ..)
    | select key => cases answer; exact .repository (.selected ..)

/-- Three requests of one pair. -/
def threeCalls : Fin 3 → UnsubscribeRequest
  | 0 => ⟨"e-0", "reader-1", "writer-1", .ui, ⟨1000, some 0⟩, rfl⟩
  | 1 => ⟨"e-1", "reader-1", "writer-1", .customerSuccess, ⟨2000, some 0⟩, rfl⟩
  | 2 => ⟨"e-2", "reader-1", "writer-1", .legal, ⟨500, some 0⟩, rfl⟩

/-- Between the upsert and the select of call `1`, call `2` replaces the row. -/
def lateSelect : (Fin 3 → ApiM UnsubscribeResponse) × Database (Fin 3) :=
  Interleaving.play Database.answer [0, 1, 2, 1]
    ((concurrentCalls Settings.defaults threeCalls).program, Database.empty)

theorem concurrent_answers_truthful_late :
    lateSelect.1 1 = .done (.ok ⟨"reader-1", "writer-1", "UNSUBSCRIBED", some 500, some "LEGAL", .unchanged⟩) ∧
    ∃ write ∈ lateSelect.2.writes, write.request.key = (threeCalls 1).request.key ∧
      write.request.requestedAt ≤ (threeCalls 1).requestedAt.instant ∧
      some 500 = some write.request.requestedAt ∧ some "LEGAL" = some write.request.source.value := by
  have ended : lateSelect.1 1 =
      .done (.ok ⟨"reader-1", "writer-1", "UNSUBSCRIBED", some 500, some "LEGAL", .unchanged⟩) := by rfl
  have reached : (concurrentCalls Settings.defaults threeCalls).Reachable lateSelect.1 lateSelect.2 :=
    Interleaving.Reachable.play apiExec_answer [0, 1, 2, 1] ⟨_, rfl, .refl⟩
  exact ⟨ended, ((concurrent_answers_truthful Settings.defaults threeCalls reached).2.1 1 _ ended).2.2.2⟩

end Tikblog.Unsubscribeme
