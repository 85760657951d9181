import Mathlib.Logic.Function.Basic
import Mathlib.Algebra.Order.Group.Int
import Tikblog.Program.Prog
import Tikblog.Contracts.Event

/-!
# The subscription table and its repository

The table of the migration, the two statements of `db.py`, and
`SubscriptionRepository.unsubscribe` as a program over them. A table is a function of its
primary key, and a row carries the check constraints. Postgres text holds no NUL; strings
are meant without.
-/

namespace Tikblog.Unsubscribeme

open Python Contracts Program

/-- `subscription_status_known`. -/
inductive Status where
  | subscribed
  | unsubscribed
  deriving DecidableEq, Repr

def Status.value : Status → String
  | .subscribed => "SUBSCRIBED"
  | .unsubscribed => "UNSUBSCRIBED"

/-- The columns of a row besides its key. `hasTimestamp` is the constraint
`subscription_unsubscribed_has_timestamp`. -/
structure Subscription where
  status : Status
  unsubscribedAt : Option Instant
  unsubscribeSource : Option UnsubscribeSource
  unsubscribeEventId : Option String
  createdAt : Instant
  updatedAt : Instant
  hasTimestamp : status = .unsubscribed → unsubscribedAt ≠ none
  deriving DecidableEq

/-- `(user_id, writer_id)`. -/
abbrev Key := String × String

abbrev Table := Key → Option Subscription

def Table.empty : Table := fun _ => none

/-- The arguments of `unsubscribe`. -/
structure Request where
  eventId : String
  userId : String
  writerId : String
  source : UnsubscribeSource
  requestedAt : Instant
  deriving DecidableEq, Repr

def Request.key (request : Request) : Key := (request.userId, request.writerId)

/-- The row an upsert writes. -/
def Request.row (request : Request) (createdAt updatedAt : Instant) : Subscription where
  status := .unsubscribed
  unsubscribedAt := some request.requestedAt
  unsubscribeSource := some request.source
  unsubscribeEventId := some request.eventId
  createdAt := createdAt
  updatedAt := updatedAt
  hasTimestamp _ := by simp

/-- The columns both statements return. -/
structure Reported where
  status : Status
  unsubscribedAt : Option Instant
  unsubscribeSource : Option UnsubscribeSource
  deriving DecidableEq, Repr

def Subscription.reported (row : Subscription) : Reported :=
  ⟨row.status, row.unsubscribedAt, row.unsubscribeSource⟩

/-- `subscription.unsubscribed_at IS NULL OR EXCLUDED.unsubscribed_at < subscription.unsubscribed_at`. -/
def Request.Replaces (request : Request) (row : Subscription) : Prop :=
  ∀ t ∈ row.unsubscribedAt, request.requestedAt < t

instance (request : Request) (row : Subscription) : Decidable (request.Replaces row) :=
  inferInstanceAs (Decidable (∀ t ∈ row.unsubscribedAt, request.requestedAt < t))

/-- `_UPSERT_SQL` in a transaction at time `now`: what it returns, with `inserted`, and the
table it leaves. -/
def upsert (now : Instant) (request : Request) (table : Table) : Option (Bool × Reported) × Table :=
  match table request.key with
  | none =>
    let row := request.row now now
    (some (true, row.reported), Function.update table request.key (some row))
  | some old =>
    if request.Replaces old then
      let row := request.row old.createdAt now
      (some (false, row.reported), Function.update table request.key (some row))
    else
      (none, table)

/-- `_SELECT_SQL`. -/
def select (key : Key) (table : Table) : Option Reported := (table key).map Subscription.reported

inductive Outcome where
  | created
  | updated
  | unchanged
  deriving DecidableEq, Repr

structure UnsubscribeResult where
  userId : String
  writerId : String
  status : Status
  unsubscribedAt : Option Instant
  unsubscribeSource : Option UnsubscribeSource
  outcome : Outcome
  deriving DecidableEq, Repr

structure DatabaseError where
  message : String
  deriving DecidableEq, Repr

inductive Op where
  | upsert (request : Request)
  | select (key : Key)

/-- Answers; a failed statement has the text of its `psycopg.Error`. -/
abbrev Ans : Op → Type
  | .upsert _ => Except String (Option (Bool × Reported))
  | .select _ => Except String (Option Reported)

abbrev RepositoryM := Prog Op Ans DatabaseError

abbrev call (o : Op) : RepositoryM (Ans o) := Prog.perform o

def Request.result (request : Request) (row : Reported) (outcome : Outcome) : UnsubscribeResult where
  userId := request.userId
  writerId := request.writerId
  status := row.status
  unsubscribedAt := row.unsubscribedAt
  unsubscribeSource := row.unsubscribeSource
  outcome := outcome

/-- `SubscriptionRepository.unsubscribe`. -/
def unsubscribe (request : Request) : RepositoryM UnsubscribeResult := do
  match ← call (.upsert request) with
  | .error error => throw ⟨error⟩
  | .ok (some (inserted, row)) =>
    return request.result row (if inserted then .created else .updated)
  | .ok none =>
    match ← call (.select request.key) with
    | .error error => throw ⟨error⟩
    | .ok none =>
      throw ⟨"subscription row missing for " ++ request.userId ++ ":" ++ request.writerId⟩
    | .ok (some row) => return request.result row .unchanged

/-- Postgres without failures, in a transaction at time `now`. -/
def postgres (now : Instant) : (o : Op) → Table → Ans o × Table
  | .upsert request, table => ((.ok (upsert now request table).1), (upsert now request table).2)
  | .select key, table => (.ok (select key table), table)

/-- A request and the time of its transaction. -/
structure Call where
  request : Request
  now : Instant
  deriving DecidableEq, Repr

/-- One call on a table. -/
def Call.run (c : Call) (table : Table) : Except DatabaseError UnsubscribeResult × Table :=
  Prog.eval (postgres c.now) (unsubscribe c.request) table

/-- Calls one after another: the table they leave. -/
def tableAfter (calls : List Call) : Table :=
  calls.foldl (fun table c => (c.run table).2) Table.empty

/-- What the call `c` returns when it follows `calls`. -/
def answerAfter (calls : List Call) (c : Call) : Except DatabaseError UnsubscribeResult :=
  (c.run (tableAfter calls)).1

/-! ## One call -/

section

variable {c : Call} {table : Table} {old : Subscription}

/-- A call that inserts. -/
theorem run_insert (h : table c.request.key = none) :
    c.run table = (.ok (c.request.result (c.request.row c.now c.now).reported .created),
      Function.update table c.request.key (some (c.request.row c.now c.now))) := by
  simp only [Call.run, unsubscribe, Prog.bind_eq, Prog.perform, Prog.bind_op, Prog.bind_ok, Prog.eval,
    postgres, upsert, h]
  rfl

/-- A call that replaces the row. -/
theorem run_replace (h : table c.request.key = some old) (replaces : c.request.Replaces old) :
    c.run table = (.ok (c.request.result (c.request.row old.createdAt c.now).reported .updated),
      Function.update table c.request.key (some (c.request.row old.createdAt c.now))) := by
  simp only [Call.run, unsubscribe, Prog.bind_eq, Prog.perform, Prog.bind_op, Prog.bind_ok, Prog.eval,
    postgres, upsert, h, if_pos replaces]
  rfl

/-- A call that changes nothing. -/
theorem run_keep (h : table c.request.key = some old) (keeps : ¬ c.request.Replaces old) :
    c.run table = (.ok (c.request.result old.reported .unchanged), table) := by
  simp only [Call.run, unsubscribe, Prog.bind_eq, Prog.perform, Prog.bind_op, Prog.bind_ok, Prog.eval,
    postgres, upsert, h, if_neg keeps, select]
  rfl

/-- A call touches only the row of its own pair. -/
theorem run_other {key : Key} (other : key ≠ c.request.key) : (c.run table).2 key = table key := by
  cases h : table c.request.key with
  | none => rw [run_insert h]; exact Function.update_of_ne other _ _
  | some old =>
    by_cases replaces : c.request.Replaces old
    · rw [run_replace h replaces]; exact Function.update_of_ne other _ _
    · rw [run_keep h replaces]

end

@[simp] theorem tableAfter_concat (calls : List Call) (c : Call) :
    tableAfter (calls ++ [c]) = (c.run (tableAfter calls)).2 := by
  simp [tableAfter]

end Tikblog.Unsubscribeme
