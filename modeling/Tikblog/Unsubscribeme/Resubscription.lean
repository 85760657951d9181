import Tikblog.Unsubscribeme.Db

/-!
# What a successful answer means

A call on any table that the migration admits, where every statement may also fail. The
rows need not be those this service writes: resubscription, by another service, may leave a
row SUBSCRIBED with the time of the unsubscribe before it.

A successful answer should mean that the pair is unsubscribed (`Effective`). The conditional
update leaves a SUBSCRIBED row with an earlier time as it is, so that it does exactly when
there is none (`unsubscribe_effective_iff`).
-/

namespace Tikblog.Unsubscribeme

open Python Contracts Program

/-- A statement that failed with the text of its `psycopg.Error`. -/
def failed (error : String) : (o : Op) → Ans o
  | .upsert _ => .error error
  | .select _ => .error error

/-- A statement does its work or fails, the transaction being rolled back. -/
def Transacted (now : Instant) : Exec Op Ans Table := fun o table answer after =>
  (answer, after) = postgres now o table ∨ after = table ∧ ∃ error, answer = failed error o

/-- The pair is unsubscribed, the result says so, and nothing else has changed. -/
structure Effective (request : Request) (table after : Table) (result : UnsubscribeResult) : Prop where
  row : ∃ row outcome, after request.key = some row ∧ row.status = .unsubscribed ∧
    row.unsubscribedAt ≠ none ∧ result = request.result row.reported outcome
  others : ∀ key ≠ request.key, after key = table key

/-- Whatever a call returns is effective. -/
abbrev EffectiveCall (now : Instant) (request : Request) (table : Table) : Prop :=
  Prog.Always (Transacted now) (fun _ _ => True)
    (fun r after => ∀ result, r = .ok result → Effective request table after result)
    (unsubscribe request) table

section

variable {now : Instant} {request : Request} {table : Table} {old : Subscription}

/-- A call does what it does without failures, or raises and leaves the table as it was. -/
theorem unsubscribe_cases (now : Instant) (request : Request) (table : Table) :
    Prog.Always (Transacted now) (fun _ _ => True)
      (fun r after => (r, after) = (Call.mk request now).run table ∨
        after = table ∧ ∃ error, r = .error error)
      (unsubscribe request) table := by
  refine ⟨trivial, fun answer after upserted => ?_⟩
  obtain worked | ⟨rfl, error, rfl⟩ := upserted
  case inr => exact .inr ⟨rfl, _, rfl⟩
  simp only [postgres, Prod.mk.injEq] at worked
  obtain ⟨rfl, rfl⟩ := worked
  cases row : table request.key with
  | none =>
    rw [run_insert (c := ⟨request, now⟩) row]
    simp only [upsert, row]
    exact .inl rfl
  | some old =>
    by_cases replaces : request.Replaces old
    · rw [run_replace (c := ⟨request, now⟩) row replaces]
      simp only [upsert, row, if_pos replaces]
      exact .inl rfl
    · rw [run_keep (c := ⟨request, now⟩) row replaces]
      simp only [upsert, row, if_neg replaces]
      refine ⟨trivial, fun answer after selected => ?_⟩
      obtain worked | ⟨rfl, error, rfl⟩ := selected
      case inr => exact .inr ⟨rfl, _, rfl⟩
      simp only [postgres, Prod.mk.injEq] at worked
      obtain ⟨rfl, rfl⟩ := worked
      rw [select, row]
      exact .inl rfl

/-- The row an upsert writes is what was asked for. -/
theorem Effective.of_row (createdAt updatedAt : Instant) (outcome : Outcome) :
    Effective request table
      (Function.update table request.key (some (request.row createdAt updatedAt)))
      (request.result (request.row createdAt updatedAt).reported outcome) where
  row := ⟨request.row createdAt updatedAt, outcome, Function.update_self .., rfl, Option.some_ne_none _,
    rfl⟩
  others _ other := Function.update_of_ne other ..

/-- A call without failures, over any row that it replaces or that is unsubscribed. -/
theorem run_effective {result : UnsubscribeResult} {after : Table}
    (admits : ∀ old, table request.key = some old → old.status = .subscribed → request.Replaces old)
    (run : (Call.mk request now).run table = (.ok result, after)) :
    Effective request table after result := by
  cases row : table request.key with
  | none =>
    rw [run_insert (c := ⟨request, now⟩) row] at run
    cases run
    exact .of_row ..
  | some old =>
    by_cases replaces : request.Replaces old
    · rw [run_replace (c := ⟨request, now⟩) row replaces] at run
      cases run
      exact .of_row ..
    · rw [run_keep (c := ⟨request, now⟩) row replaces] at run
      cases run
      have unsubscribed : old.status = .unsubscribed := by
        cases status : old.status with
        | unsubscribed => rfl
        | subscribed => exact absurd (admits old row status) replaces
      exact ⟨⟨old, .unchanged, row, unsubscribed, old.hasTimestamp unsubscribed, rfl⟩, fun _ _ => rfl⟩

/-- A row that is not replaced is left as it is, and answered with. -/
theorem status_of_effective (effective : EffectiveCall now request table)
    (row : table request.key = some old) (keeps : ¬ request.Replaces old) : old.status = .unsubscribed := by
  have run : Prog.Run (Transacted now) (unsubscribe request, table)
      (.done ((Call.mk request now).run table).1, ((Call.mk request now).run table).2) :=
    Prog.run_eval (h := postgres now) (fun o table => .inl rfl) (unsubscribe request) table
  rw [run_keep (c := ⟨request, now⟩) row keeps] at run
  obtain ⟨⟨kept, outcome, here, unsubscribed, -, -⟩, -⟩ := effective.post_of_run run _ rfl
  have same : old = kept := Option.some_inj.1 (row.symm.trans here)
  rw [same, unsubscribed]

end

/-- **When success means unsubscribed.** On every table and for every request, what a call
returns is effective exactly when the pair has no SUBSCRIBED row whose `unsubscribed_at` is
the time of the request or before it. -/
theorem unsubscribe_effective_iff (now : Instant) (request : Request) (table : Table) :
    EffectiveCall now request table ↔
      ∀ old, table request.key = some old → old.status = .subscribed → request.Replaces old := by
  constructor
  · intro effective old row subscribed
    by_contra keeps
    rw [status_of_effective effective row keeps] at subscribed
    cases subscribed
  · intro admits
    refine (unsubscribe_cases now request table).mono (fun _ _ guard => guard) ?_
    rintro r after (run | ⟨-, error, rfl⟩) result returned
    · rw [returned] at run
      exact run_effective admits run.symm
    · cases returned

/-- A subscription taken up again: the unsubscribe at 5 is over. -/
def resubscribed : Subscription where
  status := .subscribed
  unsubscribedAt := some 5
  unsubscribeSource := none
  unsubscribeEventId := none
  createdAt := 0
  updatedAt := 7
  hasTimestamp status := nomatch status

/-- The reader unsubscribes again at 9: the answer is a success, and the row stays SUBSCRIBED. -/
theorem unsubscribe_resubscribed :
    ¬ EffectiveCall 10 ⟨"event", "user", "writer", .ui, 9⟩ (fun _ => some resubscribed) := by
  intro effective
  have status := status_of_effective effective rfl (by decide)
  cases status

end Tikblog.Unsubscribeme
