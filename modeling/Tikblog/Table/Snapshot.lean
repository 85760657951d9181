import Mathlib.Order.Lattice
import Mathlib.Order.Defs.LinearOrder
import Mathlib.Data.List.Nodup

/-!
# Aggregates of a growing table

A table only grows at its end, each row with a time, and a second table holds per group
the aggregate of the rows that were there when it was computed, with the time of that.
A group is `Pending` when a row of it is later than its aggregate, or when it has no
aggregate; it is `Current` when its aggregate is the one the table has now.

`TakenFrom` is the invariant that makes the first a test for the second: everything the
aggregate has seen is no later than it, and everything it has not seen is later.
-/

namespace Tikblog.Table

/-- How the rows `ρ` of the table and the rows `ν` of aggregates are read. -/
structure Snapshots (ρ ν κ τ β : Type) where
  key : ρ → κ
  time : ρ → τ
  aggregate : List ρ → β
  group : ν → κ
  stamp : ν → τ
  value : ν → β

namespace Snapshots

variable {ρ ν κ τ β : Type} [DecidableEq κ] (S : Snapshots ρ ν κ τ β)

/-- The rows of one group. -/
def rowsOf (log : List ρ) (k : κ) : List ρ := log.filter fun r => S.key r = k

theorem rowsOf_append {S : Snapshots ρ ν κ τ β} (old new : List ρ) (k : κ) :
    S.rowsOf (old ++ new) k = S.rowsOf old k ++ S.rowsOf new k :=
  List.filter_append ..

theorem mem_rowsOf {S : Snapshots ρ ν κ τ β} {log : List ρ} {k : κ} {r : ρ} :
    r ∈ S.rowsOf log k ↔ r ∈ log ∧ S.key r = k := by
  simp [rowsOf]

variable [LinearOrder τ]

/-- `v` is the aggregate of its group in an earlier state of the table, and its stamp
separates that state from what came later. -/
def TakenFrom (log : List ρ) (v : ν) : Prop :=
  ∃ old new, log = old ++ new ∧ (∀ r ∈ old, S.time r ≤ S.stamp v) ∧ (∀ r ∈ new, S.stamp v < S.time r) ∧
    S.value v = S.aggregate (S.rowsOf old (S.group v))

/-- Some row of the group has no aggregate, or a later time than it. -/
def Pending (log : List ρ) (view : List ν) (k : κ) : Prop :=
  ∃ r ∈ log, S.key r = k ∧ ((∀ v ∈ view, S.group v ≠ k) ∨ ∃ v ∈ view, S.group v = k ∧ S.stamp v < S.time r)

/-- The group has an aggregate, and it is that of the table as it is. -/
def Current (log : List ρ) (view : List ν) (k : κ) : Prop :=
  ∃ v ∈ view, S.group v = k ∧ S.value v = S.aggregate (S.rowsOf log k)

variable {S}

/-- Rows later than the stamp leave the invariant as it is. -/
theorem TakenFrom.append {log added : List ρ} {v : ν} (h : S.TakenFrom log v)
    (later : ∀ r ∈ added, S.stamp v < S.time r) : S.TakenFrom (log ++ added) v := by
  obtain ⟨old, new, rfl, before, after, value⟩ := h
  refine ⟨old, new ++ added, by rw [List.append_assoc], before, ?_, value⟩
  intro r hr
  rcases List.mem_append.1 hr with hr | hr
  · exact after r hr
  · exact later r hr

/-- An aggregate of the whole table, stamped no earlier than any row. -/
theorem TakenFrom.now {log : List ρ} {v : ν} (stamped : ∀ r ∈ log, S.time r ≤ S.stamp v)
    (value : S.value v = S.aggregate (S.rowsOf log (S.group v))) : S.TakenFrom log v := by
  refine ⟨log, [], (List.append_nil log).symm, stamped, ?_, value⟩
  intro r hr
  cases hr

/-- **The stamp test.** With one aggregate per group at most, each taken from the table,
and an aggregate that every further row changes, a group is pending exactly when it is not
current. -/
theorem pending_iff_not_current {log : List ρ} {view : List ν} {k : κ}
    (grows : ∀ xs ys, ys ≠ [] → S.aggregate (xs ++ ys) ≠ S.aggregate xs)
    (unique : (view.map S.group).Nodup) (taken : ∀ v ∈ view, S.TakenFrom log v)
    (present : ∃ r ∈ log, S.key r = k) : S.Pending log view k ↔ ¬ S.Current log view k := by
  -- For an aggregate of the group: the rows it misses are the later ones.
  have test : ∀ v ∈ view, S.group v = k →
      ((∃ r ∈ log, S.key r = k ∧ S.stamp v < S.time r) ↔ S.value v ≠ S.aggregate (S.rowsOf log k)) := by
    intro v hv hk
    obtain ⟨old, new, rfl, before, after, value⟩ := taken v hv
    rw [value, hk, rowsOf_append]
    constructor
    · rintro ⟨r, hr, hrk, late⟩
      have missed : r ∈ new := by
        rcases List.mem_append.1 hr with hr | hr
        · exact absurd late (not_lt.2 (before r hr))
        · exact hr
      have some_row : S.rowsOf new k ≠ [] := List.ne_nil_of_mem (mem_rowsOf.2 ⟨missed, hrk⟩)
      exact (grows _ _ some_row).symm
    · intro differs
      have some_row : S.rowsOf new k ≠ [] := by
        intro none_missed
        exact differs (by rw [none_missed, List.append_nil])
      obtain ⟨r, hr⟩ := List.exists_mem_of_ne_nil _ some_row
      obtain ⟨hr, hrk⟩ := mem_rowsOf.1 hr
      exact ⟨r, List.mem_append_right _ hr, hrk, after r hr⟩
  constructor
  · rintro ⟨r, hr, hrk, missing | ⟨v, hv, hvk, late⟩⟩ ⟨w, hw, hwk, current⟩
    · exact missing w hw hwk
    · have same : v = w := List.inj_on_of_nodup_map unique hv hw (hvk.trans hwk.symm)
      subst same
      exact (test v hv hvk).1 ⟨r, hr, hrk, late⟩ current
  · intro stale
    by_cases missing : ∀ v ∈ view, S.group v ≠ k
    · obtain ⟨r, hr, hrk⟩ := present
      exact ⟨r, hr, hrk, Or.inl missing⟩
    · push Not at missing
      obtain ⟨v, hv, hvk⟩ := missing
      have differs : S.value v ≠ S.aggregate (S.rowsOf log k) := fun h => stale ⟨v, hv, hvk, h⟩
      obtain ⟨r, hr, hrk, late⟩ := (test v hv hvk).2 differs
      exact ⟨r, hr, hrk, Or.inr ⟨v, hv, hvk, late⟩⟩

end Snapshots

end Tikblog.Table
