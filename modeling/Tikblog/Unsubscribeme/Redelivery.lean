import Tikblog.Unsubscribeme.Convergence

/-!
# Redelivered requests

A request that the table has already seen is not earlier than the first minimum of its
pair, so it replaces nothing (`run_known`). Any replay of seen requests is then invisible:
in another order, with repetitions, and with ties between different requests of one pair.
-/

namespace Tikblog.Unsubscribeme

/-- The same request was made by one of the calls, at whatever time. -/
def Known (calls : List Call) (c : Call) : Prop := ∃ d ∈ calls, d.request = c.request

theorem Known.mem {calls : List Call} {c : Call} (known : Known calls c) :
    c.request ∈ requestsFor c.request.key calls := by
  obtain ⟨d, member, same⟩ := known
  rw [mem_requestsFor]
  exact ⟨List.mem_map.2 ⟨d, member, same⟩, rfl⟩

/-- A known request finds the row of its pair and keeps it. -/
theorem run_known {calls : List Call} {c : Call} (known : Known calls c) :
    ∃ row, tableAfter calls c.request.key = some row ∧
      c.run (tableAfter calls) =
        (.ok (c.request.result row.reported .unchanged), tableAfter calls) := by
  have tracks := tableAfter_row calls c.request.key
  cases found : tableAfter calls c.request.key with
  | none =>
    rw [found] at tracks
    have member := known.mem
    rw [tracks.none_iff.1 rfl] at member
    cases member
  | some row =>
    rw [found] at tracks
    refine ⟨row, rfl, run_keep found ?_⟩
    intro replaces
    exact lt_irrefl _ ((tracks.replaces_iff _).1 replaces _ known.mem)

theorem tableAfter_append_known (calls redelivered : List Call)
    (known : ∀ c ∈ redelivered, Known calls c) :
    tableAfter (calls ++ redelivered) = tableAfter calls := by
  induction redelivered using List.reverseRecOn with
  | nil => rw [List.append_nil]
  | append_singleton redelivered c ih =>
    have before := ih fun d member => known d (List.mem_append_left _ member)
    obtain ⟨row, -, unchanged⟩ := run_known (known c (by simp))
    rw [← List.append_assoc, tableAfter_concat, before, unchanged]

/-- **Redelivery is invisible.** After the calls of any sequence, calls that repeat its
requests, in any order and any number of times, are each answered `unchanged` with the row
that was there, and leave the whole table as it was. -/
theorem redelivery_invisible (calls redelivered : List Call)
    (known : ∀ c ∈ redelivered, ∃ d ∈ calls, d.request = c.request) :
    tableAfter (calls ++ redelivered) = tableAfter calls ∧
    ∀ before c after, redelivered = before ++ c :: after →
      ∃ row, tableAfter calls c.request.key = some row ∧
        answerAfter (calls ++ before) c = .ok (c.request.result row.reported .unchanged) := by
  refine ⟨tableAfter_append_known calls redelivered known, ?_⟩
  intro before c after split
  subst split
  have same := tableAfter_append_known calls before fun d member =>
    known d (List.mem_append_left _ member)
  obtain ⟨row, found, unchanged⟩ := run_known (known c (by simp))
  exact ⟨row, found, by rw [answerAfter, same, unchanged]⟩

/-- The two requests of one millisecond, replayed in the other order. -/
theorem redelivery_invisible_tie :
    tableAfter ([⟨uiRequest, 0⟩, ⟨legalRequest, 1⟩] ++
        [⟨legalRequest, 5⟩, ⟨uiRequest, 6⟩, ⟨legalRequest, 7⟩]) =
      tableAfter [⟨uiRequest, 0⟩, ⟨legalRequest, 1⟩] ∧
    ∃ row, tableAfter [⟨uiRequest, 0⟩, ⟨legalRequest, 1⟩] legalRequest.key = some row ∧
      answerAfter ([⟨uiRequest, 0⟩, ⟨legalRequest, 1⟩] ++ []) ⟨legalRequest, 5⟩ =
        .ok (legalRequest.result row.reported .unchanged) := by
  have replayed := redelivery_invisible [⟨uiRequest, 0⟩, ⟨legalRequest, 1⟩]
    [⟨legalRequest, 5⟩, ⟨uiRequest, 6⟩, ⟨legalRequest, 7⟩] (by decide)
  exact ⟨replayed.1, replayed.2 [] _ _ rfl⟩

end Tikblog.Unsubscribeme
