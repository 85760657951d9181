import Mathlib.Data.Finset.Insert
import Mathlib.Data.Finset.Dedup
import Tikblog.Sequence.FirstMinimum
import Tikblog.Unsubscribeme.Db

/-!
# What a sequence of requests leaves in the table

For each pair, the table keeps the first minimum of the requests that named it
(`tableAfter_row`): the upsert replaces a row only by a strictly earlier request. From
this follow the row, the answers, and how far the order of requests matters: two orders of
the same requests leave the same rows unless two different requests of one pair are both
earliest, and then they may differ.
-/

namespace Tikblog.Unsubscribeme

open Sequence Python Contracts

/-- The columns that say who unsubscribed, when, and by which event. -/
structure Content where
  status : Status
  unsubscribedAt : Option Instant
  unsubscribeSource : Option UnsubscribeSource
  unsubscribeEventId : Option String
  deriving DecidableEq, Repr

def Subscription.content (row : Subscription) : Content :=
  ⟨row.status, row.unsubscribedAt, row.unsubscribeSource, row.unsubscribeEventId⟩

/-- The row content that comes from one request alone. -/
def Request.content (request : Request) : Content :=
  ⟨.unsubscribed, some request.requestedAt, some request.source, some request.eventId⟩

/-- The requests for one pair, in the order they were made. -/
def requestsFor (key : Key) (calls : List Call) : List Request :=
  (calls.map Call.request).filter fun r => r.key = key

theorem mem_requestsFor {key : Key} {calls : List Call} {r : Request} :
    r ∈ requestsFor key calls ↔ r ∈ calls.map Call.request ∧ r.key = key := by
  simp [requestsFor]

theorem requestsFor_concat_self (calls : List Call) (c : Call) :
    requestsFor c.request.key (calls ++ [c]) = requestsFor c.request.key calls ++ [c.request] := by
  simp [requestsFor]

theorem requestsFor_concat_other {key : Key} (calls : List Call) {c : Call} (other : key ≠ c.request.key) :
    requestsFor key (calls ++ [c]) = requestsFor key calls := by
  simp [requestsFor, Ne.symm other]

/-! ## The table refines the first minimum -/

/-- The row of a pair is the content of the first earliest request, if there is any. -/
def Tracks (row : Option Subscription) (requests : List Request) : Prop :=
  row.map Subscription.content = (requests.argmin Request.requestedAt).map Request.content

section

variable {row : Option Subscription} {old : Subscription} {requests : List Request} {c : Call}

theorem Tracks.none_iff (h : Tracks row requests) : row = none ↔ requests = [] := by
  rw [← List.argmin_eq_none (f := Request.requestedAt), ← Option.map_eq_none_iff (f := Subscription.content),
    h, Option.map_eq_none_iff]

theorem Tracks.first (h : Tracks (some old) requests) :
    ∃ first, requests.argmin Request.requestedAt = some first ∧ old.content = first.content := by
  obtain ⟨first, found, same⟩ := Option.map_eq_some_iff.1 h.symm
  exact ⟨first, found, same.symm⟩

/-- A request replaces the row exactly when it is earlier than all before it. -/
theorem Tracks.replaces_iff (h : Tracks (some old) requests) (r : Request) :
    r.Replaces old ↔ ∀ q ∈ requests, r.requestedAt < q.requestedAt := by
  obtain ⟨first, found, same⟩ := h.first
  have time : old.unsubscribedAt = some first.requestedAt := congrArg Content.unsubscribedAt same
  rw [Request.Replaces, time]
  constructor
  · intro earlier q hq
    exact (earlier _ rfl).trans_le (List.le_of_mem_argmin hq found)
  · intro earlier t ht
    cases ht
    exact earlier first (List.argmin_mem found)

/-- One more call keeps the row on track. -/
theorem Tracks.run {table : Table} (h : Tracks (table c.request.key) requests) :
    Tracks ((c.run table).2 c.request.key) (requests ++ [c.request]) := by
  rw [Tracks, argmin_concat_eq]
  cases found : table c.request.key with
  | none =>
    simp only [run_insert found, Function.update_self]
    rw [if_pos (by simp [h.none_iff.1 found])]
    rfl
  | some old =>
    rw [found] at h
    by_cases replaces : c.request.Replaces old
    · simp only [run_replace found replaces, Function.update_self]
      rw [if_pos ((h.replaces_iff _).1 replaces)]
      rfl
    · simp only [run_keep found replaces, found]
      rw [if_neg fun earlier => replaces ((h.replaces_iff _).2 earlier)]
      exact h

end

/-- **Refinement.** After any calls, each row is the first minimum of the requests for its
pair. -/
theorem tableAfter_row (calls : List Call) (key : Key) :
    Tracks (tableAfter calls key) (requestsFor key calls) := by
  induction calls using List.reverseRecOn with
  | nil => rfl
  | append_singleton calls c ih =>
    rw [tableAfter_concat]
    by_cases same : key = c.request.key
    · subst same
      rw [requestsFor_concat_self]
      exact ih.run
    · rw [run_other same, requestsFor_concat_other _ same]
      exact ih

/-- What a request should be answered after `before`, the earlier requests for its pair. -/
def expectedOutcome (before : List Request) (r : Request) : Outcome :=
  if before = [] then .created
  else if ∀ q ∈ before, r.requestedAt < q.requestedAt then .updated
  else .unchanged

theorem answerAfter_outcome (calls : List Call) (c : Call) :
    ∃ result, answerAfter calls c = .ok result ∧
      result.outcome = expectedOutcome (requestsFor c.request.key calls) c.request := by
  have tracks := tableAfter_row calls c.request.key
  rw [answerAfter, expectedOutcome]
  cases found : tableAfter calls c.request.key with
  | none =>
    rw [run_insert found, if_pos (tracks.none_iff.1 found)]
    exact ⟨_, rfl, rfl⟩
  | some old =>
    rw [if_neg fun empty => by simp [tracks.none_iff.2 empty] at found]
    rw [found] at tracks
    by_cases replaces : c.request.Replaces old
    · rw [run_replace found replaces, if_pos ((tracks.replaces_iff _).1 replaces)]
      exact ⟨_, rfl, rfl⟩
    · rw [run_keep found replaces, if_neg fun earlier => replaces ((tracks.replaces_iff _).2 earlier)]
      exact ⟨_, rfl, rfl⟩

/-- **The earliest request wins.** After any calls: a pair has a row exactly if some request
named it; the row is unsubscribed, with the time, source and event id of the first request
that attains the minimum of `requestedAt` for the pair; and each call was answered according
to the requests of its pair before it. -/
theorem earliest_request_wins (calls : List Call) (key : Key) :
    ((tableAfter calls key).isSome ↔ ∃ c ∈ calls, c.request.key = key) ∧
    (∀ row, tableAfter calls key = some row → row.status = .unsubscribed ∧
      ∃ first, IsFirstMin Request.requestedAt (requestsFor key calls) first ∧
        row.unsubscribedAt = some first.requestedAt ∧ row.unsubscribeSource = some first.source ∧
        row.unsubscribeEventId = some first.eventId) ∧
    ∀ before c after, calls = before ++ c :: after →
      ∃ result, answerAfter before c = .ok result ∧
        result.outcome = expectedOutcome (requestsFor c.request.key before) c.request := by
  have tracks := tableAfter_row calls key
  refine ⟨?_, ?_, fun before c _ _ => answerAfter_outcome before c⟩
  · rw [Option.isSome_iff_ne_none, ne_eq, tracks.none_iff, List.eq_nil_iff_forall_not_mem]
    simp [mem_requestsFor]
  · intro row found
    rw [found] at tracks
    obtain ⟨first, least, same⟩ := tracks.first
    exact ⟨congrArg Content.status same, first, isFirstMin_of_argmin least,
      congrArg Content.unsubscribedAt same, congrArg Content.unsubscribeSource same,
      congrArg Content.unsubscribeEventId same⟩

/-! ## The order of requests -/

/-- The calls deliver each request of the set at least once, and no other. -/
def Delivers (requests : Finset Request) (calls : List Call) : Prop :=
  ∀ r, r ∈ calls.map Call.request ↔ r ∈ requests

/-- The same pairs with the same row contents. -/
def SameRows (table table' : Table) : Prop :=
  ∀ key, (table key).map Subscription.content = (table' key).map Subscription.content

/-- No request for the pair of `r` is earlier than `r`. -/
def Earliest (requests : Finset Request) (r : Request) : Prop :=
  ∀ q ∈ requests, q.key = r.key → r.requestedAt ≤ q.requestedAt

/-- Each pair has at most one earliest request. -/
def NoTies (requests : Finset Request) : Prop :=
  ∀ r ∈ requests, ∀ q ∈ requests, r.key = q.key → Earliest requests r → Earliest requests q → r = q

theorem sameRows_of_noTies {requests : Finset Request} {calls calls' : List Call}
    (noTies : NoTies requests) (h : Delivers requests calls) (h' : Delivers requests calls') :
    SameRows (tableAfter calls) (tableAfter calls') := by
  intro key
  rw [tableAfter_row calls key, tableAfter_row calls' key]
  congr 1
  have mem : ∀ r, r ∈ requestsFor key calls ↔ r ∈ requests ∧ r.key = key := fun r => by
    rw [mem_requestsFor, h]
  apply argmin_congr (fun r => by rw [mem, mem_requestsFor, h'])
  intro r hr q hq least_r least_q
  obtain ⟨member_r, rfl⟩ := (mem r).1 hr
  obtain ⟨member_q, same⟩ := (mem q).1 hq
  apply noTies r member_r q member_q same.symm
  · exact fun p hp keys => least_r p ((mem p).2 ⟨hp, keys⟩)
  · exact fun p hp keys => least_q p ((mem p).2 ⟨hp, keys.trans same⟩)

/-- Deliver `r` first, then the whole set. -/
noncomputable def deliverFirst (r : Request) (requests : Finset Request) : List Call :=
  (r :: requests.toList).map fun q => ⟨q, 0⟩

theorem delivers_deliverFirst {r : Request} {requests : Finset Request} (h : r ∈ requests) :
    Delivers requests (deliverFirst r requests) := by
  intro q
  simp only [deliverFirst, List.map_map, List.mem_map, List.mem_cons, Finset.mem_toList,
    Function.comp_apply, exists_eq_right]
  exact ⟨fun hq => hq.elim (· ▸ h) id, .inr⟩

/-- The first of several earliest requests gives the row. -/
theorem tableAfter_deliverFirst {r : Request} {requests : Finset Request}
    (earliest : Earliest requests r) :
    (tableAfter (deliverFirst r requests) r.key).map Subscription.content = some r.content := by
  rw [tableAfter_row]
  have head : requestsFor r.key (deliverFirst r requests) =
      r :: requests.toList.filter fun q => q.key = r.key := by
    simp [requestsFor, deliverFirst, Function.comp_def]
  rw [head, argmin_cons_of_least]
  · rfl
  · simpa [Earliest] using earliest

/-- **When the order does not matter.** All deliveries of a set of requests with distinct
event ids, in any order and with any repetitions, leave the same rows if and only if no pair
has two earliest requests. -/
theorem replay_order_irrelevant_iff (requests : Finset Request)
    (distinct : Set.InjOn Request.eventId (requests : Set Request)) :
    (∀ calls calls', Delivers requests calls → Delivers requests calls' →
      SameRows (tableAfter calls) (tableAfter calls')) ↔ NoTies requests := by
  constructor
  · intro same r hr q hq keys earliest_r earliest_q
    have rows := same _ _ (delivers_deliverFirst hr) (delivers_deliverFirst hq) r.key
    rw [tableAfter_deliverFirst earliest_r, keys, tableAfter_deliverFirst earliest_q] at rows
    have ids := congrArg Content.unsubscribeEventId (Option.some.inj rows)
    exact distinct hr hq (Option.some.inj ids)
  · exact fun noTies calls calls' h h' => sameRows_of_noTies noTies h h'

/-- A request of the reader's own and one from a Legal file, in the same millisecond. -/
def uiRequest : Request := ⟨"e-1", "reader-1", "writer-1", .ui, 1000⟩

def legalRequest : Request := ⟨"e-2", "reader-1", "writer-1", .legal, 1000⟩

/-- The pair again, a second later. -/
def laterRequest : Request := ⟨"e-3", "reader-1", "writer-1", .legal, 2000⟩

/-- Two times in two orders, the later one delivered twice. -/
theorem replay_order_irrelevant_two :
    SameRows (tableAfter [⟨uiRequest, 0⟩, ⟨laterRequest, 1⟩])
      (tableAfter [⟨laterRequest, 0⟩, ⟨uiRequest, 1⟩, ⟨laterRequest, 2⟩]) := by
  have distinct : Set.InjOn Request.eventId (({uiRequest, laterRequest} : Finset Request) : Set Request) := by
    simp [Set.InjOn, uiRequest, laterRequest]
  have noTies : NoTies {uiRequest, laterRequest} := by
    simp [NoTies, Earliest, uiRequest, laterRequest, Request.key]
  exact (replay_order_irrelevant_iff {uiRequest, laterRequest} distinct).2 noTies _ _
    (by simp [Delivers]) (by simp [Delivers, or_comm])

/-- **Equal timestamps are not converged.** Two requests for one pair made at the same time
leave different rows in the two orders. -/
theorem replay_order_matters :
    Delivers {uiRequest, legalRequest} [⟨uiRequest, 0⟩, ⟨legalRequest, 1⟩] ∧
    Delivers {uiRequest, legalRequest} [⟨legalRequest, 0⟩, ⟨uiRequest, 1⟩] ∧
    ¬ SameRows (tableAfter [⟨uiRequest, 0⟩, ⟨legalRequest, 1⟩])
      (tableAfter [⟨legalRequest, 0⟩, ⟨uiRequest, 1⟩]) := by
  refine ⟨by simp [Delivers, or_comm], by simp [Delivers, or_comm], fun same => ?_⟩
  exact absurd (same ("reader-1", "writer-1")) (by decide)

end Tikblog.Unsubscribeme
