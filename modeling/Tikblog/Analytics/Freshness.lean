import Mathlib.Order.WithBot
import Tikblog.Table.Snapshot
import Tikblog.Analytics.Silver

/-!
# Stale Gold is always detected

Silver is a table that grows, and a Gold row is an aggregate of it at the time it carries
(`goldOf`). Sections do not overlap and the clock moves on between them, so a row that a
Gold row has not seen carries a later time than the Gold row; with `pending_iff_not_current`
the stamp test of `touched` and `freshness` finds exactly the groups whose counts are wrong.
-/

namespace Tikblog.Analytics

open Python Program

def GoldRow.counts (g : GoldRow) : Nat × Nat × Nat := (g.unsubscribeCount, g.uniqueReaders, g.uniqueWriters)

/-- Gold as aggregates of Silver. A null time is earlier than any other. -/
def goldOf : Table.Snapshots Row GoldRow Pair (WithBot Instant) (Nat × Nat × Nat) where
  key := pairOf
  time row :=
    match row.timestamp .silverProcessedAt with
    | some t => (t : WithBot Instant)
    | none => ⊥
  aggregate := countsOf
  group := GoldRow.pair
  stamp g := (g.goldUpdatedAt : WithBot Instant)
  value := GoldRow.counts

/-- No Gold row for the pair, or a Silver row of it that is later than its Gold row. -/
abbrev Pending (s : World) (p : Pair) : Prop := goldOf.Pending s.silver.rows s.gold p

/-- The Silver rows of a pair. -/
abbrev rowsOf (silver : List Row) (p : Pair) : List Row := silver.filter fun row => pairOf row = p

/-- What Gold has for a pair. -/
def countsAt (gold : List GoldRow) (p : Pair) : List (Nat × Nat × Nat) :=
  (gold.filter fun g => g.pair = p).map GoldRow.counts

/-- What Gold should have for a pair: one row if there are events, none otherwise. -/
def aggregateAt (silver : List Row) (p : Pair) : List (Nat × Nat × Nat) :=
  if (rowsOf silver p).isEmpty then [] else [countsOf (rowsOf silver p)]

/-! ## The queries -/

theorem outdated_some {time : Option Instant} {g : GoldRow} :
    outdated time (some g) = true ↔ ∃ t, time = some t ∧ g.goldUpdatedAt < t := by
  unfold outdated
  cases time with
  | none => simp
  | some t => simp

/-- The latest of a group is late when any of it is. -/
theorem outdated_max {times : List Instant} {g : GoldRow} :
    outdated times.max? (some g) = true ↔ ∃ t ∈ times, g.goldUpdatedAt < t := by
  rw [outdated_some]
  constructor
  · rintro ⟨t, latest, late⟩
    exact ⟨t, List.max?_mem latest, late⟩
  · rintro ⟨t, ht, late⟩
    obtain ⟨m, latest⟩ : ∃ m, times.max? = some m := by
      cases h : times.max? with
      | none =>
        rw [List.max?_eq_none_iff.1 h] at ht
        cases ht
      | some m => exact ⟨m, rfl⟩
    have above : t ≤ m := (List.max?_eq_some_iff.1 latest).2 t ht
    exact ⟨m, latest, lt_of_lt_of_le late above⟩

theorem time_late {row : Row} {g : GoldRow} :
    goldOf.stamp g < goldOf.time row ↔
      ∃ t, row.timestamp .silverProcessedAt = some t ∧ g.goldUpdatedAt < t := by
  unfold goldOf
  dsimp only
  cases row.timestamp .silverProcessedAt with
  | none => simp
  | some t => simp

theorem mem_outdatedIn {α : Type} {left : List α} {gold : List GoldRow} {pair : α → Pair}
    {time : α → Option Instant} {a : α} :
    a ∈ outdatedIn left gold pair time ↔ a ∈ left ∧ ((∀ g ∈ gold, ¬ Joins (pair a) g.pair) ∨
      ∃ g ∈ gold, Joins (pair a) g.pair ∧ outdated (time a) (some g) = true) := by
  unfold outdatedIn
  constructor
  · intro h
    obtain ⟨⟨b, o⟩, hr, rfl⟩ := List.mem_map.1 h
    obtain ⟨joined, late⟩ := List.mem_filter.1 hr
    obtain ⟨hb, ⟨rfl, alone⟩ | ⟨g, hg, on, rfl⟩⟩ := Table.mem_leftJoin.1 joined
    · exact ⟨hb, Or.inl fun g hg => of_decide_eq_false (alone g hg)⟩
    · exact ⟨hb, Or.inr ⟨g, hg, of_decide_eq_true on, late⟩⟩
  · rintro ⟨ha, alone | ⟨g, hg, on, late⟩⟩
    · refine List.mem_map.2 ⟨(a, none), List.mem_filter.2 ⟨?_, rfl⟩, rfl⟩
      exact Table.mem_leftJoin.2 ⟨ha, Or.inl ⟨rfl, fun g hg => decide_eq_false (alone g hg)⟩⟩
    · refine List.mem_map.2 ⟨(a, some g), List.mem_filter.2 ⟨?_, late⟩, rfl⟩
      exact Table.mem_leftJoin.2 ⟨ha, Or.inr ⟨g, hg, decide_eq_true on, rfl⟩⟩

theorem mem_pendingRows {silver : List Row} {gold : List GoldRow} {row : Row} :
    row ∈ pendingRows silver gold ↔ row ∈ silver ∧ ((∀ g ∈ gold, ¬ Joins (pairOf row) g.pair) ∨
      ∃ g ∈ gold, Joins (pairOf row) g.pair ∧ goldOf.stamp g < goldOf.time row) := by
  unfold pendingRows
  simp only [mem_outdatedIn, outdated_some, time_late]

theorem mem_latest {silver : List Row} {p : Pair} {time : Option Instant} :
    (p, time) ∈ latest silver ↔ (∃ row ∈ silver, pairOf row = p) ∧
      time = ((rowsOf silver p).filterMap (·.timestamp .silverProcessedAt)).max? := by
  unfold latest
  rw [List.mem_map]
  constructor
  · rintro ⟨q, hq, same⟩
    obtain ⟨rfl, rfl⟩ := Prod.mk.injEq .. ▸ same
    exact ⟨Table.mem_groups.1 hq, rfl⟩
  · rintro ⟨present, rfl⟩
    exact ⟨p, Table.mem_groups.2 present, rfl⟩

theorem mem_pendingGroups {silver : List Row} {gold : List GoldRow} {p : Pair} :
    p ∈ pendingGroups silver gold ↔ (∃ row ∈ silver, pairOf row = p) ∧ ((∀ g ∈ gold, ¬ Joins p g.pair) ∨
      ∃ g ∈ gold, Joins p g.pair ∧ ∃ row ∈ silver, pairOf row = p ∧ goldOf.stamp g < goldOf.time row) := by
  have late (g : GoldRow) :
      outdated ((rowsOf silver p).filterMap (·.timestamp .silverProcessedAt)).max? (some g) = true ↔
        ∃ row ∈ silver, pairOf row = p ∧ goldOf.stamp g < goldOf.time row := by
    rw [outdated_max]
    constructor
    · rintro ⟨t, ht, late⟩
      obtain ⟨row, hrow, time⟩ := List.mem_filterMap.1 ht
      obtain ⟨hrow, pair⟩ := List.mem_filter.1 hrow
      exact ⟨row, hrow, of_decide_eq_true pair, time_late.2 ⟨t, time, late⟩⟩
    · rintro ⟨row, hrow, pair, late⟩
      obtain ⟨t, time, late⟩ := time_late.1 late
      exact ⟨t, List.mem_filterMap.2 ⟨row, List.mem_filter.2 ⟨hrow, decide_eq_true pair⟩, time⟩, late⟩
  unfold pendingGroups
  constructor
  · intro h
    obtain ⟨⟨q, time⟩, left, rfl⟩ := List.mem_map.1 h
    obtain ⟨listed, which⟩ := mem_outdatedIn.1 left
    obtain ⟨present, rfl⟩ := mem_latest.1 listed
    rcases which with alone | ⟨g, hg, on, pending⟩
    · exact ⟨present, Or.inl alone⟩
    · exact ⟨present, Or.inr ⟨g, hg, on, (late g).1 pending⟩⟩
  · rintro ⟨present, which⟩
    refine List.mem_map.2 ⟨(p, _), mem_outdatedIn.2 ⟨mem_latest.2 ⟨present, rfl⟩, ?_⟩, rfl⟩
    rcases which with alone | ⟨g, hg, on, later⟩
    · exact Or.inl alone
    · exact Or.inr ⟨g, hg, on, (late g).2 later⟩

/-! ## The invariant -/

/-- What holds between Silver and Gold at any time. -/
structure GoldInvariant (s : World) : Prop where
  keyed : ∀ row ∈ s.silver.rows, (pairOf row).1 ≠ none ∧ (pairOf row).2 ≠ none
  processed : ∀ row ∈ s.silver.rows, goldOf.time row ≤ (s.clock : WithBot Instant)
  stamped : ∀ g ∈ s.gold, g.goldUpdatedAt ≤ s.clock
  unique : (s.gold.map GoldRow.pair).Nodup
  present : ∀ g ∈ s.gold, ∃ row ∈ s.silver.rows, pairOf row = g.pair
  taken : ∀ g ∈ s.gold, goldOf.TakenFrom s.silver.rows g

/-- With no null in a pair, the join is equality. -/
theorem joins_iff {p q : Pair} (date : p.1 ≠ none) (source : p.2 ≠ none) : Joins p q ↔ q = p := by
  constructor
  · intro h
    exact h.1.symm
  · intro h
    exact ⟨h.symm, date, source⟩

/-- For a pair without null, the left join and the library agree on what is pending. -/
theorem pending_iff_joins {s : World} {p : Pair} (date : p.1 ≠ none) (source : p.2 ≠ none) :
    Pending s p ↔ ∃ row ∈ s.silver.rows, pairOf row = p ∧ ((∀ g ∈ s.gold, ¬ Joins p g.pair) ∨
      ∃ g ∈ s.gold, Joins p g.pair ∧ goldOf.stamp g < goldOf.time row) := by
  simp only [joins_iff date source]
  exact Iff.rfl

theorem GoldInvariant.pendingRows_iff {s : World} (h : GoldInvariant s) (p : Pair) :
    (∃ row ∈ pendingRows s.silver.rows s.gold, pairOf row = p) ↔ Pending s p := by
  constructor
  · rintro ⟨row, pending, rfl⟩
    obtain ⟨hrow, which⟩ := mem_pendingRows.1 pending
    have key := h.keyed row hrow
    exact (pending_iff_joins key.1 key.2).2 ⟨row, hrow, rfl, which⟩
  · intro pending
    obtain ⟨row, hrow, rfl, _⟩ := id pending
    have key := h.keyed row hrow
    obtain ⟨row', hrow', same, which⟩ := (pending_iff_joins key.1 key.2).1 pending
    exact ⟨row', mem_pendingRows.2 ⟨hrow', same ▸ which⟩, same⟩

theorem GoldInvariant.pendingGroups_iff {s : World} (h : GoldInvariant s) (p : Pair) :
    p ∈ pendingGroups s.silver.rows s.gold ↔ Pending s p := by
  rw [mem_pendingGroups]
  constructor
  · rintro ⟨⟨row, hrow, rfl⟩, which⟩
    have key := h.keyed row hrow
    apply (pending_iff_joins key.1 key.2).2
    rcases which with alone | ⟨g, hg, on, row', hrow', same, late⟩
    · exact ⟨row, hrow, rfl, Or.inl alone⟩
    · exact ⟨row', hrow', same, Or.inr ⟨g, hg, on, late⟩⟩
  · intro pending
    obtain ⟨row, hrow, rfl, _⟩ := id pending
    have key := h.keyed row hrow
    obtain ⟨row', hrow', same, which⟩ := (pending_iff_joins key.1 key.2).1 pending
    refine ⟨⟨row, hrow, rfl⟩, ?_⟩
    rcases which with alone | ⟨g, hg, on, late⟩
    · exact Or.inl alone
    · exact Or.inr ⟨g, hg, on, row', hrow', same, late⟩

/-! ## Counts -/

/-- Every further row changes the first count. -/
theorem countsOf_append_ne {xs ys : List Row} (h : ys ≠ []) : countsOf (xs ++ ys) ≠ countsOf xs := by
  intro same
  have lengths : (xs ++ ys).length = xs.length := congrArg Prod.fst same
  rw [List.length_append] at lengths
  have positive := List.length_pos_of_ne_nil h
  omega

/-- Gold agrees with Silver on a pair that Silver has exactly when its row is current. -/
theorem current_iff {s : World} {p : Pair} (unique : (s.gold.map GoldRow.pair).Nodup)
    (present : ∃ row ∈ s.silver.rows, pairOf row = p) :
    goldOf.Current s.silver.rows s.gold p ↔ countsAt s.gold p = aggregateAt s.silver.rows p := by
  have some_rows : (rowsOf s.silver.rows p).isEmpty = false := by
    obtain ⟨row, hrow, pair⟩ := present
    have member : row ∈ rowsOf s.silver.rows p := List.mem_filter.2 ⟨hrow, decide_eq_true pair⟩
    cases rows : rowsOf s.silver.rows p with
    | nil =>
      rw [rows] at member
      cases member
    | cons => rfl
  unfold aggregateAt countsAt
  rw [some_rows]
  constructor
  · rintro ⟨g, hg, pair, current⟩
    have pair : g.pair = p := pair
    subst pair
    have only : (s.gold.filter fun g' => g'.pair = g.pair) = [g] := Table.filter_key unique hg
    rw [only]
    exact congrArg (fun c => [c]) current
  · intro same
    obtain ⟨g, hg, value⟩ := List.mem_map.1 (same ▸ List.mem_singleton.2 rfl :
      countsOf (rowsOf s.silver.rows p) ∈ (s.gold.filter fun g => g.pair = p).map GoldRow.counts)
    obtain ⟨hg, pair⟩ := List.mem_filter.1 hg
    exact ⟨g, hg, of_decide_eq_true pair, value⟩

/-- **Pending is stale.** -/
theorem GoldInvariant.pending_iff {s : World} (h : GoldInvariant s) {p : Pair}
    (present : ∃ row ∈ s.silver.rows, pairOf row = p) :
    Pending s p ↔ countsAt s.gold p ≠ aggregateAt s.silver.rows p := by
  rw [Ne, ← current_iff h.unique present]
  exact Table.Snapshots.pending_iff_not_current (fun _ _ => countsOf_append_ne) h.unique h.taken present

/-! ## Refreshes keep the invariant -/

theorem goldRow_pair (events : List Row) (updatedAt : Instant) (p : Pair) :
    (goldRow events updatedAt p).pair = p := rfl

theorem mem_goldRows {events : List Row} {updatedAt : Instant} {g : GoldRow} :
    g ∈ goldRows events updatedAt ↔ ∃ row ∈ events, g = goldRow events updatedAt (pairOf row) := by
  unfold goldRows
  rw [List.mem_map]
  constructor
  · rintro ⟨p, hp, rfl⟩
    obtain ⟨row, hrow, rfl⟩ := Table.mem_groups.1 hp
    exact ⟨row, hrow, rfl⟩
  · rintro ⟨row, hrow, rfl⟩
    exact ⟨pairOf row, Table.mem_groups.2 ⟨row, hrow, rfl⟩, rfl⟩

theorem pairs_goldRows (events : List Row) (updatedAt : Instant) :
    (goldRows events updatedAt).map GoldRow.pair = Table.groups pairOf events := by
  unfold goldRows
  rw [List.map_map]
  exact List.map_id'' (fun _ => rfl) _

/-- The events of the listed dates are all the events of a pair on one of them. -/
theorem rowsOf_eventsOf {silver : List Row} {dates : List Date} {p : Pair} (listed : p.1 ∈ dates.map some) :
    rowsOf (eventsOf silver dates) p = rowsOf silver p := by
  unfold rowsOf eventsOf
  rw [List.filter_filter]
  apply List.filter_congr
  intro row _
  by_cases pair : pairOf row = p
  · have date : row.date .eventDate ∈ dates.map some := by
      rw [← pair] at listed
      exact listed
    simp only [pair, date, decide_true, Bool.and_self]
  · simp only [pair, decide_false, Bool.false_and]

theorem mem_eventsOf {silver : List Row} {dates : List Date} {row : Row} :
    row ∈ eventsOf silver dates ↔ row ∈ silver ∧ (pairOf row).1 ∈ dates.map some := by
  unfold eventsOf
  rw [List.mem_filter, decide_eq_true_eq]
  exact Iff.rfl

theorem mem_replaceDates {gold rows : List GoldRow} {dates : List Date} {g : GoldRow} :
    g ∈ replaceDates gold dates rows ↔ (g ∈ gold ∧ g.eventDate ∉ dates.map some) ∨ g ∈ rows := by
  unfold replaceDates
  rw [List.mem_append, List.mem_filter, decide_eq_true_eq]

theorem GoldInvariant.refreshed {dates : List Date} {s s₀ t : World} {updatedAt : Instant} (h : GoldInvariant s)
    (tick : s.clock < s₀.clock) (same : s₀.silver = s.silver ∧ s₀.gold = s.gold)
    (refreshed : Refreshed dates s₀ updatedAt t) : GoldInvariant t := by
  have ticked : s.clock ≤ updatedAt := le_trans (le_of_lt tick) refreshed.started
  have later : s.clock ≤ t.clock := le_trans ticked refreshed.clock
  have silver : t.silver = s.silver := refreshed.silver.trans same.1
  have gold : t.gold = replaceDates s.gold dates (goldRows (eventsOf s.silver.rows dates) updatedAt) := by
    rw [refreshed.gold, same.1, same.2]
  constructor
  · rw [silver]
    exact h.keyed
  · intro row hrow
    rw [silver] at hrow
    exact le_trans (h.processed row hrow) (WithBot.coe_le_coe.2 later)
  · intro g hg
    rw [gold] at hg
    rcases mem_replaceDates.1 hg with ⟨old, _⟩ | new
    · exact le_trans (h.stamped g old) later
    · obtain ⟨row, _, rfl⟩ := mem_goldRows.1 new
      exact refreshed.clock
  · rw [gold]
    unfold replaceDates
    rw [List.map_append, pairs_goldRows]
    refine List.nodup_append'.2 ⟨h.unique.sublist (List.filter_sublist.map _), Table.nodup_groups, ?_⟩
    intro p old new
    obtain ⟨g, hg, rfl⟩ := List.mem_map.1 old
    obtain ⟨row, hrow, pair⟩ := Table.mem_groups.1 new
    have listed := (mem_eventsOf.1 hrow).2
    rw [pair] at listed
    exact of_decide_eq_true (List.mem_filter.1 hg).2 listed
  · intro g hg
    rw [gold] at hg
    rw [silver]
    rcases mem_replaceDates.1 hg with ⟨old, _⟩ | new
    · exact h.present g old
    · obtain ⟨row, hrow, rfl⟩ := mem_goldRows.1 new
      exact ⟨row, (mem_eventsOf.1 hrow).1, rfl⟩
  · intro g hg
    rw [gold] at hg
    rw [silver]
    rcases mem_replaceDates.1 hg with ⟨old, _⟩ | new
    · exact h.taken g old
    · obtain ⟨row, hrow, rfl⟩ := mem_goldRows.1 new
      apply Table.Snapshots.TakenFrom.now
      · intro r hr
        exact le_trans (h.processed r hr) (WithBot.coe_le_coe.2 ticked)
      · have events : rowsOf (eventsOf s.silver.rows dates) (pairOf row) = rowsOf s.silver.rows (pairOf row) :=
          rowsOf_eventsOf (mem_eventsOf.1 hrow).2
        exact congrArg countsOf events

/-! ## Attempts keep the invariant -/

/-- `decode` dates every Bronze row by its `requested_at`. -/
def Dated (batch : Frame) : Prop :=
  ∀ row ∈ batch.rows, row .eventDate = (row.timestamp .requestedAt).map fun t => .date (toDate t)

/-- The calls on Bronze batches, and any refresh. -/
def OnBronze : Call → Prop
  | .validate batch _ _ => Dated batch
  | .refresh _ _ => True

/-- A merged row of a dated batch has a date and a source. -/
theorem Passes.keyed {now processedAt : Instant} {row : Row} (h : Passes now row)
    (dated : row .eventDate = (row.timestamp .requestedAt).map fun t => .date (toDate t)) :
    (pairOf (processedRow processedAt (validRow row))).1 ≠ none ∧
      (pairOf (processedRow processedAt (validRow row))).2 ≠ none := by
  have silver := h.silverRow (le_refl now)
  constructor
  · obtain ⟨t, _, value⟩ := h.accepted.requestedAt
    rw [Row.timestamp_eq_some.2 value] at dated
    have kept : processedRow processedAt (validRow row) .eventDate = some (.date (toDate t)) :=
      (processedRow_validRow (by decide)).trans dated
    simp [pairOf, Row.date, kept]
  · obtain ⟨source, _, value⟩ := h.accepted.source
    have kept : processedRow processedAt (validRow row) .source = some (.string source) :=
      (processedRow_of_ne (by decide)).trans (validRow_source value)
    simp [pairOf, Row.string, kept]

theorem time_processedRow {processedAt : Instant} {row : Row} :
    goldOf.time (processedRow processedAt row) = (processedAt : WithBot Instant) := by
  simp [goldOf, Row.timestamp, processedRow_self]

section Attempt

variable {env : Env} {batch : Frame} {runId pipeline : String} {s s₀ t : World}

theorem GoldInvariant.begun (h : GoldInvariant s) (silver : t.silver = s.silver) (gold : t.gold = s.gold)
    (clock : s.clock ≤ t.clock) : GoldInvariant t where
  keyed := silver ▸ h.keyed
  processed row hrow := by
    rw [silver] at hrow
    exact le_trans (h.processed row hrow) (WithBot.coe_le_coe.2 clock)
  stamped g hg := by
    rw [gold] at hg
    exact le_trans (h.stamped g hg) clock
  unique := gold ▸ h.unique
  present := by
    rw [silver, gold]
    exact h.present
  taken := by
    rw [silver, gold]
    exact h.taken

theorem GoldInvariant.merged {now quarantinedAt processedAt : Instant} {unique : Frame} (h : GoldInvariant s)
    (dated : Dated batch) (tick : s.clock < s₀.clock) (same : s₀.silver = s.silver ∧ s₀.gold = s.gold)
    (merged : Merged env batch runId pipeline s₀ now quarantinedAt processedAt unique t) : GoldInvariant t := by
  have ticked : s.clock < processedAt := lt_of_lt_of_le tick (le_trans merged.started merged.order)
  have later : s.clock ≤ t.clock := le_trans (le_of_lt ticked) merged.clock
  have gold : t.gold = s.gold := merged.gold.trans same.2
  have rows := merged.rows
  rw [same.1] at rows
  have new : ∀ row ∈ Table.newRows (· .eventId) s.silver.rows (preparedFrame unique processedAt).rows,
      goldOf.time row = (processedAt : WithBot Instant) ∧ (pairOf row).1 ≠ none ∧ (pairOf row).2 ≠ none := by
    intro row hrow
    rw [← same.1] at hrow
    obtain ⟨r, hr, passes, rfl⟩ := merged.origin hrow
    have bronze := (passes_conform hr passes).2
    exact ⟨time_processedRow, passes.keyed (dated r bronze)⟩
  constructor
  · intro row hrow
    rw [rows] at hrow
    rcases List.mem_append.1 hrow with old | added
    · exact h.keyed row old
    · exact (new row added).2
  · intro row hrow
    rw [rows] at hrow
    rcases List.mem_append.1 hrow with old | added
    · exact le_trans (h.processed row old) (WithBot.coe_le_coe.2 later)
    · rw [(new row added).1]
      exact WithBot.coe_le_coe.2 merged.clock
  · intro g hg
    rw [gold] at hg
    exact le_trans (h.stamped g hg) later
  · rw [gold]
    exact h.unique
  · intro g hg
    rw [gold] at hg
    obtain ⟨row, hrow, pair⟩ := h.present g hg
    refine ⟨row, ?_, pair⟩
    rw [rows]
    exact List.mem_append_left _ hrow
  · intro g hg
    rw [gold] at hg
    rw [rows]
    apply (h.taken g hg).append
    intro row added
    rw [(new row added).1]
    exact WithBot.coe_lt_coe.2 (lt_of_le_of_lt (h.stamped g hg) ticked)

end Attempt

/-- The invariant holds in every state of every history. -/
theorem goldInvariant {env : Env} {s : World} (h : (lake env (· < ·) OnBronze).Reachable s) :
    GoldInvariant s := by
  apply Reachable.of_stages (I := GoldInvariant) h
  · intro t
    constructor <;> simp [World.bootstrap]
  · intro k s begin t hs called ticked stage
    have tick : s.clock < (s.at begin).clock := ticked
    cases k with
    | validate batch runId pipeline =>
      have stage : Stage env batch runId pipeline (s.at begin) t := stage
      cases stage with
      | begun h => exact hs.begun h.silver h.gold (le_trans (le_of_lt ticked) h.clock)
      | rejected h => exact hs.begun h.silver h.gold (le_trans (le_of_lt ticked) (le_trans h.started h.clock))
      | merged h => exact hs.merged called tick ⟨rfl, rfl⟩ h
    | refresh dates runId =>
      have stage : RefreshStage dates (s.at begin) t := stage
      cases stage with
      | begun h => exact hs.begun h.silver h.gold (le_trans (le_of_lt ticked) h.clock)
      | refreshed h => exact hs.refreshed tick ⟨rfl, rfl⟩ h

/-! ## touched, then refresh -/

/-- The Gold row of a pair is missing or differs from the aggregate of Silver. -/
def Stale (s : World) (p : Pair) : Prop := countsAt s.gold p ≠ aggregateAt s.silver.rows p

theorem aggregateAt_of_absent {silver : List Row} {p : Pair} (h : ¬ ∃ row ∈ silver, pairOf row = p) :
    aggregateAt silver p = [] := by
  have none_of : rowsOf silver p = [] := by
    apply List.filter_eq_nil_iff.2
    intro row hrow pair
    exact h ⟨row, hrow, of_decide_eq_true pair⟩
  unfold aggregateAt
  rw [none_of]
  rfl

/-- A stale pair is in Silver: Gold has no rows of other pairs. -/
theorem GoldInvariant.present_of_stale {s : World} (h : GoldInvariant s) {p : Pair} (stale : Stale s p) :
    ∃ row ∈ s.silver.rows, pairOf row = p := by
  by_contra absent
  apply stale
  rw [aggregateAt_of_absent absent]
  refine List.map_eq_nil_iff.2 (List.filter_eq_nil_iff.2 ?_)
  intro g hg pair
  obtain ⟨row, hrow, same⟩ := h.present g hg
  exact absent ⟨row, hrow, same.trans (of_decide_eq_true pair)⟩

theorem countsAt_append (a b : List GoldRow) (p : Pair) : countsAt (a ++ b) p = countsAt a p ++ countsAt b p := by
  unfold countsAt
  rw [List.filter_append, List.map_append]

/-- What a refresh writes for a pair. -/
theorem countsAt_goldRows (events : List Row) (updatedAt : Instant) (p : Pair) :
    countsAt (goldRows events updatedAt) p = aggregateAt events p := by
  by_cases present : ∃ row ∈ events, pairOf row = p
  · obtain ⟨row, hrow, rfl⟩ := present
    have unique : ((goldRows events updatedAt).map GoldRow.pair).Nodup := by
      rw [pairs_goldRows]
      exact Table.nodup_groups
    have only := Table.filter_key unique (mem_goldRows.2 ⟨row, hrow, rfl⟩)
    have some_rows : row ∈ rowsOf events (pairOf row) := List.mem_filter.2 ⟨hrow, decide_eq_true rfl⟩
    unfold countsAt aggregateAt
    rw [goldRow_pair] at only
    rw [only]
    cases rows : rowsOf events (pairOf row) with
    | nil =>
      rw [rows] at some_rows
      cases some_rows
    | cons r rs =>
      rw [List.isEmpty_cons, ← rows]
      rfl
  · rw [aggregateAt_of_absent present]
    refine List.map_eq_nil_iff.2 (List.filter_eq_nil_iff.2 ?_)
    intro g hg pair
    obtain ⟨row, hrow, rfl⟩ := mem_goldRows.1 hg
    exact present ⟨row, hrow, of_decide_eq_true pair⟩

section Refresh

variable {dates : List Date} {s₀ t : World} {updatedAt : Instant}

/-- A refresh makes the pairs of its dates right. -/
theorem Refreshed.listed (h : Refreshed dates s₀ updatedAt t) {p : Pair} (listed : p.1 ∈ dates.map some) :
    countsAt t.gold p = aggregateAt s₀.silver.rows p := by
  have replaced : countsAt (s₀.gold.filter fun g => g.eventDate ∉ dates.map some) p = [] := by
    refine List.map_eq_nil_iff.2 (List.filter_eq_nil_iff.2 ?_)
    intro g hg pair
    have kept := of_decide_eq_true (List.mem_filter.1 hg).2
    have date : g.eventDate = p.1 := congrArg Prod.fst (of_decide_eq_true pair)
    exact kept (date ▸ listed)
  rw [h.gold]
  unfold replaceDates
  rw [countsAt_append, replaced, List.nil_append, countsAt_goldRows]
  unfold aggregateAt
  rw [rowsOf_eventsOf listed]

/-- A refresh leaves the pairs of other dates as they are. -/
theorem Refreshed.other (h : Refreshed dates s₀ updatedAt t) {p : Pair} (other : p.1 ∉ dates.map some) :
    countsAt t.gold p = countsAt s₀.gold p := by
  have kept : countsAt (s₀.gold.filter fun g => g.eventDate ∉ dates.map some) p = countsAt s₀.gold p := by
    unfold countsAt
    rw [List.filter_filter]
    refine congrArg _ (List.filter_congr fun g _ => ?_)
    by_cases pair : g.pair = p
    · have date : g.eventDate ∉ dates.map some := by
        rw [← pair] at other
        exact other
      simp only [pair, date, not_false_eq_true, decide_true, Bool.and_self]
    · simp only [pair, decide_false, Bool.false_and]
  have written : countsAt (goldRows (eventsOf s₀.silver.rows dates) updatedAt) p = [] := by
    rw [countsAt_goldRows]
    apply aggregateAt_of_absent
    rintro ⟨row, hrow, rfl⟩
    exact other (mem_eventsOf.1 hrow).2
  rw [h.gold]
  unfold replaceDates
  rw [countsAt_append, kept, written, List.append_nil]

/-- Whatever a refresh does, a pair that was right stays right. -/
theorem RefreshStage.keeps {p : Pair} (stage : RefreshStage dates s₀ t) (h : ¬ Stale s₀ p) : ¬ Stale t p := by
  unfold Stale at *
  rw [not_not] at *
  cases stage with
  | begun b =>
    rw [b.gold, b.silver]
    exact h
  | refreshed r =>
    rw [r.silver]
    by_cases listed : p.1 ∈ dates.map some
    · exact r.listed listed
    · rw [r.other listed]
      exact h

/-- A refresh that returns has made the pairs of its dates right. -/
theorem RefreshCompleted.listed {p : Pair} (h : RefreshCompleted dates s₀ t) (listed : p.1 ∈ dates.map some) :
    ¬ Stale t p := by
  unfold Stale
  rw [not_not]
  rcases h with ⟨rfl, _⟩ | ⟨updatedAt, r⟩
  · cases listed
  · rw [r.silver]
    exact r.listed listed

end Refresh

/-- `touched` reads the two tables and nothing else. -/
theorem touched_result {env : Env} {runId : String} {start stop : Instant} {s t : World}
    {dates : List (Option Date)}
    (run : Prog.Run (LakeExec runId) (touched env start stop, s) (.done (.ok dates), t)) :
    t = s ∧ dates = touchedDates env start stop s.silver.rows s.gold := by
  have always : Prog.Always (LakeExec runId) (fun _ t => t = s)
      (fun r t => t = s ∧ ∀ dates, r = .ok dates → dates = touchedDates env start stop s.silver.rows s.gold)
      (touched env start stop) s := by
    have fails : ∀ (e : PyException) (t : World), t = s → t = s ∧
        ∀ dates, Except.error e = .ok dates → dates = touchedDates env start stop s.silver.rows s.gold := by
      rintro e t rfl
      refine ⟨rfl, ?_⟩
      intro dates impossible
      cases impossible
    unfold touched
    apply always_call (G := fun t => t = s) (P := fun (silver : Frame) t => silver = s.silver ∧ t = s) fails rfl
    · intro silver t took
      cases took
      exact ⟨rfl, rfl⟩
    · intro _ t ht
      exact ht.2
    rintro _ _ ⟨rfl, rfl⟩
    rename_i s
    apply always_call (G := fun t => t = s) (P := fun (gold : List GoldRow) t => gold = s.gold ∧ t = s) fails rfl
    · intro gold t took
      cases took
      exact ⟨rfl, rfl⟩
    · intro _ t ht
      exact ht.2
    rintro _ _ ⟨rfl, rfl⟩
    refine ⟨rfl, ?_⟩
    intro dates returned
    exact (Except.ok.inj returned).symm
  obtain ⟨same, result⟩ := always.post_of_run run
  exact ⟨same, result dates rfl⟩

theorem mem_touchedDates {env : Env} {start stop : Instant} {silver : List Row} {gold : List GoldRow}
    {p : Pair} (pending : p ∈ pendingGroups silver gold) : p.1 ∈ touchedDates env start stop silver gold :=
  List.mem_dedup.2 (List.mem_append_right _ (List.mem_map_of_mem pending))

/-- The dates `touched` returns are dates of Silver rows. -/
theorem of_mem_touchedDates {env : Env} {start stop : Instant} {silver : List Row} {gold : List GoldRow}
    {d : Option Date} (h : d ∈ touchedDates env start stop silver gold) : ∃ row ∈ silver, (pairOf row).1 = d := by
  rcases List.mem_append.1 (List.mem_dedup.1 h) with recent | pending
  · obtain ⟨row, hrow, rfl⟩ := List.mem_map.1 recent
    exact ⟨row, List.mem_of_mem_filter hrow, rfl⟩
  · obtain ⟨p, hp, rfl⟩ := List.mem_map.1 pending
    obtain ⟨⟨row, hrow, rfl⟩, _⟩ := mem_pendingGroups.1 hp
    exact ⟨row, hrow, rfl⟩

theorem exists_map_some {l : List (Option Date)} (h : ∀ d ∈ l, d ≠ none) :
    ∃ dates : List Date, l = dates.map some := by
  induction l with
  | nil => exact ⟨[], rfl⟩
  | cons d l ih =>
    obtain ⟨dates, rfl⟩ := ih fun d hd => h d (List.mem_cons_of_mem _ hd)
    obtain ⟨day, rfl⟩ := Option.ne_none_iff_exists'.1 (h d List.mem_cons_self)
    exact ⟨day :: dates, rfl⟩

/-- Any number of refreshes, of any dates, each of which may stop anywhere. -/
def Refreshing (env : Env) : World → World → Prop :=
  Relation.ReflTransGen fun s t => ∃ dates runId p,
    (lake env (· < ·) OnBronze).Session (.refresh dates runId) s p t

section Refreshing

variable {env : Env} {s t : World}

theorem session_refresh {dates : List Date} {runId : String} {p : LakeM Unit} {q : Pair}
    (session : (lake env (· < ·) OnBronze).Session (.refresh dates runId) s p t) (h : ¬ Stale s q) :
    ¬ Stale t q := by
  obtain ⟨begin, _, _, stage, _⟩ := session_stage session
  have stage : RefreshStage dates (s.at begin) t := stage
  exact stage.keeps h

theorem refreshing_keeps {q : Pair} (refreshing : Refreshing env s t) (h : ¬ Stale s q) : ¬ Stale t q := by
  induction refreshing with
  | refl => exact h
  | tail _ session ih =>
    obtain ⟨dates, runId, p, session⟩ := session
    exact session_refresh session ih

end Refreshing

/-- **Gold.** In every state of every history of attempts on Bronze batches and of
refreshes: a pair of Silver is pending exactly when it is stale; `touched` and `freshness`
find exactly the pending pairs; and the dates that `touched` returns, for whatever interval,
include every stale one, so that a refresh of them leaves Gold equal to the aggregate of
Silver, with any refreshes in between. -/
theorem stale_gold_detected {env : Env} {s : World} (h : (lake env (· < ·) OnBronze).Reachable s) :
    (∀ p, (∃ row ∈ s.silver.rows, pairOf row = p) → (Pending s p ↔ Stale s p)) ∧
    (∀ p, (p ∈ pendingGroups s.silver.rows s.gold ↔ Pending s p) ∧
      ((∃ row ∈ pendingRows s.silver.rows s.gold, pairOf row = p) ↔ Pending s p)) ∧
    ∀ start stop runId found s',
      Prog.Run (LakeExec runId) (touched env start stop, s) (.done (.ok found), s') →
      (∀ p, Stale s p → p.1 ∈ found) ∧
      ∃ dates, found = dates.map some ∧ ∀ t u runId', Refreshing env s' t →
        (lake env (· < ·) OnBronze).Session (.refresh dates runId') t (.done (.ok ())) u →
        ∀ p, countsAt u.gold p = aggregateAt u.silver.rows p := by
  have inv := goldInvariant h
  have detects : ∀ p, (∃ row ∈ s.silver.rows, pairOf row = p) → (Pending s p ↔ Stale s p) :=
    fun p present => inv.pending_iff present
  refine ⟨detects, fun p => ⟨inv.pendingGroups_iff p, inv.pendingRows_iff p⟩, ?_⟩
  intro start stop runId found s' run
  obtain ⟨rfl, rfl⟩ := touched_result run
  have all_found : ∀ p, Stale s' p → p.1 ∈ touchedDates env start stop s'.silver.rows s'.gold := by
    intro p stale
    have pending := (detects p (inv.present_of_stale stale)).2 stale
    exact mem_touchedDates ((inv.pendingGroups_iff p).2 pending)
  refine ⟨all_found, ?_⟩
  have dated : ∀ d ∈ touchedDates env start stop s'.silver.rows s'.gold, d ≠ none := by
    intro d hd
    obtain ⟨row, hrow, rfl⟩ := of_mem_touchedDates hd
    exact (inv.keyed row hrow).1
  obtain ⟨dates, found⟩ := exists_map_some dated
  refine ⟨dates, found, ?_⟩
  intro t u runId' refreshing session p
  by_contra stale
  have kept : Stale s' p := by
    by_contra right
    exact session_refresh session (refreshing_keeps refreshing right) stale
  obtain ⟨begin, _, _, _, completed⟩ := session_stage session
  have completed : RefreshCompleted dates (t.at begin) u := completed rfl
  refine completed.listed ?_ stale
  rw [← found]
  exact all_found p kept

/-- After the merge of its first record, Gold is stale. -/
theorem stale_gold_detected_demo : Stale demoLake (some 0, some "UI") := by
  have dated : OnBronze demoCall := by
    intro row hrow
    obtain rfl := List.mem_singleton.1 hrow
    decide
  have detects := (stale_gold_detected (demoLake_reachable dated (by decide))).1
  have present : ∃ row ∈ demoLake.silver.rows, pairOf row = (some 0, some "UI") := by decide +kernel
  apply (detects _ present).1
  obtain ⟨row, hrow, pair⟩ := present
  have fresh : demoLake.gold = [] := by decide +kernel
  refine ⟨row, hrow, pair, Or.inl ?_⟩
  rw [fresh]
  simp

end Tikblog.Analytics
