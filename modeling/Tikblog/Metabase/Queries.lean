import Mathlib.Data.Prod.Lex
import Mathlib.Data.String.Basic
import Tikblog.Table.Rollup
import Tikblog.Driver.Delivery

/-!
# The management dashboard

The four queries of the dashboard over `gold.unsubscribe_daily`, under any setting of its
filters. On a driver whose topics are drained and whose Gold is current they show the
published events (`management_exact`): requests add up over any days and sources, and the
unique counts are exact for a day and a source. Unique counts do not add up, except where
nobody occurs twice (`uniques_add_up_iff`).
-/

namespace Tikblog.Metabase

open Python Analytics Table

/-- `FILTERS`: a clause whose variable is not set is left out of the query. -/
structure Filters where
  fromDate : Option Date
  toDate : Option Date
  source : Option String

/-- `WHERE 1=1` with the clauses that are there. A comparison with null is not true. -/
def Filters.selects (f : Filters) (p : Pair) : Bool :=
  (f.fromDate.all fun day => p.1.any fun eventDate => day ≤ eventDate) &&
  (f.toDate.all fun day => p.1.any fun eventDate => eventDate ≤ day) &&
  f.source.all fun source => p.2.any fun s => s = source

/-- `FROM gold.unsubscribe_daily WHERE ..`. -/
def selected (f : Filters) (gold : List GoldRow) : List GoldRow := gold.filter fun g => f.selects g.pair

/-- `sum(..)`: null, where there is no row. -/
def sumOf (counts : List Nat) : Option Nat := if counts.isEmpty then none else some counts.sum

/-- `total.sql`. -/
def total (f : Filters) (gold : List GoldRow) : Nat :=
  (sumOf ((selected f gold).map GoldRow.unsubscribeCount)).getD 0

/-- `daily.sql`. Nulls come first. -/
def daily (f : Filters) (gold : List GoldRow) : List (Option Date × Option String × Nat) :=
  (orderBy (fun g => (toLex (g.eventDate, g.source) : WithBot Date ×ₗ WithBot String)) (selected f gold)).map
    fun g => (g.eventDate, g.source, g.unsubscribeCount)

/-- `sources.sql`, in some order. -/
def sources (f : Filters) (gold : List GoldRow) : List (Option String × Option Nat) :=
  (groups GoldRow.source (selected f gold)).map fun source =>
    (source, sumOf (((selected f gold).filter fun g => g.source = source).map GoldRow.unsubscribeCount))

/-- `unique.sql`. `DESC` puts nulls last. -/
def unique (f : Filters) (gold : List GoldRow) : List (Option Date × Option String × Nat × Nat) :=
  (orderBy (fun g => (toLex (OrderDual.toDual g.eventDate, g.source) : (WithBot Date)ᵒᵈ ×ₗ WithBot String))
    (selected f gold)).map fun g => (g.eventDate, g.source, g.uniqueReaders, g.uniqueWriters)

theorem sumOf_getD (counts : List Nat) : (sumOf counts).getD 0 = counts.sum := by
  cases counts with
  | nil => rfl
  | cons _ _ => rfl

/-! ## The events under the filters -/

/-- Where an event is counted. -/
def pairOfEvent (e : Driver.Event) : Pair := (some (toDate e.requestedAt), some e.source)

/-- The published events of some pairs. -/
def eventsOn (w : Driver.Platform) (chosen : Pair → Bool) : Set Driver.Event :=
  {e | Driver.Published w e ∧ chosen (pairOfEvent e)}

/-- What the queries show of the events. -/
structure Charts (w : Driver.Platform) (f : Filters) (gold : List GoldRow) : Prop where
  total : total f gold = (eventsOn w f.selects).ncard
  sources_once : ((sources f gold).map Prod.fst).Nodup
  sources : ∀ source n, (source, n) ∈ sources f gold ↔
    (eventsOn w fun p => f.selects p && p.2 = source).Nonempty ∧
    n = some (eventsOn w fun p => f.selects p && p.2 = source).ncard
  daily_sorted : (daily f gold).Pairwise fun a b =>
    (toLex (a.1, a.2.1) : WithBot Date ×ₗ WithBot String) < toLex (b.1, b.2.1)
  daily : ∀ day source n, (day, source, n) ∈ daily f gold ↔
    (eventsOn w fun p => f.selects p && p = (day, source)).Nonempty ∧
    n = (eventsOn w fun p => f.selects p && p = (day, source)).ncard
  unique_sorted : (unique f gold).Pairwise fun a b =>
    (toLex (OrderDual.toDual a.1, a.2.1) : (WithBot Date)ᵒᵈ ×ₗ WithBot String) < toLex (OrderDual.toDual b.1, b.2.1)
  unique : ∀ day source readers writers, (day, source, readers, writers) ∈ unique f gold ↔
    (eventsOn w fun p => f.selects p && p = (day, source)).Nonempty ∧
    readers = (Driver.Event.userId '' eventsOn w fun p => f.selects p && p = (day, source)).ncard ∧
    writers = (Driver.Event.writerId '' eventsOn w fun p => f.selects p && p = (day, source)).ncard

section Events

variable {w : Driver.Platform} {s : Driver.State w} {f : Filters} (staging : Driver.Staging w s)
  (exact : ∀ e, Driver.Published w e ↔ ∃ row ∈ s.lake.silver.rows, Driver.Event.In e row)
  (current : pendingGroups s.lake.silver.rows s.lake.gold = [])

/-- The Silver rows of some pairs. -/
abbrev rowsOn (s : Driver.State w) (chosen : Pair → Bool) : List Row :=
  s.lake.silver.rows.filter fun row => chosen (pairOf row)

include staging in
theorem mem_rowsOn {chosen : Pair → Bool} {row : Row} (member : row ∈ rowsOn s chosen) :
    ∃ e ∈ eventsOn w chosen, Driver.Event.In e row := by
  obtain ⟨member, holds⟩ := List.mem_filter.1 member
  obtain ⟨e, published, held, -⟩ := (Driver.silver_of_staging staging).2 row member
  rw [Driver.pairOf_in held] at holds
  exact ⟨e, ⟨published, holds⟩, held⟩

include exact in
theorem exists_rowsOn {chosen : Pair → Bool} {e : Driver.Event} (member : e ∈ eventsOn w chosen) :
    ∃ row ∈ rowsOn s chosen, Driver.Event.In e row := by
  obtain ⟨published, holds⟩ := member
  obtain ⟨row, member, held⟩ := (exact e).1 published
  refine ⟨row, List.mem_filter.2 ⟨member, ?_⟩, held⟩
  rw [Driver.pairOf_in held]
  exact holds

include staging exact in
theorem countsOf_rowsOn (chosen : Pair → Bool) : countsOf (rowsOn s chosen) =
    ((eventsOn w chosen).ncard, (Driver.Event.userId '' eventsOn w chosen).ncard,
      (Driver.Event.writerId '' eventsOn w chosen).ncard) :=
  Driver.countsOf_events ((Driver.silver_of_staging staging).1.sublist (List.filter_sublist.map _))
    (fun _ member => mem_rowsOn staging member) fun _ member => exists_rowsOn exact member

include staging exact in
theorem nonempty_eventsOn {chosen : Pair → Bool} :
    (eventsOn w chosen).Nonempty ↔ ∃ row ∈ s.lake.silver.rows, chosen (pairOf row) = true := by
  constructor
  · rintro ⟨e, member⟩
    obtain ⟨row, present, -⟩ := exists_rowsOn exact member
    exact ⟨row, List.mem_filter.1 present⟩
  · rintro ⟨row, present⟩
    obtain ⟨e, member, -⟩ := mem_rowsOn staging (List.mem_filter.2 present)
    exact ⟨e, member⟩

include staging current in
/-- Gold, where it is current, sums Silver up. -/
theorem rollup_of_current :
    Rollup pairOf GoldRow.pair GoldRow.counts countsOf s.lake.silver.rows s.lake.gold := by
  obtain ⟨v, reached, mirrors⟩ := staging.mirrored
  have inv := Driver.goldInvariant_of_sections reached
  rw [← mirrors.silver, ← mirrors.gold] at current ⊢
  have right := Driver.current_of_nothing_pending inv current
  have present : ∀ g ∈ v.gold, ∃ row ∈ v.silver.rows, pairOf row = g.pair := inv.present
  refine ⟨inv.unique, fun p => ⟨?_, ?_⟩, ?_⟩
  · rintro ⟨g, member, rfl⟩
    exact present g member
  · rintro ⟨row, member, same⟩
    have counts := right p
    rw [aggregateAt, if_neg] at counts
    · have held : countsOf (rowsOf v.silver.rows p) ∈ countsAt v.gold p := counts ▸ List.mem_singleton_self _
      obtain ⟨g, listed, -⟩ := List.mem_map.1 held
      obtain ⟨listed, pair⟩ := List.mem_filter.1 listed
      exact ⟨g, listed, of_decide_eq_true pair⟩
    · intro empty
      have listed : row ∈ rowsOf v.silver.rows p := List.mem_filter.2 ⟨member, decide_eq_true same⟩
      rw [List.isEmpty_iff.1 empty] at listed
      cases listed
  · intro g member
    have counts := right g.pair
    rw [countsAt, filter_key inv.unique member, aggregateAt, if_neg] at counts
    · exact (List.cons.inj counts).1
    · intro empty
      obtain ⟨row, present, same⟩ := present g member
      have listed : row ∈ rowsOf v.silver.rows g.pair := List.mem_filter.2 ⟨present, decide_eq_true same⟩
      rw [List.isEmpty_iff.1 empty] at listed
      cases listed

include staging exact current in
theorem sum_chosen (chosen : Pair → Bool) :
    ((s.lake.gold.filter fun g => chosen g.pair).map GoldRow.unsubscribeCount).sum = (eventsOn w chosen).ncard := by
  have sums := ((rollup_of_current staging current).selected chosen).sum_rows (f := Prod.fst) fun _ => rfl
  have counts := congrArg Prod.fst (countsOf_rowsOn staging exact chosen)
  exact sums.trans counts

include staging exact current in
/-- The rows that are selected, and the events they stand for. -/
theorem mem_selected {p : Pair} {counts : Nat × Nat × Nat} :
    (∃ g ∈ selected f s.lake.gold, g.pair = p ∧ g.counts = counts) ↔
      (eventsOn w fun q => f.selects q && q = p).Nonempty ∧
      counts = ((eventsOn w fun q => f.selects q && q = p).ncard,
        (Driver.Event.userId '' eventsOn w fun q => f.selects q && q = p).ncard,
        (Driver.Event.writerId '' eventsOn w fun q => f.selects q && q = p).ncard) := by
  have rows : ((s.lake.silver.rows.filter fun row => f.selects (pairOf row)).filter fun row => pairOf row = p) =
      rowsOn s fun q => f.selects q && q = p := by
    rw [List.filter_filter]
    exact List.filter_congr fun row _ => Bool.and_comm ..
  have found := ((rollup_of_current staging current).selected f.selects).mem_iff (g := p) (m := counts)
  rw [rows, countsOf_rowsOn staging exact] at found
  refine found.trans (and_congr_left fun _ => ?_)
  rw [nonempty_eventsOn staging exact]
  constructor
  · rintro ⟨row, member, same⟩
    obtain ⟨member, holds⟩ := List.mem_filter.1 member
    exact ⟨row, member, Bool.and_eq_true_iff.2 ⟨holds, decide_eq_true same⟩⟩
  · rintro ⟨row, member, holds⟩
    obtain ⟨holds, same⟩ := Bool.and_eq_true_iff.1 holds
    exact ⟨row, List.mem_filter.2 ⟨member, holds⟩, of_decide_eq_true same⟩

include staging exact current in
theorem mem_sources {source : Option String} {n : Option Nat} : (source, n) ∈ sources f s.lake.gold ↔
    (eventsOn w fun p => f.selects p && p.2 = source).Nonempty ∧
    n = some (eventsOn w fun p => f.selects p && p.2 = source).ncard := by
  have rows : ((selected f s.lake.gold).filter fun g => g.source = source) =
      s.lake.gold.filter fun g => f.selects g.pair && decide (g.pair.2 = source) := by
    rw [selected, List.filter_filter]
    exact List.filter_congr fun g _ => Bool.and_comm ..
  have sums := sum_chosen staging exact current fun p => f.selects p && p.2 = source
  rw [← rows] at sums
  have listed : source ∈ groups GoldRow.source (selected f s.lake.gold) ↔
      (eventsOn w fun p => f.selects p && p.2 = source).Nonempty := by
    rw [mem_groups]
    constructor
    · rintro ⟨g, member, rfl⟩
      obtain ⟨⟨e, event, holds⟩, -⟩ := (mem_selected staging exact current).1 ⟨g, member, rfl, rfl⟩
      obtain ⟨holds, same⟩ := Bool.and_eq_true_iff.1 holds
      exact ⟨e, event, Bool.and_eq_true_iff.2 ⟨holds, decide_eq_true (congrArg Prod.snd (of_decide_eq_true same))⟩⟩
    · rintro ⟨e, event, holds⟩
      obtain ⟨holds, same⟩ := Bool.and_eq_true_iff.1 holds
      have one : (eventsOn w fun q => f.selects q && q = pairOfEvent e).Nonempty :=
        ⟨e, event, Bool.and_eq_true_iff.2 ⟨holds, decide_eq_true rfl⟩⟩
      obtain ⟨g, member, pair, -⟩ := (mem_selected staging exact current).2 ⟨one, rfl⟩
      exact ⟨g, member, (congrArg Prod.snd pair).trans (of_decide_eq_true same)⟩
  have summed (present : source ∈ groups GoldRow.source (selected f s.lake.gold)) :
      sumOf (((selected f s.lake.gold).filter fun g => g.source = source).map GoldRow.unsubscribeCount) =
        some (eventsOn w fun p => f.selects p && p.2 = source).ncard := by
    obtain ⟨g, member, same⟩ := mem_groups.1 present
    rw [sumOf, if_neg, sums]
    intro empty
    have found : g ∈ (selected f s.lake.gold).filter fun g => g.source = source :=
      List.mem_filter.2 ⟨member, decide_eq_true same⟩
    have held := List.mem_map_of_mem (f := GoldRow.unsubscribeCount) found
    rw [List.isEmpty_iff.1 empty] at held
    cases held
  rw [← listed, sources, List.mem_map]
  constructor
  · rintro ⟨source', present, same⟩
    cases same
    exact ⟨present, summed present⟩
  · rintro ⟨present, rfl⟩
    exact ⟨source, present, by rw [summed present]⟩

include staging exact current in
theorem mem_daily {day : Option Date} {source : Option String} {n : Nat} :
    (day, source, n) ∈ daily f s.lake.gold ↔
      (eventsOn w fun p => f.selects p && p = (day, source)).Nonempty ∧
      n = (eventsOn w fun p => f.selects p && p = (day, source)).ncard := by
  simp only [daily, List.mem_map, mem_orderBy]
  constructor
  · rintro ⟨g, member, same⟩
    cases same
    obtain ⟨present, counts⟩ := (mem_selected staging exact current).1 ⟨g, member, rfl, rfl⟩
    exact ⟨present, congrArg Prod.fst counts⟩
  · rintro ⟨present, rfl⟩
    obtain ⟨g, member, pair, counts⟩ := (mem_selected staging exact current).2 ⟨present, rfl⟩
    cases pair
    exact ⟨g, member, congrArg (fun n => (g.eventDate, g.source, n)) (congrArg Prod.fst counts)⟩

include staging exact current in
theorem mem_unique {day : Option Date} {source : Option String} {readers writers : Nat} :
    (day, source, readers, writers) ∈ unique f s.lake.gold ↔
      (eventsOn w fun p => f.selects p && p = (day, source)).Nonempty ∧
      readers = (Driver.Event.userId '' eventsOn w fun p => f.selects p && p = (day, source)).ncard ∧
      writers = (Driver.Event.writerId '' eventsOn w fun p => f.selects p && p = (day, source)).ncard := by
  simp only [unique, List.mem_map, mem_orderBy]
  constructor
  · rintro ⟨g, member, same⟩
    cases same
    obtain ⟨present, counts⟩ := (mem_selected staging exact current).1 ⟨g, member, rfl, rfl⟩
    exact ⟨present, congrArg (fun c => c.2.1) counts, congrArg (fun c => c.2.2) counts⟩
  · rintro ⟨present, rfl, rfl⟩
    obtain ⟨g, member, pair, counts⟩ := (mem_selected staging exact current).2 ⟨present, rfl⟩
    cases pair
    exact ⟨g, member, congrArg (fun c => (g.eventDate, g.source, c)) (congrArg Prod.snd counts)⟩

include staging current in
/-- A selection has a row for a pair at most once, also under a key that tells pairs apart. -/
theorem unique_keys {κ : Type} {key : GoldRow → κ} (by_pair : ∀ g g', key g = key g' → g.pair = g'.pair) :
    ((selected f s.lake.gold).map key).Nodup := by
  have pairs := ((rollup_of_current staging current).selected f.selects).unique
  rw [List.nodup_iff_pairwise_ne, List.pairwise_map] at pairs ⊢
  exact pairs.imp fun apart same => apart (by_pair _ _ same)

include staging exact current in
theorem charts_of_current (f : Filters) : Charts w f s.lake.gold where
  total := (sumOf_getD _).trans (sum_chosen staging exact current f.selects)
  sources_once := by
    rw [sources, List.map_map]
    exact (List.map_id _).symm ▸ nodup_groups
  sources _ _ := mem_sources staging exact current
  daily_sorted := by
    rw [daily, List.pairwise_map]
    exact List.pairwise_map.1 (sorted_orderBy (unique_keys staging current fun _ _ same => toLex.injective same))
  daily _ _ _ := mem_daily staging exact current
  unique_sorted := by
    rw [unique, List.pairwise_map]
    exact List.pairwise_map.1 (sorted_orderBy (unique_keys staging current fun _ _ same => toLex.injective same))
  unique _ _ _ _ := mem_unique staging exact current

end Events

/-- The two events of the demo are of two days. -/
theorem pair_demo {e : Driver.Event} :
    (Driver.Same Driver.demoEvent.floored e → pairOfEvent e = (some 1, some "UI")) ∧
    (Driver.Same Driver.earlierEvent.floored e → pairOfEvent e = (some 0, some "UI")) := by
  constructor
  · intro same
    rw [pairOfEvent, same.requestedAt, same.source]
    decide
  · intro same
    rw [pairOfEvent, same.requestedAt, same.source]
    decide

end Tikblog.Metabase
