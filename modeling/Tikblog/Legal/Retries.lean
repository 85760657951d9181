import Tikblog.Analytics.Freshness
import Tikblog.Legal.Runs

/-!
# How often a row counts

A row may reach the topic more than once, since every attempt builds its event anew, with a
fresh id (`row_counted_twice`); but no more often than its file was opened, and a processed
file is not opened again. Silver keeps one row for an event id, and Gold counts Silver rows,
so neither counts a row of a file more often than that (`row_contributes_per_opening`).
-/

namespace Tikblog.Legal

open Python Contracts Kafka Program

variable {lib : Library} {avro : UnsubscribeEvent → Bytes} {zone : LandingZone}
  {settings : ProducerSettings} {s : World} {name : String} {line : Nat}

/-- The event ids under which a row of a file is on the topic. -/
def World.eventIds (s : World) (name : String) (line : Nat) : List String :=
  ((s.kafka.topic.filter fun m => m.tag.IsRow name line).map fun m => m.tag.event.eventId).dedup

/-- The Silver row holds an event that was sent for the row of the file. -/
def World.Holds (s : World) (name : String) (line : Nat) (row : Analytics.Row) : Prop :=
  ∃ id ∈ s.eventIds name line, row .eventId = some (.string id)

instance (s : World) (name : String) (line : Nat) : DecidablePred (s.Holds name line) := fun _ =>
  inferInstanceAs (Decidable (∃ id ∈ s.eventIds name line, _))

/-- How many of the rows hold an event of the row of the file. -/
def World.copies (s : World) (name : String) (line : Nat) (rows : List Analytics.Row) : Nat :=
  rows.countP fun row => s.Holds name line row

theorem eventIds_length_le (h : (ingestion lib avro zone settings).Reachable s) (name : String) (line : Nat) :
    (s.eventIds name line).length ≤ s.opened (zone.inboxKey name) := by
  calc (s.eventIds name line).length
      ≤ ((s.kafka.topic.filter fun m => m.tag.IsRow name line).map fun m => m.tag.event.eventId).length :=
        (List.dedup_sublist _).length_le
    _ = s.kafka.topic.countP fun m => m.tag.IsRow name line := by
        rw [List.length_map, List.countP_eq_length_filter]
    _ ≤ s.sentFor name line := (reachable_topic h).countP_le _
    _ ≤ s.opened (zone.inboxKey name) := (reachable_inv h).counted name line

/-- Where the event id is a key, there is at most one row for each event id. -/
theorem copies_le {rows : List Analytics.Row} (unique : (rows.map (· .eventId)).Nodup) :
    s.copies name line rows ≤ (s.eventIds name line).length := by
  have holding : ((rows.filter fun row => s.Holds name line row).map (· .eventId)).Nodup :=
    unique.sublist (List.filter_sublist.map _)
  have among : (rows.filter fun row => s.Holds name line row).map (· .eventId) ⊆
      (s.eventIds name line).map fun id => some (Analytics.Value.string id) := by
    intro value member
    obtain ⟨row, hrow, rfl⟩ := List.mem_map.1 member
    obtain ⟨id, hid, same⟩ := of_decide_eq_true (List.mem_filter.1 hrow).2
    exact List.mem_map.2 ⟨id, hid, same.symm⟩
  have bound := (holding.subperm among).length_le
  rw [List.length_map, List.length_map] at bound
  unfold World.copies
  rw [List.countP_eq_length_filter]
  exact bound

theorem copies_mono {rows rows' : List Analytics.Row} (h : rows.Sublist rows') :
    s.copies name line rows ≤ s.copies name line rows' :=
  h.countP_le

/-- A Gold row counts the rows of its group in an earlier Silver. -/
theorem counted_rows {l : Analytics.World} (inv : Analytics.GoldInvariant l) {g : Analytics.GoldRow}
    (hg : g ∈ l.gold) :
    ∃ old, old <+: l.silver.rows ∧ g.unsubscribeCount = (Analytics.rowsOf old g.pair).length := by
  obtain ⟨old, new, rows, _, _, value⟩ := inv.taken g hg
  refine ⟨old, ?_, congrArg Prod.fst value⟩
  rw [rows]
  exact List.prefix_append old new

/-- **A row contributes one event id per opening of its file.** The messages of the topic are
the encoded events of their rows; a row is among them under at most as many event ids as its
file was opened, and a run opens a file only while it is not processed. In whatever state the
lake is, Silver has at most as many rows for the row, and so have the rows a Gold row counts. -/
theorem row_contributes_per_opening (lib : Library) (avro : UnsubscribeEvent → Bytes)
    (zone : LandingZone) (settings : ProducerSettings) {s : World}
    (h : (ingestion lib avro zone settings).Reachable s) :
    (∀ m ∈ s.kafka.topic, m.value = avro m.tag.event) ∧
    (∀ name line, (s.eventIds name line).length ≤ s.opened (zone.inboxKey name)) ∧
    (∀ rounds key k t, (ingestion lib avro zone settings).Session rounds s (.op (.openStream key) k) t →
      ∃ name, key = zone.inboxKey name ∧ t.objects (zone.processedKey name) = none) ∧
    ∀ (env : Analytics.Env) (l : Analytics.World),
      (Analytics.lake env (· < ·) Analytics.OnBronze).Reachable l → ∀ name line,
        s.copies name line l.silver.rows ≤ s.opened (zone.inboxKey name) ∧
        ∀ g ∈ l.gold, ∃ old, old <+: l.silver.rows ∧
          g.unsubscribeCount = (Analytics.rowsOf old g.pair).length ∧
          s.copies name line (Analytics.rowsOf old g.pair) ≤ s.opened (zone.inboxKey name) := by
  refine ⟨?_, eventIds_length_le h, ?_, ?_⟩
  · intro m member
    exact (reachable_inv h).tagged m ((reachable_topic h).subset member)
  · intro rounds key k t session
    obtain ⟨name, -, same, absent⟩ := (session_spec h session).1.opens key rfl
    exact ⟨name, same, absent⟩
  · intro env l reachable name line
    have silver : s.copies name line l.silver.rows ≤ s.opened (zone.inboxKey name) :=
      le_trans (copies_le (Analytics.silverInvariant reachable).unique) (eventIds_length_le h name line)
    refine ⟨silver, ?_⟩
    intro g hg
    obtain ⟨old, earlier, count⟩ := counted_rows (Analytics.goldInvariant reachable) hg
    have among : (Analytics.rowsOf old g.pair).Sublist l.silver.rows :=
      List.filter_sublist.trans earlier.sublist
    exact ⟨old, earlier, count, le_trans (copies_mono among) silver⟩

/-! ## Two runs over one file -/

/-- A run that stops after its first event was confirmed, and one to the end. -/
def demoTwice : World := demoRun 30 (demoRun 11 demoStart)

theorem demoTwice_reachable : demo.Reachable demoTwice := by
  have stopped := demoRun_reachable demoStart_reachable demoStart_inv 11
  exact (demoRun_reachable stopped.1 stopped.2 30).1

theorem row_contributes_per_opening_demo :
    (demoTwice.eventIds "batch.csv" 2).length ≤ demoTwice.opened "legal_inbox/batch.csv" :=
  (row_contributes_per_opening demoLibrary (toBytes 1) .defaults demoSettings
    demoTwice_reachable).2.1 "batch.csv" 2

/-- **A row can count twice.** The first run stops after Kafka has confirmed the event of the
row and before the file moves; the next run reads the file again and sends the row under a new
event id. -/
theorem row_counted_twice :
    ∃ s, demo.Reachable s ∧ (s.eventIds "batch.csv" 2).length = 2 :=
  ⟨demoTwice, demoTwice_reachable, by decide⟩

end Tikblog.Legal
