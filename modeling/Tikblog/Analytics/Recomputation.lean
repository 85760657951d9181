import Tikblog.Analytics.Recording
import Tikblog.Analytics.Freshness

/-!
# A refresh recomputes its dates

The rows a refresh writes have one pair each, and none of their pairs has a null, so that the
full join of the rows with themselves pairs each with itself: the four checks find nothing.
`replaceWhere` leaves the rows of other dates, and the rows it leaves and writes depend on
Silver and the dates alone, but for the time they carry.
-/

namespace Tikblog.Analytics

open Python Program Table

/-! ## The rows written -/

/-- No null in the columns that Gold is computed from. -/
structure Countable (row : Row) : Prop where
  source : row.string .source ≠ none
  userId : row .userId ≠ none
  writerId : row .writerId ≠ none
  eventDate : row.date .eventDate ≠ none

section Written

variable {events : List Row} {updatedAt : Instant}

theorem nodup_goldRows (events : List Row) (updatedAt : Instant) :
    ((goldRows events updatedAt).map GoldRow.pair).Nodup := by
  rw [pairs_goldRows]
  exact nodup_groups

theorem goldRow_mem {row : Row} (updatedAt : Instant) (present : row ∈ events) :
    goldRow events updatedAt (pairOf row) ∈ goldRows events updatedAt :=
  mem_goldRows.2 ⟨row, present, rfl⟩

theorem bounds_goldRows {g : GoldRow} (member : g ∈ goldRows events updatedAt) :
    g.uniqueReaders ≤ g.unsubscribeCount ∧ g.uniqueWriters ≤ g.unsubscribeCount := by
  obtain ⟨row, _, rfl⟩ := mem_goldRows.1 member
  exact ⟨countDistinct_le .userId _, countDistinct_le .writerId _⟩

/-- A Gold row joined with itself. -/
def Reconciled.self (g : GoldRow) : Reconciled := ⟨g.source, some g, some g⟩

/-- The full join of such rows with themselves. -/
theorem reconcile_self (countable : ∀ row ∈ events, Countable row) :
    reconcile (goldRows events updatedAt) (goldRows events updatedAt) =
      (goldRows events updatedAt).map Reconciled.self := by
  have joins : ∀ g ∈ goldRows events updatedAt, ∀ s : GoldRow, Joins g.pair s.pair ↔ s.pair = g.pair := by
    intro g member s
    obtain ⟨row, present, rfl⟩ := mem_goldRows.1 member
    exact joins_iff (countable row present).eventDate (countable row present).source
  have unmatched : ((goldRows events updatedAt).filter fun s =>
      ¬ ∃ g ∈ goldRows events updatedAt, Joins g.pair s.pair) = [] := by
    apply List.filter_eq_nil_iff.2
    intro s member alone
    exact of_decide_eq_true alone ⟨s, member, (joins s member s).2 rfl⟩
  unfold reconcile
  have on_pair : ∀ g ∈ goldRows events updatedAt, ∀ s ∈ goldRows events updatedAt,
      decide (Joins g.pair s.pair) = decide (s.pair = g.pair) :=
    fun g member s _ => decide_eq_decide.2 (joins g member s)
  rw [leftJoin_self (nodup_goldRows events updatedAt) on_pair, unmatched, List.map_map, List.map_nil,
    List.append_nil]
  rfl

theorem rule_self {g : GoldRow} (readers : g.uniqueReaders ≤ g.unsubscribeCount)
    (writers : g.uniqueWriters ≤ g.unsubscribeCount) (check : GoldCheck) :
    check.rule (.self g) = some true := by
  cases check with
  | nonnegativeCount => simp [GoldCheck.rule, Reconciled.self]
  | readerBound => simp [GoldCheck.rule, Reconciled.self, readers]
  | writerBound => simp [GoldCheck.rule, Reconciled.self, writers]
  | silverReconciliation => simp [GoldCheck.rule, Reconciled.self]

end Written

/-! ## The results -/

section Results

variable {env : Env} {runId : String} {joined : List Reconciled}

theorem GoldCheck.mem_all (check : GoldCheck) : check ∈ GoldCheck.all := by
  cases check <;> decide

theorem mem_reconciledRows {row : DqResult} :
    row ∈ reconciledRows env runId joined ↔ ∃ r ∈ joined, ∃ check : GoldCheck,
      row = resultRow env runId "gold_refresh" "GOLD" r.source check.name
        (joined.filter fun r' => r'.source = r.source).length
        ((joined.filter fun r' => r'.source = r.source).filter fun r' => !(check.rule r').getD false).length
        false := by
  unfold reconciledRows
  rw [List.mem_flatMap]
  constructor
  · rintro ⟨source, listed, member⟩
    obtain ⟨r, present, rfl⟩ := mem_groups.1 listed
    obtain ⟨check, _, rfl⟩ := List.mem_map.1 member
    exact ⟨r, present, check, rfl⟩
  · rintro ⟨r, present, check, rfl⟩
    exact ⟨r.source, mem_groups.2 ⟨r, present, rfl⟩, List.mem_map.2 ⟨check, check.mem_all, rfl⟩⟩

/-- Where every row satisfies every check, none is reported. -/
theorem failedRows_reconciledRows (passes : ∀ r ∈ joined, ∀ check : GoldCheck, check.rule r = some true)
    {row : DqResult} (member : row ∈ reconciledRows env runId joined) : row.failedRows = 0 := by
  obtain ⟨r, _, check, rfl⟩ := mem_reconciledRows.1 member
  have none_fails : ((joined.filter fun r' => r'.source = r.source).filter
      fun r' => !(check.rule r').getD false) = [] := by
    apply List.filter_eq_nil_iff.2
    intro r' present fails
    rw [passes r' (List.mem_of_mem_filter present) check] at fails
    cases fails
  rw [none_fails]
  rfl

end Results

/-- A refresh of the dates from this Silver reports these rows: the four checks of every source
on the dates, none with a failed row. -/
structure CleanResults (dates : List Date) (runId : String) (silver : List Row) (rows : List DqResult) :
    Prop where
  clean : ∀ row ∈ rows, row.runId = runId ∧ row.failedRows = 0
  complete : ∀ event ∈ silver, event.date .eventDate ∈ dates.map some → ∀ check : GoldCheck, ∃ row ∈ rows,
    row.source = sourceOrUnknown (event.string .source) ∧ row.checkName = check.name

theorem CleanResults.nil {runId : String} {silver : List Row} : CleanResults [] runId silver [] :=
  ⟨fun _ member => (List.not_mem_nil member).elim, fun _ _ listed => (List.not_mem_nil listed).elim⟩

theorem CleanResults.of_undated {env : Env} {dates : List Date} {runId : String} {silver : List Row}
    {updatedAt : Instant} {reports : List DqReport} (countable : ∀ row ∈ silver, Countable row)
    (undated : Undated (reconciledRows env runId (reconcile (goldRows (eventsOf silver dates) updatedAt)
      (goldRows (eventsOf silver dates) updatedAt))) reports) :
    CleanResults dates runId silver (reports.map (·.toDqResult)) := by
  rw [reconcile_self fun row member => countable row (mem_eventsOf.1 member).1] at undated
  constructor
  · intro row member
    obtain ⟨report, reported, rfl⟩ := List.mem_map.1 member
    have found := undated.mem reported
    obtain ⟨r, _, check, same⟩ := mem_reconciledRows.1 found
    have passes : ∀ r ∈ (goldRows (eventsOf silver dates) updatedAt).map Reconciled.self,
        ∀ check : GoldCheck, check.rule r = some true := by
      intro r present check
      obtain ⟨g, written, rfl⟩ := List.mem_map.1 present
      exact rule_self (bounds_goldRows written).1 (bounds_goldRows written).2 check
    have zero := failedRows_reconciledRows passes found
    exact ⟨congrArg DqResult.runId same, zero⟩
  · intro event present listed check
    have written := goldRow_mem updatedAt (mem_eventsOf.2 ⟨present, listed⟩)
    have joined := List.mem_map_of_mem (f := Reconciled.self) written
    have found := (@mem_reconciledRows env runId _ _).2 ⟨_, joined, check, rfl⟩
    rw [← undated] at found
    obtain ⟨report, reported, same⟩ := List.mem_map.1 found
    exact ⟨report.toDqResult, List.mem_map_of_mem reported, congrArg DqResult.source same,
      congrArg DqResult.checkName same⟩

/-! ## The run -/

section Run

variable {env : Env} {dates : List Date} {runId : String} {s₀ s : World}

theorem filter_replaceDates {gold rows : List GoldRow} (listed : ∀ g ∈ rows, g.eventDate ∈ dates.map some) :
    ((replaceDates gold dates rows).filter fun g => g.eventDate ∈ dates.map some) = rows := by
  unfold replaceDates
  have written : (rows.filter fun g => g.eventDate ∈ dates.map some) = rows :=
    List.filter_eq_self.2 fun g member => decide_eq_true (listed g member)
  rw [List.filter_append, List.filter_filter, written]
  have none_left : (gold.filter fun g =>
      decide (g.eventDate ∈ dates.map some) && decide (g.eventDate ∉ dates.map some)) = [] := by
    apply List.filter_eq_nil_iff.2
    intro g _
    simp
  rw [none_left, List.nil_append]

/-- Rows of other dates are kept. -/
theorem filter_replaceDates_other {gold rows : List GoldRow} {p : GoldRow → Bool}
    (other : ∀ g, p g = true → g.eventDate ∉ dates.map some)
    (listed : ∀ g ∈ rows, g.eventDate ∈ dates.map some) :
    (replaceDates gold dates rows).filter p = gold.filter p := by
  unfold replaceDates
  have none_written : rows.filter p = [] := by
    apply List.filter_eq_nil_iff.2
    intro g member kept
    exact other g kept (listed g member)
  rw [List.filter_append, none_written, List.append_nil, List.filter_filter]
  apply List.filter_congr
  intro g _
  cases kept : p g with
  | false => rfl
  | true => exact decide_eq_true (other g kept)

theorem listed_goldRows {silver : List Row} {updatedAt : Instant} :
    ∀ g ∈ goldRows (eventsOf silver dates) updatedAt, g.eventDate ∈ dates.map some := by
  intro g member
  obtain ⟨row, present, rfl⟩ := mem_goldRows.1 member
  exact (mem_eventsOf.1 present).2

/-- An overwrite is of the dates, and its rows satisfy the predicate of `replaceWhere`. -/
def OverwritesListed (dates : List Date) : LakeOp → Prop
  | .overwriteGold written rows => written = dates ∧ ∀ g ∈ rows, g.eventDate ∈ dates.map some
  | _ => True

theorem overwritesListed_refresh (env : Env) (dates : List Date) (runId : String) :
    (refresh env dates runId).Uses (OverwritesListed dates) := by
  apply uses_refresh_of env runId ?_ trivial trivial (fun _ _ => ⟨rfl, listed_goldRows⟩) trivial
  intro o reporting
  cases reporting <;> trivial

/-- The results of the refresh are written. -/
structure GoldRecorded (env : Env) (dates : List Date) (runId : String) (s₀ : World) (updatedAt : Instant)
    (reports : List DqReport) (s : World) : Prop where
  undated : Undated (reconciledRows env runId (reconcile (goldRows (eventsOf s₀.silver.rows dates) updatedAt)
    (goldRows (eventsOf s₀.silver.rows dates) updatedAt))) reports
  results : s.dqResults = insertNew DqResult.key s₀.dqResults (reports.map (·.toDqResult))

theorem GoldRecorded.stable {updatedAt : Instant} {reports : List DqReport} (s t : World)
    (h : GoldRecorded env dates runId s₀ updatedAt reports s) (results : t.dqResults = s.dqResults)
    (_ : t.checkedAt = s.checkedAt) : GoldRecorded env dates runId s₀ updatedAt reports t :=
  ⟨h.undated, results.trans h.results⟩

theorem settled_writeMetrics (env : Env) (rows : List MetricReport) : (writeMetrics env rows).Uses Settled :=
  Prog.Uses.bind (uses_records (uses_call trivial)) fun _ => settled_emitAlerts ..

/-- No dates, no change. -/
theorem refresh_nil {p : LakeM Unit} {t : World}
    (run : Prog.Run (LakeExec runId) (refresh env [] runId, s) (p, t)) : t = s :=
  congrArg Prod.snd (Prog.Run.eq_of_done run)

/-- How a refresh ends. -/
abbrev GoldRecordEnded (env : Env) (dates : List Date) (runId : String) (s₀ : World)
    (r : Except PyException Unit) (s : World) : Prop :=
  r = .ok () → ∃ updatedAt reports, GoldRecorded env dates runId s₀ updatedAt reports s

theorem GoldRecordEnded.failed (e : PyException) (s : World) (_ : True) :
    GoldRecordEnded env dates runId s₀ (.error e) s := by
  intro returned
  cases returned

theorem always_refresh_records (env : Env) (runId : String) (s₀ : World) (nonempty : dates ≠ []) :
    Prog.Always (LakeExec runId) (fun _ _ => True) (GoldRecordEnded env dates runId s₀)
      (refresh env dates runId) s₀ := by
  unfold refresh
  rw [if_neg (by rwa [List.isEmpty_iff])]
  apply always_call (P := fun (silver : Frame) t => silver = s₀.silver ∧ t.dqResults = s₀.dqResults)
    GoldRecordEnded.failed trivial
  · intro silver t took
    cases took
    exact ⟨rfl, rfl⟩
  · exact fun _ _ _ => trivial
  rintro _ s ⟨rfl, h⟩
  apply always_call (P := fun _ t => t.dqResults = s₀.dqResults) GoldRecordEnded.failed trivial
  · intro updatedAt t took
    cases took
    exact h
  · exact fun _ _ _ => trivial
  intro updatedAt s h
  let gold := goldRows (eventsOf s₀.silver.rows dates) updatedAt
  apply always_call (P := fun _ t => t.dqResults = s₀.dqResults ∧
    ∃ before, t.gold = replaceDates before dates gold) GoldRecordEnded.failed trivial
  · intro _ t took
    cases took
    exact ⟨h, _, rfl⟩
  · exact fun _ _ _ => trivial
  rintro _ s ⟨h, before, written⟩
  unfold reportGold
  apply always_call (P := fun (actual : List GoldRow) t => t.dqResults = s₀.dqResults ∧
    actual = replaceDates before dates gold) GoldRecordEnded.failed trivial
  · intro actual t took
    cases took
    exact ⟨h, written⟩
  · exact fun _ _ _ => trivial
  rintro _ s ⟨h, rfl⟩
  have actual : ((replaceDates before dates gold).filter fun g => g.eventDate ∈ dates.map some) = gold :=
    filter_replaceDates listed_goldRows
  dsimp only
  rw [actual]
  apply always_timed (I := fun t => t.dqResults = s₀.dqResults) (yields_reconciledRows ..) (fun _ _ h => h)
    GoldRecordEnded.failed h fun _ _ => trivial
  intro reports s undated h
  apply always_timed (I := fun t => t.dqResults = s₀.dqResults) (yields_latencyMetrics ..) (fun _ _ h => h)
    GoldRecordEnded.failed h fun _ _ => trivial
  intro metrics s _ h
  apply Prog.Always.seq (always_writeDq (J := GoldRecorded env dates runId s₀ updatedAt reports)
    (G := fun _ => True) GoldRecorded.stable trivial ⟨undated, by rw [h]⟩ fun _ _ => trivial)
  rintro (e | ⟨⟩) t ⟨_, recorded⟩
  · exact GoldRecordEnded.failed e t trivial
  · exact (always_settled GoldRecorded.stable (settled_writeMetrics ..) (recorded rfl)).mono
      (fun _ _ _ => trivial) fun _ _ h _ => ⟨_, _, h⟩

end Run

/-! ## A refresh returns -/

/-- The call has not raised. -/
def Answered (o : LakeOp) (a : o.Answer) : Prop := ∃ result, a = .ok result

section Returns

variable {env : Env} {runId : String}

theorem returns_call (o : LakeOp) : (call o).Returns Answered := by
  rintro a ⟨result, rfl⟩
  exact ⟨result, rfl⟩

theorem returns_records {ρ : Type} {insert : List ρ → LakeM Unit} {rows : List ρ}
    (h : (insert rows).Returns Answered) : (records insert rows).Returns Answered := by
  unfold records
  split
  · exact ⟨(), rfl⟩
  · exact h

theorem returns_emitAlerts (env : Env) (rows : List Report) (kind : String) :
    (emitAlerts env rows kind).Returns Answered := by
  unfold emitAlerts
  refine Prog.Returns.bind (Prog.Returns.mapEach ?_) fun alerts => returns_records (returns_call _)
  intro row _
  exact (returns_call _).bind fun createdAt => ⟨_, rfl⟩

theorem returns_writeDq (env : Env) (rows : List DqReport) : (writeDq env rows).Returns Answered :=
  (returns_records (returns_call _)).bind fun _ => returns_emitAlerts ..

theorem returns_writeMetrics (env : Env) (rows : List MetricReport) :
    (writeMetrics env rows).Returns Answered :=
  (returns_records (returns_call _)).bind fun _ => returns_emitAlerts ..

theorem returns_goldResults (env : Env) (runId : String) (joined : List Reconciled) :
    (goldResults env runId joined).Returns Answered := by
  unfold goldResults
  refine Prog.Returns.bind (Prog.Returns.mapEach fun source _ => Prog.Returns.mapEach fun check _ => ?_)
    fun reports => ⟨_, rfl⟩
  exact (returns_call _).bind fun checkedAt => ⟨_, rfl⟩

/-- Every source has a value. -/
theorem returns_latencyMetrics {ρ : Type} {rows : List ρ} {source : ρ → Option String}
    {expression : ρ → Option ℚ} {name pipeline : String}
    (present : ∀ r ∈ rows, ∃ r' ∈ rows, source r' = source r ∧ expression r' ≠ none) :
    (latencyMetrics env rows source expression name runId pipeline).Returns Answered := by
  unfold latencyMetrics
  refine Prog.Returns.bind (Prog.Returns.mapEach fun group listed => ?_) fun reports => ⟨_, rfl⟩
  obtain ⟨r, member, rfl⟩ := mem_groups.1 listed
  obtain ⟨r', member', same, value⟩ := present r member
  obtain ⟨v, value⟩ := Option.ne_none_iff_exists'.1 value
  have found : v ∈ (rows.filter fun row => source row = source r).filterMap expression :=
    List.mem_filterMap.2 ⟨r', List.mem_filter.2 ⟨member', decide_eq_true same⟩, value⟩
  dsimp only
  rw [if_neg fun empty => by rw [List.isEmpty_iff.1 empty] at found; cases found]
  refine Prog.Returns.bind ((returns_call _).bind fun observedAt => ⟨_, rfl⟩) fun first => ?_
  exact Prog.Returns.bind ((returns_call _).bind fun observedAt => ⟨_, rfl⟩) fun second => ⟨_, rfl⟩

/-- The calls of an execution in which none raises. -/
abbrev Answering (runId : String) : Exec LakeOp LakeOp.Answer World :=
  Keeping runId fun o _ a _ => Answered o a

theorem always_answered_call {o : LakeOp} {α : Type} {f : o.Result → LakeM α} {s : World}
    {Q : Except PyException α → World → Prop}
    (next : ∀ a t, Effect runId o s a t → Prog.Always (Answering runId) (fun _ _ => True) Q (f a) t) :
    Prog.Always (Answering runId) (fun _ _ => True) Q ((call o).bind f) s := by
  unfold call
  refine Prog.Always.bind (Prog.Always.bind (Prog.Always.perform trivial ?_))
  rintro r t ⟨performed, result, rfl⟩
  cases performed with
  | answered took => exact next result t took

/-- Every source that Silver has on the dates has an event there with a `requested_at`. -/
def SourcesTimed (dates : List Date) (silver : List Row) : Prop :=
  ∀ row ∈ eventsOf silver dates, ∃ row' ∈ eventsOf silver dates,
    row'.string .source = row.string .source ∧ row'.timestamp .requestedAt ≠ none

/-- Where no call raises, the refresh returns. -/
theorem always_refresh_returns (env : Env) {dates : List Date} (runId : String) {s : World}
    (countable : ∀ row ∈ s.silver.rows, Countable row) (timed : SourcesTimed dates s.silver.rows) :
    Prog.Always (Answering runId) (fun _ _ => True) (fun r _ => ∃ u, r = .ok u)
      (refresh env dates runId) s := by
  unfold refresh
  split
  · exact ⟨(), rfl⟩
  apply always_answered_call
  rintro _ s ⟨⟩
  apply always_answered_call
  intro updatedAt t took
  apply always_answered_call
  rintro _ u ⟨⟩
  unfold reportGold
  apply always_answered_call
  rintro _ v ⟨⟩
  dsimp only
  rw [filter_replaceDates listed_goldRows]
  apply Prog.Returns.always fun _ _ _ _ performed => performed.2
  apply (returns_goldResults ..).bind
  intro results
  refine (returns_latencyMetrics ?_).bind fun metrics =>
    (returns_writeDq ..).bind fun _ => returns_writeMetrics ..
  intro r ready
  obtain ⟨row, present, paired⟩ := List.mem_flatMap.1 ready
  obtain ⟨g, _, rfl⟩ := List.mem_map.1 paired
  obtain ⟨row', present', same, time⟩ := timed row present
  have key := countable row' (mem_eventsOf.1 present').1
  have written := goldRow_mem updatedAt present'
  have joins : Joins (pairOf row') (goldRow (eventsOf s.silver.rows dates) updatedAt (pairOf row')).pair :=
    (joins_iff key.eventDate key.source).2 rfl
  refine ⟨(row', _), List.mem_flatMap.2 ⟨row', present', List.mem_map.2
    ⟨_, List.mem_filter.2 ⟨written, decide_eq_true joins⟩, rfl⟩⟩, same, ?_⟩
  rwa [Ne, Option.map_eq_none_iff]

end Returns

/-! ## What it has done -/

/-- Gold on the dates is computed from Silver; on other dates it is as it was. -/
structure Recomputed (dates : List Date) (silver : List Row) (before after : List GoldRow) : Prop where
  listed : ∀ row ∈ silver, row.date .eventDate ∈ dates.map some →
    ∃ g, (after.filter fun g => g.pair = pairOf row) = [g] ∧
      g.unsubscribeCount = (rowsOf silver (pairOf row)).length ∧
      g.uniqueReaders = ((rowsOf silver (pairOf row)).map (· .userId)).dedup.length ∧
      g.uniqueWriters = ((rowsOf silver (pairOf row)).map (· .writerId)).dedup.length
  only : ∀ g ∈ after, g.eventDate ∈ dates.map some → ∃ row ∈ silver, pairOf row = g.pair
  other : (after.filter fun g => g.eventDate ∉ dates.map some) =
    before.filter fun g => g.eventDate ∉ dates.map some

/-- A Gold row without its time. -/
def GoldRow.unstamped (g : GoldRow) : GoldRow := { g with goldUpdatedAt := 0 }

theorem unstamped_goldRows (events : List Row) (updatedAt updatedAt' : Instant) :
    (goldRows events updatedAt).map GoldRow.unstamped =
      (goldRows events updatedAt').map GoldRow.unstamped := by
  unfold goldRows
  rw [List.map_map, List.map_map]
  rfl

section Completed

variable {dates : List Date} {s₀ s t : World}

theorem Refreshed.recomputed {updatedAt : Instant} (h : Refreshed dates s₀ updatedAt s)
    (countable : ∀ row ∈ s₀.silver.rows, Countable row) : Recomputed dates s₀.silver.rows s₀.gold s.gold := by
  constructor
  · intro row present listed
    have counts : countsAt s.gold (pairOf row) = [countsOf (rowsOf s₀.silver.rows (pairOf row))] := by
      have found : row ∈ rowsOf s₀.silver.rows (pairOf row) := List.mem_filter.2 ⟨present, decide_eq_true rfl⟩
      have some_rows : (rowsOf s₀.silver.rows (pairOf row)).isEmpty = false :=
        List.isEmpty_eq_false_iff_exists_mem.2 ⟨row, found⟩
      rw [h.listed listed, aggregateAt, some_rows]
      rfl
    obtain ⟨g, only, values⟩ := List.map_eq_singleton_iff.1 counts
    have group : ∀ row' ∈ rowsOf s₀.silver.rows (pairOf row), Countable row' :=
      fun row' member => countable row' (List.mem_of_mem_filter member)
    refine ⟨g, only, congrArg Prod.fst values, ?_, ?_⟩
    · rw [← countDistinct_eq fun row' member => (group row' member).userId]
      exact congrArg (·.2.1) values
    · rw [← countDistinct_eq fun row' member => (group row' member).writerId]
      exact congrArg (·.2.2) values
  · intro g member listed
    rw [h.gold] at member
    obtain ⟨_, kept⟩ | written := mem_replaceDates.1 member
    · exact absurd listed kept
    · obtain ⟨row, present, rfl⟩ := mem_goldRows.1 written
      exact ⟨row, (mem_eventsOf.1 present).1, rfl⟩
  · rw [h.gold]
    exact filter_replaceDates_other (fun g other => of_decide_eq_true other) listed_goldRows

/-- A refresh that has returned has recomputed its dates. -/
theorem RefreshCompleted.recomputed (h : RefreshCompleted dates s₀ s)
    (countable : ∀ row ∈ s₀.silver.rows, Countable row) :
    s.silver = s₀.silver ∧ Recomputed dates s₀.silver.rows s₀.gold s.gold := by
  obtain ⟨rfl, begun⟩ | ⟨updatedAt, refreshed⟩ := h
  · refine ⟨begun.silver, ?_⟩
    rw [begun.gold]
    constructor
    · intro row _ listed
      cases listed
    · intro g _ listed
      cases listed
    · rfl
  · exact ⟨refreshed.silver, refreshed.recomputed countable⟩

theorem RefreshCompleted.unstamped_gold (h : RefreshCompleted dates s₀ s) :
    s.gold.map GoldRow.unstamped =
      (s₀.gold.filter fun g => g.eventDate ∉ dates.map some).map GoldRow.unstamped ++
      (goldRows (eventsOf s₀.silver.rows dates) 0).map GoldRow.unstamped := by
  obtain ⟨rfl, begun⟩ | ⟨updatedAt, refreshed⟩ := h
  · rw [begun.gold]
    simp [eventsOf, goldRows, groups]
  · rw [refreshed.gold, replaceDates, List.map_append, unstamped_goldRows _ updatedAt 0]

/-- A second refresh from the same Silver changes the time of its rows only. -/
theorem RefreshCompleted.again {s' t : World} (h : RefreshCompleted dates s₀ s)
    (countable : ∀ row ∈ s₀.silver.rows, Countable row) (silver : s'.silver = s.silver)
    (gold : s'.gold = s.gold) (again : RefreshCompleted dates s' t) :
    t.silver = s.silver ∧ t.gold.map GoldRow.unstamped = s.gold.map GoldRow.unstamped := by
  obtain ⟨kept, recomputed⟩ := h.recomputed countable
  obtain ⟨kept', _⟩ := again.recomputed fun row member => countable row (by rwa [silver, kept] at member)
  refine ⟨kept'.trans silver, ?_⟩
  rw [again.unstamped_gold, h.unstamped_gold, silver, gold, kept, recomputed.other]

end Completed

/-- **A refresh recomputes its dates.** Whatever Silver (with no null in the columns that Gold
is computed from), Gold and the dates: an overwrite is of rows that satisfy the predicate of
`replaceWhere`, and no dates, no change. A refresh that returns has left Silver as it was,
recomputed Gold on the dates, changed no row of another date, and reported the four checks of
every source with no failed row; a second one from the same Silver changes the times only.
Where no call raises, it returns, if every source has a `requested_at` on the dates. -/
theorem refresh_recomputes {env : Env} {dates : List Date} {runId : String} {s : World}
    (countable : ∀ row ∈ s.silver.rows, Countable row) :
    (∀ o next t, Prog.Run (LakeExec runId) (refresh env dates runId, s) (.op o next, t) →
      OverwritesListed dates o) ∧
    (dates = [] → ∀ p t, Prog.Run (LakeExec runId) (refresh env dates runId, s) (p, t) → t = s) ∧
    (∀ t, Prog.Run (LakeExec runId) (refresh env dates runId, s) (.done (.ok ()), t) →
      t.silver = s.silver ∧ Recomputed dates s.silver.rows s.gold t.gold ∧
      (∃ rows, t.dqResults = insertNew DqResult.key s.dqResults rows ∧
        CleanResults dates runId s.silver.rows rows) ∧
      ∀ runId' s' t', s'.silver = t.silver → s'.gold = t.gold →
        Prog.Run (LakeExec runId') (refresh env dates runId', s') (.done (.ok ()), t') →
        t'.silver = t.silver ∧ t'.gold.map GoldRow.unstamped = t.gold.map GoldRow.unstamped) ∧
    (SourcesTimed dates s.silver.rows → ∀ r t,
      Prog.Run (Answering runId) (refresh env dates runId, s) (.done r, t) → r = .ok ()) := by
  refine ⟨?_, ?_, ?_, ?_⟩
  · intro o next t run
    exact (overwritesListed_refresh env dates runId).of_run run
  · rintro rfl p t run
    exact refresh_nil run
  · intro t run
    have completed := ((refresh_stages env dates runId s).post_of_run run).2 rfl
    obtain ⟨silver, recomputed⟩ := completed.recomputed countable
    refine ⟨silver, recomputed, ?_, ?_⟩
    · by_cases empty : dates = []
      · subst empty
        refine ⟨[], ?_, CleanResults.nil⟩
        rw [refresh_nil run]
        exact (List.append_nil _).symm
      · obtain ⟨updatedAt, reports, recorded⟩ :=
          (always_refresh_records env runId s empty).post_of_run run rfl
        exact ⟨_, recorded.results, CleanResults.of_undated countable recorded.undated⟩
    · intro runId' s' t' silver gold run'
      have completed' := ((refresh_stages env dates runId' s').post_of_run run').2 rfl
      exact completed.again countable silver gold completed'
  · intro timed r t run
    obtain ⟨u, rfl⟩ := (always_refresh_returns env runId countable timed).post_of_run run
    rfl

/-- Gold before its first refresh: a row of the date whose source Silver does not have, and one
of another date. -/
def demoOutdated : World :=
  { demoLake with gold := [⟨some 0, some "LEGAL", 2, 2, 1, 3⟩, ⟨some 4, some "UI", 1, 1, 1, 3⟩] }

theorem refresh_recomputes_demo :
    let t := (Prog.eval (perform "gold") (refresh demoEnv [0] "gold") demoOutdated).2
    Recomputed [0] demoOutdated.silver.rows demoOutdated.gold t.gold ∧
      t.gold.map GoldRow.unstamped = [⟨some 4, some "UI", 1, 1, 1, 0⟩, ⟨some 0, some "UI", 1, 1, 1, 0⟩] ∧
      (t.dqResults.filter fun row => row.runId = "gold").map (·.failedRows) = [0, 0, 0, 0] := by
  have countable : ∀ row ∈ demoOutdated.silver.rows, Countable row := by
    have columns : ∀ row ∈ demoOutdated.silver.rows, row.string .source ≠ none ∧ row .userId ≠ none ∧
        row .writerId ≠ none ∧ row.date .eventDate ≠ none := by decide +kernel
    intro row member
    obtain ⟨source, userId, writerId, eventDate⟩ := columns row member
    exact ⟨source, userId, writerId, eventDate⟩
  have run := @run_returned "gold" (refresh demoEnv [0] "gold") demoOutdated (by decide +kernel)
  have refreshed := (refresh_recomputes countable).2.2.1 _ run
  exact ⟨refreshed.2.1, by decide +kernel, by decide +kernel⟩

end Tikblog.Analytics
