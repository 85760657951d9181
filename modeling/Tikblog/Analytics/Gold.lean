import Tikblog.Analytics.Dq

/-!
# Gold

`jobs/gold.py`: which dates need work, the refresh of a list of dates, and the freshness
measure. Both `touched` and `freshness` look for groups whose Silver rows are newer than
their Gold row, the one on the latest row of a group and the other row by row.
-/

namespace Tikblog.Analytics

open Python Program Table

/-- A group of Gold: `(event_date, source)`. -/
abbrev Pair := Option Date × Option String

def pairOf (row : Row) : Pair := (row.date .eventDate, row.string .source)

def GoldRow.pair (g : GoldRow) : Pair := (g.eventDate, g.source)

/-- The join condition on `event_date` and `source`: null joins nothing. -/
def Joins (p q : Pair) : Prop := p = q ∧ p.1 ≠ none ∧ p.2 ≠ none

instance (p q : Pair) : Decidable (Joins p q) := inferInstanceAs (Decidable (_ ∧ _))

/-- `gold_updated_at IS NULL OR time > gold_updated_at`. -/
def outdated (time : Option Instant) : Option GoldRow → Bool
  | none => true
  | some g =>
    match time with
    | some t => g.goldUpdatedAt < t
    | none => false

/-- The rows of a left join with Gold on the pair that are outdated. -/
def outdatedIn {α : Type} (left : List α) (gold : List GoldRow) (pair : α → Pair)
    (time : α → Option Instant) : List α :=
  ((leftJoin left gold fun a g => Joins (pair a) g.pair).filter fun r => outdated (time r.1) r.2).map (·.1)

/-! ## touched -/

/-- `max(silver_processed_at)` of each group. -/
def latest (silver : List Row) : List (Pair × Option Instant) :=
  (groups pairOf silver).map fun p =>
    (p, ((silver.filter fun row => pairOf row = p).filterMap (·.timestamp .silverProcessedAt)).max?)

/-- The groups `touched` finds pending. -/
def pendingGroups (silver : List Row) (gold : List GoldRow) : List Pair :=
  (outdatedIn (latest silver) gold (·.1) (·.2)).map (·.1)

/-- The dates of the rows processed in an interval. -/
def intervalDates (silver : List Row) (start stop : Instant) : List (Option Date) :=
  (silver.filter fun row =>
    match row.timestamp .silverProcessedAt with
    | some t => start ≤ t ∧ t < stop
    | none => false).map (·.date .eventDate)

/-- The dates of an interval, with an overlap before it, and of the pending groups. -/
def touchedDates (env : Env) (start stop : Instant) (silver : List Row) (gold : List GoldRow) :
    List (Option Date) :=
  let start := start - env.goldLookbackMinutes * 60 * microsPerSecond
  (intervalDates silver start stop ++ (pendingGroups silver gold).map (·.1)).dedup

def touched (env : Env) (start stop : Instant) : LakeM (List (Option Date)) := do
  let silver ← call .readSilver
  let gold ← call .readGold
  return touchedDates env start stop silver.rows gold

/-! ## refresh -/

/-- The counts of one group: rows, distinct readers, distinct writers. -/
def countsOf (rows : List Row) : Nat × Nat × Nat :=
  (rows.length, countDistinct .userId rows, countDistinct .writerId rows)

/-- The Gold row of one group of events. -/
def goldRow (events : List Row) (updatedAt : Instant) (p : Pair) : GoldRow :=
  let (count, readers, writers) := countsOf (events.filter fun row => pairOf row = p)
  { eventDate := p.1
    source := p.2
    unsubscribeCount := count
    uniqueReaders := readers
    uniqueWriters := writers
    goldUpdatedAt := updatedAt }

def goldRows (events : List Row) (updatedAt : Instant) : List GoldRow :=
  (groups pairOf events).map (goldRow events updatedAt)

/-- The Silver rows of the dates. -/
def eventsOf (silver : List Row) (dates : List Date) : List Row :=
  silver.filter fun row => row.date .eventDate ∈ dates.map some

inductive GoldCheck where
  | nonnegativeCount
  | readerBound
  | writerBound
  | silverReconciliation
  deriving DecidableEq, Repr

def GoldCheck.name : GoldCheck → String
  | nonnegativeCount => "nonnegative_count"
  | readerBound => "reader_bound"
  | writerBound => "writer_bound"
  | silverReconciliation => "silver_reconciliation"

def GoldCheck.all : List GoldCheck := [nonnegativeCount, readerBound, writerBound, silverReconciliation]

/-- A row of the full join of Gold with the counts: its source, and the two sides. -/
structure Reconciled where
  source : Option String
  gold : Option GoldRow
  silver : Option GoldRow

/-- The full join of the rows read back with the counts they were written from. -/
def reconcile (actual counts : List GoldRow) : List Reconciled :=
  (leftJoin actual counts fun g s => Joins g.pair s.pair).map (fun r => ⟨r.1.source, some r.1, r.2⟩) ++
    (counts.filter fun s => ¬ ∃ g ∈ actual, Joins g.pair s.pair).map fun s => ⟨s.source, none, some s⟩

def GoldCheck.rule (r : Reconciled) : GoldCheck → Option Bool
  | nonnegativeCount => r.gold.map fun g => (0 : Int) ≤ g.unsubscribeCount
  | readerBound => r.gold.map fun g => g.uniqueReaders ≤ g.unsubscribeCount
  | writerBound => r.gold.map fun g => g.uniqueWriters ≤ g.unsubscribeCount
  | silverReconciliation => do
    let g ← r.gold
    let s ← r.silver
    return g.unsubscribeCount = s.unsubscribeCount

def goldResults (env : Env) (runId : String) (joined : List Reconciled) : LakeM (List DqReport) := do
  let reports ← Prog.mapEach (groups (·.source) joined) fun source =>
    let rows := joined.filter fun r => r.source = source
    Prog.mapEach GoldCheck.all fun check =>
      let failed := (rows.filter fun r => !(check.rule r).getD false).length
      dqResult env runId "gold_refresh" "GOLD" source check.name rows.length failed false
  return reports.flatten

/-- The overwritten dates are read back, reconciled and measured. -/
def reportGold (env : Env) (dates : List Date) (events : List Row) (counts : List GoldRow) (runId : String) :
    LakeM Unit := do
  let gold ← call .readGold
  let actual := gold.filter fun g => g.eventDate ∈ dates.map some
  let results ← goldResults env runId (reconcile actual counts)
  let ready := events.flatMap fun row =>
    (actual.filter fun g => Joins (pairOf row) g.pair).map fun g => (row, g)
  let metrics ← latencyMetrics env ready (·.1.string .source)
    (fun r => (r.1.timestamp .requestedAt).map fun t => secondsOf r.2.goldUpdatedAt - secondsOf t)
    "e2e" runId "gold_refresh"
  writeDq env results
  writeMetrics env metrics

/-- `refresh`, inside the lock. -/
def refresh (env : Env) (dates : List Date) (runId : String) : LakeM Unit :=
  if dates.isEmpty then return ()
  else do
    let silver ← call .readSilver
    let events := eventsOf silver.rows dates
    let updatedAt ← call (.currentTimestamp .goldUpdatedAt)
    let gold := goldRows events updatedAt
    call (.overwriteGold dates gold)
    reportGold env dates events gold runId

/-! ## freshness -/

/-- The Silver rows `freshness` finds pending. -/
def pendingRows (silver : List Row) (gold : List GoldRow) : List Row :=
  outdatedIn silver gold pairOf (·.timestamp .silverProcessedAt)

/-- `unix_timestamp`: whole seconds. -/
def unixTimestamp (t : Instant) : Int := t / microsPerSecond

/-- The age of the oldest pending row of a source, zero where there is none. -/
def pendingAge (now : Instant) (pending : List Row) (source : String) : Int :=
  let ages := (pending.filter fun row => row.string .source = some source).filterMap fun row =>
    (row.timestamp .silverProcessedAt).map fun t => unixTimestamp now - unixTimestamp t
  ages.max?.getD 0

def freshness (env : Env) (runId : String) : LakeM Unit := do
  let silver ← call .readSilver
  let gold ← call .readGold
  let now ← call (.currentTimestamp .freshness)
  let pending := pendingRows silver.rows gold
  let rows ← Prog.mapEach sources fun source =>
    metric env runId "gold_refresh" (some source) "gold_freshness_seconds"
      (some (pendingAge now pending source)) "seconds"
  writeMetrics env rows
  let results ← Prog.mapEach rows fun r => do
    let late := r.status = .yellow ∨ r.status = .red
    let result ← dqResult env runId "gold_refresh" "GOLD" r.source "dashboard_freshness" 1
      (if late then 1 else 0) false
    return { result with status := r.status }
  writeDq env results

end Tikblog.Analytics
