import Tikblog.Program.Prog
import Tikblog.Analytics.Tables

/-!
# The lake

The tables, the clock, and what each call of the jobs on Spark does to them. A call raises
or answers; one that raises may have taken effect, since a commit can succeed without its
caller learning of it. `insert_once` is one call here: its retries are attempts at the same
commit. Caching and printing touch nothing the jobs read and are left out.

`checkedAt` and `inserted` are history that no job reads: when the checks of the latest
batch read the clock, and which run inserted each Silver row.
-/

namespace Tikblog.Analytics

open Python Program

structure World where
  clock : Instant
  silver : Frame
  gold : List GoldRow
  quarantine : List QuarantineRow
  dqResults : List DqResult
  metrics : List MetricRow
  alerts : List AlertRow
  checkedAt : Instant
  inserted : List (String × Row)

/-- What a clock reading of Spark is for. -/
inductive Reading where
  | checks
  | quarantinedAt
  | silverProcessedAt
  | goldUpdatedAt
  | freshness
  deriving DecidableEq, Repr

inductive LakeOp where
  | currentTimestamp (purpose : Reading)
  | utcnow
  | readSilver
  | readGold
  | dropDuplicates (frame : Frame)
  | insertQuarantine (rows : List QuarantineRow)
  | insertDqResults (rows : List DqResult)
  | insertMetrics (rows : List MetricRow)
  | insertAlerts (rows : List AlertRow)
  | mergeSilver (frame : Frame)
  | overwriteGold (dates : List Date) (rows : List GoldRow)

abbrev LakeOp.Result : LakeOp → Type
  | currentTimestamp _ => Instant
  | utcnow => Instant
  | readSilver => Frame
  | readGold => List GoldRow
  | dropDuplicates _ => Frame
  | insertQuarantine _ => Unit
  | insertDqResults _ => Unit
  | insertMetrics _ => Unit
  | insertAlerts _ => Unit
  | mergeSilver _ => Unit
  | overwriteGold _ _ => Unit

abbrev LakeOp.Answer (o : LakeOp) : Type := Except PyException o.Result

abbrev LakeM := Prog LakeOp LakeOp.Answer PyException

/-- Make one call: return its result or raise its exception. -/
def call (o : LakeOp) : LakeM o.Result := (Prog.perform o).bind Prog.ofExcept

/-- `replaceWhere`: the rows of the dates give way to the new ones. -/
def replaceDates (gold : List GoldRow) (dates : List Date) (rows : List GoldRow) : List GoldRow :=
  gold.filter (fun g => g.eventDate ∉ dates.map some) ++ rows

/-- The merge of a frame into Silver by the run `runId`. -/
def World.merge (s : World) (runId : String) (frame : Frame) (h : s.silver.Mergeable frame) : World :=
  { s with
    silver := s.silver.mergeNew .eventId frame h
    inserted := s.inserted ++
      (Table.newRows (· .eventId) s.silver.rows frame.rows).map fun row => (runId, row) }

/-- What a call of the run `runId` answers when it takes effect. `dropDuplicates` may keep
any row of each key, and the clock never goes back. -/
inductive Effect (runId : String) : (o : LakeOp) → World → o.Result → World → Prop where
  | currentTimestamp {purpose s t} : s.clock ≤ t → Effect runId (.currentTimestamp purpose) s t
      { s with clock := t, checkedAt := if purpose = .checks then t else s.checkedAt }
  | utcnow {s t} : s.clock ≤ t → Effect runId .utcnow s t { s with clock := t }
  | readSilver {s} : Effect runId .readSilver s s.silver s
  | readGold {s} : Effect runId .readGold s s.gold s
  | dropDuplicates {frame s unique} : unique.schema = frame.schema →
      Table.DistinctBy (· .eventId) frame.rows unique.rows → Effect runId (.dropDuplicates frame) s unique s
  | insertQuarantine {rows s} : Effect runId (.insertQuarantine rows) s ()
      { s with quarantine := Table.insertNew QuarantineRow.key s.quarantine rows }
  | insertDqResults {rows s} : Effect runId (.insertDqResults rows) s ()
      { s with dqResults := Table.insertNew DqResult.key s.dqResults rows }
  | insertMetrics {rows s} : Effect runId (.insertMetrics rows) s ()
      { s with metrics := Table.insertNew MetricRow.key s.metrics rows }
  | insertAlerts {rows s} : Effect runId (.insertAlerts rows) s ()
      { s with alerts := Table.insertNew AlertRow.key s.alerts rows }
  | mergeSilver {frame s} (h : s.silver.Mergeable frame) :
      Effect runId (.mergeSilver frame) s () (s.merge runId frame h)
  | overwriteGold {dates rows s} : (∀ row ∈ rows, row.eventDate ∈ dates.map some) →
      Effect runId (.overwriteGold dates rows) s () { s with gold := replaceDates s.gold dates rows }

/-- A call answers as it takes effect, or raises with or without effect. -/
inductive LakeExec (runId : String) : Exec LakeOp LakeOp.Answer World where
  | answered {o s a s'} : Effect runId o s a s' → LakeExec runId o s (.ok a) s'
  | raised {o s e} : LakeExec runId o s (.error e) s
  | lost {o s e a s'} : Effect runId o s a s' → LakeExec runId o s (.error e) s'

/-- One behaviour of the calls: none fails, the clock stands still and the last row of each
id is kept. -/
def perform (runId : String) : (o : LakeOp) → World → o.Answer × World
  | .currentTimestamp purpose, s =>
    (.ok s.clock, { s with checkedAt := if purpose = .checks then s.clock else s.checkedAt })
  | .utcnow, s => (.ok s.clock, s)
  | .readSilver, s => (.ok s.silver, s)
  | .readGold, s => (.ok s.gold, s)
  | .dropDuplicates frame, s => (.ok (frame.lastOfEach .eventId), s)
  | .insertQuarantine rows, s =>
    (.ok (), { s with quarantine := Table.insertNew QuarantineRow.key s.quarantine rows })
  | .insertDqResults rows, s =>
    (.ok (), { s with dqResults := Table.insertNew DqResult.key s.dqResults rows })
  | .insertMetrics rows, s =>
    (.ok (), { s with metrics := Table.insertNew MetricRow.key s.metrics rows })
  | .insertAlerts rows, s =>
    (.ok (), { s with alerts := Table.insertNew AlertRow.key s.alerts rows })
  | .mergeSilver frame, s =>
    if h : s.silver.Mergeable frame then (.ok (), s.merge runId frame h)
    else (.error (.analysisException "Failed to merge fields"), s)
  | .overwriteGold dates rows, s =>
    if ∀ row ∈ rows, row.eventDate ∈ dates.map some then
      (.ok (), { s with gold := replaceDates s.gold dates rows })
    else (.error (.analysisException "Data written out does not match replaceWhere"), s)

theorem perform_sound (runId : String) (o : LakeOp) (s : World) :
    LakeExec runId o s (perform runId o s).1 (perform runId o s).2 := by
  cases o with
  | currentTimestamp purpose => exact .answered (.currentTimestamp (Int.le_refl s.clock))
  | utcnow => exact .answered (.utcnow (Int.le_refl s.clock))
  | readSilver => exact .answered .readSilver
  | readGold => exact .answered .readGold
  | dropDuplicates frame => exact .answered (.dropDuplicates rfl (Table.distinctBy_lastOfEach frame.rows))
  | insertQuarantine rows => exact .answered .insertQuarantine
  | insertDqResults rows => exact .answered .insertDqResults
  | insertMetrics rows => exact .answered .insertMetrics
  | insertAlerts rows => exact .answered .insertAlerts
  | mergeSilver frame =>
    by_cases mergeable : s.silver.Mergeable frame
    · simp only [perform, dif_pos mergeable]
      exact .answered (.mergeSilver mergeable)
    · simp only [perform, dif_neg mergeable]
      exact .raised
  | overwriteGold dates rows =>
    by_cases listed : ∀ row ∈ rows, row.eventDate ∈ dates.map some
    · simp only [perform, if_pos listed]
      exact .answered (.overwriteGold listed)
    · simp only [perform, if_neg listed]
      exact .raised

section Rules

variable {runId : String} {α : Type} {G : World → Prop} {Q : Except PyException α → World → Prop}

/-- One call, then the rest. `P` says what holds where the call took effect; where it
raised, with effect or without, `G` must be enough for the postcondition. -/
theorem always_call {o : LakeOp} {f : o.Result → LakeM α} {s : World} (P : o.Result → World → Prop)
    (fails : ∀ e t, G t → Q (.error e) t) (hs : G s) (effect : ∀ a t, Effect runId o s a t → P a t)
    (guard : ∀ a t, P a t → G t)
    (next : ∀ a t, P a t → Prog.Always (LakeExec runId) (fun _ => G) Q (f a) t) :
    Prog.Always (LakeExec runId) (fun _ => G) Q ((call o).bind f) s := by
  unfold call
  refine Prog.Always.bind (Prog.Always.bind (Prog.Always.perform hs ?_))
  intro r t exec
  cases exec with
  | answered took => exact next _ _ (effect _ _ took)
  | raised => exact fails _ _ hs
  | lost took => exact fails _ _ (guard _ _ (effect _ _ took))

end Rules

end Tikblog.Analytics
