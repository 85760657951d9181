import Tikblog.Analytics.Batching

/-!
# Maintenance

`jobs/maintenance.py`: `backfill` as a program. It reads the tables between the critical
sections of the lake, and no other process writes to them: each section begins where the one
before it ended. The dates it refreshes are read from Silver and Gold after the merges.
-/

namespace Tikblog.Analytics

open Python Program

/-- The tables. `checks` is history that the job does not read: the validated batches, each
with the time its checks read. -/
structure Warehouse where
  bronze : Channel → Frame
  lake : World
  checks : Log

inductive JobOp where
  | readBronze (channel : Channel)
  | readSilver
  | readGold
  | validateAndMerge (batch : Frame) (runId pipeline : String)
  | refresh (dates : List Date) (runId : String)

abbrev JobOp.Result : JobOp → Type
  | readBronze _ => Frame
  | readSilver => Frame
  | readGold => List GoldRow
  | validateAndMerge .. => Unit
  | refresh .. => Unit

abbrev JobOp.Answer (o : JobOp) : Type := Except PyException o.Result

abbrev JobM := Prog JobOp JobOp.Answer PyException

/-- Make one call: return its result or raise its exception. -/
def JobOp.call (o : JobOp) : JobM o.Result := (Prog.perform o).bind Prog.ofExcept

/-! ## backfill -/

/-- `F.col("event_date").between(start, end)`. -/
def between (start stop : Date) (date : Option Date) : Bool := date.any fun d => start ≤ d ∧ d ≤ stop

/-- The dates in the range that Silver or Gold has. -/
def backfillDates (start stop : Date) (silver : Frame) (gold : List GoldRow) : List Date :=
  let silver := silver.filter (inRange start stop)
  let gold := gold.filter fun g => between start stop g.eventDate
  (silver.rows.filterMap (·.date .eventDate) ++ gold.filterMap (·.eventDate)).dedup

/-- The Bronze events of the range in a channel. -/
def backfillChannel (start stop : Date) (runId : String) (channel : Channel) : JobM Unit := do
  let bronze ← (JobOp.readBronze channel).call
  let events := bronze.filter (inRange start stop)
  (JobOp.validateAndMerge events (runId ++ ":" ++ channel.name) "backfill_silver").call

/-- Only the layer silver is filled from Bronze. -/
def backfillChannels (layer : String) : List Channel := if layer = "silver" then [.priority, .legal] else []

def Maintenance.backfill (layer : String) (start stop : Date) (runId : String) : JobM Unit :=
  if start > stop then throw (.valueError "from_date must not exceed to_date")
  else do
    let _ ← Prog.mapEach (backfillChannels layer) (backfillChannel start stop runId)
    let silver ← JobOp.readSilver.call
    let gold ← JobOp.readGold.call
    (JobOp.refresh (backfillDates start stop silver gold) runId).call

/-! ## Its calls -/

def JobOp.Reads : JobOp → Prop
  | readBronze _ | readSilver | readGold => True
  | validateAndMerge .. | refresh .. => False

/-- A read answers or raises; a critical section ends as it ends. -/
inductive JobExec (env : Env) (tick : Instant → Instant → Prop) : Exec JobOp JobOp.Answer Warehouse where
  | readBronze {channel s} : JobExec env tick (.readBronze channel) s (.ok (s.bronze channel)) s
  | readSilver {s} : JobExec env tick .readSilver s (.ok s.lake.silver) s
  | readGold {s} : JobExec env tick .readGold s (.ok s.lake.gold) s
  | unread {o s e} : o.Reads → JobExec env tick o s (.error e) s
  | validateAndMerge {batch runId pipeline s r t} :
      (lake env tick fun _ => True).Session (.validate batch runId pipeline) s.lake (.done r) t →
      JobExec env tick (.validateAndMerge batch runId pipeline) s r
        { s with lake := t, checks := s.checks ++ [(.validate batch runId pipeline, t.checkedAt)] }
  | refresh {dates runId s r t} :
      (lake env tick fun _ => True).Session (.refresh dates runId) s.lake (.done r) t →
      JobExec env tick (.refresh dates runId) s r { s with lake := t }

/-- One behaviour of the calls: the sections are played, and the clock stands still. -/
def performJob (env : Env) : (o : JobOp) → Warehouse → o.Answer × Warehouse
  | .readBronze channel, s => (.ok (s.bronze channel), s)
  | .readSilver, s => (.ok s.lake.silver, s)
  | .readGold, s => (.ok s.lake.gold, s)
  | .validateAndMerge batch runId pipeline, s =>
    let k := Call.validate batch runId pipeline
    let t := s.lake.played env k s.lake.clock
    ((Prog.eval (perform runId) (k.program env) s.lake).1,
      { s with lake := t, checks := s.checks ++ [(k, t.checkedAt)] })
  | .refresh dates runId, s =>
    let k := Call.refresh dates runId
    ((Prog.eval (perform runId) (k.program env) s.lake).1,
      { s with lake := s.lake.played env k s.lake.clock })

theorem performJob_sound (env : Env) (o : JobOp) (s : Warehouse) :
    JobExec env (· ≤ ·) o s (performJob env o s).1 (performJob env o s).2 := by
  cases o with
  | readBronze channel => exact .readBronze
  | readSilver => exact .readSilver
  | readGold => exact .readGold
  | validateAndMerge batch runId pipeline =>
    exact .validateAndMerge (session_played trivial (le_refl s.lake.clock))
  | refresh dates runId => exact .refresh (session_played trivial (le_refl s.lake.clock))

/-- Calls of the lake one after another, each returned, with the times their checks read. -/
inductive Validates (env : Env) (tick : Instant → Instant → Prop) : World → Log → World → Prop where
  | nil {s} : Validates env tick s [] s
  | cons {k s t log u} : (lake env tick fun _ => True).Session k s (.done (.ok ())) t →
      Validates env tick t log u → Validates env tick s ((k, t.checkedAt) :: log) u

end Tikblog.Analytics
