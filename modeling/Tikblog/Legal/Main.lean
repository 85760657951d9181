import Tikblog.Program.Component
import Tikblog.Kafka.Producer
import Tikblog.Legal.LandingZone

/-!
# Legal ingestion

`build_event`, `process_batch` and `main` as programs over the object store, the producer
and `uuid4`. Reading a file is one call whose answer is all the reader will yield: what the
stream holds is settled when it is opened, and the loop consumes it row by row.
`fromisoformat`, `repr` and the csv reader are parameters.
-/

namespace Tikblog.Legal

open Python Contracts Kafka Program

/-- The Python functions the ingestion calls on text and bytes: `datetime.fromisoformat`
(none for its `ValueError`), `repr` of a string, and `csv.reader` over the UTF-8 text. -/
structure Library where
  fromisoformat : String → Option Datetime
  repr : String → String
  csvReader : Bytes → RowStream

/-- The event a message carries, and the number its row has in the file. -/
structure Origin where
  event : UnsubscribeEvent
  line : Nat

inductive Op where
  | listKeys (keyPrefix : String)
  | openStream (key : String)
  | write (key : String) (data : Bytes)
  | copyObject (key targetKey : String)
  | deleteObject (key : String)
  | uuid4
  | producer (o : ProducerOp Origin)

abbrev Ans : Op → Type
  | .listKeys _ => Except PyException (List String)
  | .openStream _ => Except PyException RowStream
  | .write _ _ => Except PyException Unit
  | .copyObject _ _ => Except PyException Unit
  | .deleteObject _ => Except PyException Unit
  | .uuid4 => String
  | .producer o => ProducerAns o

abbrev LegalM := Prog Op Ans PyException

abbrev call (o : Op) : LegalM (Ans o) := Prog.perform o

/-- A call on the producer. -/
def onProducer {α : Type} (p : ProducerM Origin α) : LegalM α := p.embed Op.producer fun _ a => a

section

variable (lib : Library) (zone : LandingZone) (settings : ProducerSettings)

/-! ## parsing.py -/

def expectedHeader : List String := ["user_id", "writer_id", "requested_at"]

/-- The checks of `build_event`: the ids and the time of a row, or a `RowError`. -/
def checkRow (row : List String) : Except PyException (String × String × Datetime) :=
  match row with
  | [userCell, writerCell, timeCell] =>
    let userId := strip userCell
    let writerId := strip writerCell
    let requestedAt := strip timeCell
    if userId = "" then .error (.rowError "user_id is empty")
    else if writerId = "" then .error (.rowError "writer_id is empty")
    else match lib.fromisoformat requestedAt with
      | none => .error (.rowError ("requested_at is not ISO-8601: " ++ lib.repr requestedAt))
      | some parsedAt =>
        if parsedAt.utcoffset = none then
          .error (.rowError ("requested_at has no timezone: " ++ lib.repr requestedAt))
        else .ok (userId, writerId, parsedAt)
  | _ =>
    .error (.rowError ("expected " ++ toString expectedHeader.length ++ " columns, got " ++
      toString row.length))

/-- `build_event`. -/
def buildEvent (row : List String) (legalBatchId : String) : LegalM UnsubscribeEvent := do
  let (userId, writerId, parsedAt) ← Prog.ofExcept (checkRow lib row)
  let eventId ← call .uuid4
  let requestId ← call .uuid4
  Prog.ofExcept
    (UnsubscribeEvent.new eventId userId writerId .legal parsedAt requestId none (some legalBatchId))

/-! ## landing_zone.py -/

def listBatches : LegalM (List String) := do
  let keys ← Prog.ofExcept (← call (.listKeys zone.inbox))
  return zone.batchNames keys

def alreadyProcessed (name : String) : LegalM Bool := do
  let keys ← Prog.ofExcept (← call (.listKeys (zone.processedKey name)))
  return zone.processedKey name ∈ keys

def writeRejects (name : String) (rejects : List Reject) : LegalM Unit := do
  Prog.ofExcept (← call (.write (zone.rejectsKey name) (LandingZone.renderRejects name rejects)))

/-- `mark_processed`: `move` is a copy, then a delete. -/
def markProcessed (name : String) : LegalM Unit := do
  Prog.ofExcept (← call (.copyObject (zone.inboxKey name) (zone.processedKey name)))
  Prog.ofExcept (← call (.deleteObject (zone.inboxKey name)))

/-! ## main.py -/

/-- One row: sent, or the reject that is kept for it. -/
def ingestRow (rounds : Nat) (name : String) (line : Nat) (row : List String) : LegalM (Option Reject) :=
  Prog.tryCatch
    (do
      let event ← buildEvent lib row name
      onProducer (send settings rounds event ⟨event, line⟩)
      return none)
    fun
      | .rowError text => return some ⟨line, row, text⟩
      | error => throw error

/-- The loop of `process_batch`, with the rows read so far. -/
def ingestRows (rounds : Nat) (name : String) :
    List (List String) → Nat → List Reject → LegalM (Nat × List Reject)
  | [], rowsRead, rejects => return (rowsRead, rejects)
  | row :: rows, rowsRead, rejects => do
    let reject ← ingestRow lib settings rounds name (rowsRead + 2) row
    ingestRows rounds name rows (rowsRead + 1) (rejects ++ reject.toList)

/-- `process_batch`; the first record is skipped. -/
def processBatch (rounds : Nat) (name : String) : LegalM (Nat × List Reject) := do
  let stream ← Prog.ofExcept (← call (.openStream (zone.inboxKey name)))
  let result ← ingestRows lib settings rounds name (stream.rows.drop 1) 0 []
  match stream.ending with
  | some error => throw error
  | none => return result

/-- The totals `main` logs at its end. -/
structure Report where
  filesProcessed : Nat
  rowsRead : Nat
  eventsSent : Int
  rowsRejected : Nat

/-- The `try` block of `main` for one file. -/
def ingestBatch (rounds : Nat) (name : String) (deliveredBefore : Nat) (report : Report) :
    LegalM Report := do
  let (fileRows, rejects) ← processBatch lib zone settings rounds name
  let stillQueued ← onProducer (flush settings)
  let delivered : Int := (← onProducer (producerCall .deliveredCount)) - deliveredBefore
  let expected : Int := fileRows - rejects.length
  if stillQueued > 0 ∨ delivered ≠ expected then
    throw (.runtimeError ("Kafka confirmed " ++ toString delivered ++ " of " ++ toString expected ++
      " events; " ++ toString stillQueued ++ " are still queued"))
  else do
    if rejects ≠ [] then writeRejects zone name rejects else pure ()
    markProcessed zone name
    return {
      filesProcessed := report.filesProcessed + 1
      rowsRead := report.rowsRead + fileRows
      eventsSent := report.eventsSent + delivered
      rowsRejected := report.rowsRejected + rejects.length }

/-- One pass of the loop in `main`. -/
def ingestFile (rounds : Nat) (name : String) (report : Report) : LegalM Report := do
  if ← alreadyProcessed zone name then
    return report
  else do
    let deliveredBefore ← onProducer (producerCall .deliveredCount)
    Prog.tryCatch (ingestBatch lib zone settings rounds name deliveredBefore report) fun error => do
      let _ ← onProducer (flush settings)
      throw error

def ingestFiles (rounds : Nat) : List String → Report → LegalM Report
  | [], report => return report
  | name :: names, report => do
    let report ← ingestFile lib zone settings rounds name report
    ingestFiles rounds names report

/-- `main`; a full queue is tried again at most `rounds` times for each message. -/
def main (rounds : Nat) : LegalM Report := do
  let names ← listBatches zone
  ingestFiles lib zone settings rounds names ⟨0, 0, 0, 0⟩

end

end Tikblog.Legal
