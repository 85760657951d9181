import Tikblog.Program.Interleaving
import Tikblog.Program.Interpret
import Tikblog.Program.Component
import Tikblog.Consumer.Service
import Tikblog.Unsubscribeme.Concurrency
import Tikblog.Operational.Http

/-!
# The operational path

From the topics to the subscription table, with everything on the way running at the same
time: any number of consumer groups, each reading its topic with any number of processes,
and the UnsubscribeMe service, with a thread for each HTTP exchange. Partitions move between
the processes of a group at any poll; a process or a thread that is not scheduled again has
crashed, and one that lost its partition may go on with what it has in hand. A client that
gives up on an exchange does not stop the endpoint from carrying it out later.

The counters of a process and the partition assignment callbacks touch nothing the programs
read and are left out. The topics hold the records of the whole run; a poll need not find
those that are there.
-/

namespace Tikblog.Operational

open Python Contracts Kafka Program
open Consumer (HttpRequest Response Reaction UnsubscribeOutcome)
open Unsubscribeme (UnsubscribeRequest UnsubscribeResponse HTTPException Database ApiOp ApiAns ApiExec)

/-- A topic; a message says where it comes from. -/
structure Topic where
  name : String
  log : Nat → PartitionLog
  located : ∀ k, ∀ m ∈ (log k).records, m.topic = name ∧ m.partition = k

/-- A deployment of the consumer: its settings and the topic of its group. -/
structure Deployment where
  settings : Consumer.Settings
  topic : Topic

/-- Groups `δ`, their processes `π`, and the service. `passes` says how often a process goes
through its loop before it is told to stop. -/
structure Platform (δ π : Type) where
  deployment : δ → Deployment
  group : π → δ
  passes : π → Nat
  service : Unsubscribeme.Settings
  web : WebLibrary
  avro : AvroLibrary

/-- The offsets each group has committed; the partitions a process is assigned, with the
offset it reads next, and the local queue of its dead-letter producer; the records written
to dead-letter topics and those reported as not written; the exchanges; the database. -/
structure State (δ π : Type) where
  committed : δ → Nat → Nat
  position : π → Nat → Option Nat
  queue : π → List DlqRecord
  deadLetters : List DlqRecord
  undelivered : List DlqRecord
  requests : List HttpRequest
  responses : Nat → Option Response
  db : Database Nat

/-- Nothing was committed, sent or written. -/
def State.fresh {δ π : Type} : State δ π where
  committed _ _ := 0
  position _ _ := none
  queue _ := []
  deadLetters := []
  undelivered := []
  requests := []
  responses _ := none
  db := Database.empty

/-! ## The programs -/

inductive Op where
  | consumer (o : Consumer.Op)
  | send (request : HttpRequest)
  | receive (exchange : Nat)
  | accept (exchange : Nat)
  | endpoint (o : ApiOp)
  | reply (exchange : Nat) (response : Response)

/-- Answers: `send` returns the number of the exchange, and `receive` waits for its end. -/
abbrev Ans : Op → Type
  | .consumer o => Consumer.Ans o
  | .send _ => Nat
  | .receive _ => Reaction
  | .accept _ => HttpRequest
  | .endpoint o => ApiAns o
  | .reply _ _ => Unit

abbrev PathM := Prog Op Ans PyException

abbrev call (o : Op) : PathM (Ans o) := Prog.perform o

/-- `UnsubscribeMeClient.unsubscribe` as an exchange: headers are encoded before anything is
sent, and the client waits for what comes of the request. -/
def unsubscribeCall (lib : WebLibrary) (event : UnsubscribeEvent) :
    PathM (Except PyException UnsubscribeOutcome) := do
  let request := Consumer.unsubscribeRequest event
  match Consumer.encodeHeaders request.headers with
  | .ok _ =>
    let exchange ← call (.send request)
    let reaction ← call (.receive exchange)
    return Consumer.unsubscribe lib.fromisoformat reaction event
  | .error error => return .error error

/-- The calls of the consumer: the HTTP call takes several steps, every other is one. -/
def consumerCall (lib : WebLibrary) : (o : Consumer.Op) → PathM (Consumer.Ans o)
  | .unsubscribe event => unsubscribeCall lib event
  | .poll timeout => call (.consumer (.poll timeout))
  | .fromBytes payload => call (.consumer (.fromBytes payload))
  | .sleep seconds => call (.consumer (.sleep seconds))
  | .nowIsoformat => call (.consumer .nowIsoformat)
  | .produce record => call (.consumer (.produce record))
  | .flush timeout => call (.consumer (.flush timeout))
  | .commit message => call (.consumer (.commit message))
  | .count counter => call (.consumer (.count counter))

/-- The endpoint with FastAPI around it; none where nothing can be sent back. -/
def respond (service : Unsubscribeme.Settings) (lib : WebLibrary) (request : HttpRequest) :
    PathM (Option Response) := do
  match validate lib request.json with
  | none => return some (unprocessable lib request.json)
  | some payload =>
    match ← ((Unsubscribeme.postUnsubscribe service payload).embed Op.endpoint fun _ a => a).attempt with
    | .ok response => return some (returned lib response)
    | .error exc => return raised lib exc

/-- The thread of one exchange. -/
def serve (service : Unsubscribeme.Settings) (lib : WebLibrary) (exchange : Nat) : PathM Unit := do
  let request ← call (.accept exchange)
  match ← respond service lib request with
  | some response => call (.reply exchange response)
  | none => return ()

/-! ## What the operations do -/

section

variable {δ π : Type} [DecidableEq δ] [DecidableEq π]

namespace State

variable (s : State δ π)

/-- Process `p` is assigned other partitions. -/
def assign (p : π) (position : Nat → Option Nat) : State δ π :=
  { s with position := Function.update s.position p position }

def enqueue (p : π) (record : DlqRecord) : State δ π :=
  { s with queue := Function.update s.queue p (s.queue p ++ [record]) }

/-- The callbacks of a flush. -/
def flushed (p : π) (delivered failed remaining : List DlqRecord) : State δ π :=
  { s with
    queue := Function.update s.queue p remaining
    deadLetters := s.deadLetters ++ delivered
    undelivered := s.undelivered ++ failed }

/-- Group `d` commits `m`. -/
def commit (d : δ) (m : Message) : State δ π :=
  { s with
    committed := Function.update s.committed d
      (Function.update (s.committed d) m.partition (m.offset + 1)) }

def send (request : HttpRequest) : State δ π := { s with requests := s.requests ++ [request] }

def reply (exchange : Nat) (response : Response) : State δ π :=
  { s with responses := Function.update s.responses exchange (some response) }

/-- A rebalance: a partition stays where it was, or starts at the committed offset. -/
def Rebalanced (d : δ) (p : π) (position : Nat → Option Nat) : Prop :=
  ∀ k offset, position k = some offset → s.position p k = some offset ∨ offset = s.committed d k

end State

/-- The calls of process `p`, but for the exchanges. Decoding may fail at any time, and a
commit that raises may have been carried out. -/
inductive ConsumerExec (w : Platform δ π) (p : π) : Program.Exec Consumer.Op Consumer.Ans (State δ π) where
  | idle {t s position} : s.Rebalanced (w.group p) p position →
      ConsumerExec w p (.poll t) s none (s.assign p position)
  | clientError {t s position m} : s.Rebalanced (w.group p) p position → m.error.isSome →
      ConsumerExec w p (.poll t) s (some m) (s.assign p position)
  | record {t s position k offset m} : s.Rebalanced (w.group p) p position → position k = some offset →
      ((w.deployment (w.group p)).topic.log k).next offset = some m →
      ConsumerExec w p (.poll t) s (some m) (s.assign p (Function.update position k (some (m.offset + 1))))
  | decoded {payload s event} : fromBytes w.avro payload = .ok event →
      ConsumerExec w p (.fromBytes payload) s (.ok event) s
  | notDecoded {payload s text} : ConsumerExec w p (.fromBytes payload) s (.error text) s
  | slept {d s r} : Consumer.SleepAnswer d r → ConsumerExec w p (.sleep d) s r s
  | now {s text} : ConsumerExec w p .nowIsoformat s text s
  | produced {record s} : ConsumerExec w p (.produce record) s (.ok ()) (s.enqueue p record)
  | notProduced {record s e} : ConsumerExec w p (.produce record) s (.error e) s
  | flushed {t s delivered failed remaining} : (delivered ++ failed ++ remaining).Perm (s.queue p) →
      ConsumerExec w p (.flush t) s remaining.length (s.flushed p delivered failed remaining)
  | committed {m s} : ConsumerExec w p (.commit m) s (.ok ()) (s.commit (w.group p) m)
  | notCommitted {m s e} : ConsumerExec w p (.commit m) s (.error e) s
  | commitLost {m s e} : ConsumerExec w p (.commit m) s (.error e) (s.commit (w.group p) m)
  | counted {c s} : ConsumerExec w p (.count c) s () s

/-- The operations of a process or, of an exchange, of its thread. A response is waited for,
the connection may break or time out before it comes, and an answer of the server itself is
no success. -/
inductive Exec (w : Platform δ π) : π ⊕ Nat → Program.Exec Op Ans (State δ π) where
  | consumer {p o s a t} : ConsumerExec w p o s a t → Exec w (.inl p) (.consumer o) s a t
  | sent {p request s} : Exec w (.inl p) (.send request) s s.requests.length (s.send request)
  | received {p exchange s response} : s.responses exchange = some response →
      Exec w (.inl p) (.receive exchange) s (.response response) s
  | refused {p exchange s} {response : Response} : ¬ response.success →
      Exec w (.inl p) (.receive exchange) s (.response response) s
  | broken {p exchange s message} : Exec w (.inl p) (.receive exchange) s (.httpError message) s
  | accepted {n s request} : s.requests[n]? = some request → Exec w (.inr n) (.accept n) s request s
  | endpoint {n s o a db} : ApiExec n o s.db a db → Exec w (.inr n) (.endpoint o) s a { s with db := db }
  | replied {n s response} : Exec w (.inr n) (.reply n response) s () (s.reply n response)

/-- The whole path: consumer processes and exchanges. -/
def operational (w : Platform δ π) : Interleaving (π ⊕ Nat) Op Ans PyException Unit (State δ π) where
  init s := s = State.fresh
  program
    | .inl p => (Consumer.main (w.deployment (w.group p)).settings (w.passes p)).interpret (consumerCall w.web)
    | .inr n => serve w.service w.web n
  exec := Exec w

end

end Tikblog.Operational
