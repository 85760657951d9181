import Tikblog.Program.Component
import Tikblog.Kafka.Producer

/-!
# Where the messages of a producer are

The counters move in two places: `_enqueue` counts what it has queued and what it gave up on,
and the callbacks of Kafka, which run inside any `poll` or `flush`, also the one of a send that
waits for room, count what was delivered and what failed. `Ledger` keeps the callbacks by
message, and `Conserved` says that the counters agree with it: every message sent is delivered,
failed or outstanding. It holds whenever the client is called (`makeCalls_accounts`).
-/

namespace Tikblog.Kafka

open Python Contracts Program

variable {τ : Type}

/-- `UnsubscribeProducer.send_raw`. -/
def sendRaw (settings : ProducerSettings) (rounds : Nat) (payload : Bytes) (tag : τ) : ProducerM τ Unit :=
  enqueue settings rounds ⟨encode "garbage", payload, tag⟩

/-! ## The ledger -/

/-- A producer with the messages its callbacks have reported. -/
structure Ledger (τ : Type) where
  client : ProducerState τ
  delivered : List (Outgoing τ)
  failed : List (Outgoing τ)

/-- A new process, which has sent nothing. -/
def Ledger.fresh : Ledger τ := ⟨.fresh, [], []⟩

def Ledger.enqueue (s : Ledger τ) (m : Outgoing τ) : Ledger τ := { s with client := s.client.enqueue m }

def Ledger.count (s : Ledger τ) (c : SendCounter) : Ledger τ := { s with client := s.client.count c }

/-- The callbacks of one `poll` or `flush`. -/
def Ledger.settled (s : Ledger τ) (delivered failed remaining written : List (Outgoing τ)) : Ledger τ where
  client := s.client.settled delivered failed remaining written
  delivered := s.delivered ++ delivered
  failed := s.failed ++ failed

/-- At most one callback for each message in the queue, in any order. -/
structure Callbacks (k : ProducerState τ) (delivered failed remaining written : List (Outgoing τ)) :
    Prop where
  queued : (delivered ++ failed ++ remaining).Perm k.queue
  mayWrite : k.MayWrite written
  onTopic : delivered ⊆ k.topic ++ written

/-- A call that runs callbacks. -/
def ProducerOp.RunsCallbacks : ProducerOp τ → Prop
  | .poll _ | .flush _ => True
  | _ => False

/-- The client, with its callbacks entered into the ledger. -/
inductive LedgerExec (avro : UnsubscribeEvent → Bytes) :
    Program.Exec (ProducerOp τ) ProducerAns (Ledger τ) where
  | quiet {o s a k} : ¬ o.RunsCallbacks → ProducerExec avro o s.client a k →
      LedgerExec avro o s a { s with client := k }
  | polled {timeout s delivered failed remaining written} :
      Callbacks s.client delivered failed remaining written →
      LedgerExec avro (.poll timeout) s () (s.settled delivered failed remaining written)
  | flushed {timeout s delivered failed remaining written} :
      Callbacks s.client delivered failed remaining written →
      LedgerExec avro (.flush timeout) s remaining.length (s.settled delivered failed remaining written)

/-- The counters agree with the ledger, `refused` sends having raised on a full queue. -/
structure Conserved (refused : Nat) (s : Ledger τ) : Prop where
  sent : s.client.sentCount = s.client.produced.length
  outstanding : (s.delivered ++ s.failed ++ s.client.queue).Perm s.client.produced
  delivered : s.client.deliveredCount = s.delivered.length
  failed : s.client.failedCount = s.failed.length + refused

section

variable {avro : UnsubscribeEvent → Bytes} {s t : Ledger τ} {refused : Nat}

/-- The ledger keeps a record of the client, and of nothing else. -/
theorem LedgerExec.client {o : ProducerOp τ} {a : ProducerAns o} (h : LedgerExec avro o s a t) :
    ProducerExec avro o s.client a t.client := by
  cases h with
  | quiet _ step => exact step
  | @polled _ _ d f remaining written callbacks =>
    exact .polled ⟨d, f, remaining, written, callbacks.queued, callbacks.mayWrite, callbacks.onTopic, rfl⟩
  | @flushed _ _ d f remaining written callbacks =>
    exact .flushed ⟨d, f, remaining, written, callbacks.queued, callbacks.mayWrite, callbacks.onTopic, rfl⟩

theorem conserved_fresh : Conserved 0 (Ledger.fresh : Ledger τ) := ⟨rfl, .refl _, rfl, rfl⟩

/-- Callbacks move messages out of the queue, each to the side its counter counts. -/
theorem Conserved.settled (h : Conserved refused s) {d f remaining written : List (Outgoing τ)}
    (callbacks : Callbacks s.client d f remaining written) :
    Conserved refused (s.settled d f remaining written) where
  sent := h.sent
  outstanding :=
    ((regroup s.delivered d s.failed f remaining).trans (callbacks.queued.append_left _)).trans h.outstanding
  delivered := by
    show s.client.deliveredCount + d.length = (s.delivered ++ d).length
    rw [h.delivered, List.length_append]
  failed := by
    show s.client.failedCount + f.length = (s.failed ++ f).length + refused
    rw [h.failed, List.length_append]
    omega

/-- A message that is queued and counted. -/
theorem Conserved.enqueue (h : Conserved refused s) (m : Outgoing τ) :
    Conserved refused ((s.enqueue m).count .sent) where
  sent := by
    show s.client.sentCount + 1 = (s.client.produced ++ [m]).length
    rw [h.sent, List.length_append, List.length_singleton]
  outstanding := by
    show (s.delivered ++ s.failed ++ (s.client.queue ++ [m])).Perm (s.client.produced ++ [m])
    rw [← List.append_assoc]
    exact h.outstanding.append_right [m]
  delivered := h.delivered
  failed := h.failed

/-- A message that found no room. -/
theorem Conserved.giveUp (h : Conserved refused s) : Conserved (refused + 1) (s.count .failed) where
  sent := h.sent
  outstanding := h.outstanding
  delivered := h.delivered
  failed := by
    show s.client.failedCount + 1 = s.failed.length + (refused + 1)
    rw [h.failed]
    omega

/-! ## One call -/

/-- Whenever the client is called; a message that has just been queued is counted first. -/
def Counts (refused : Nat) (o : ProducerOp τ) (s : Ledger τ) : Prop :=
  match o with
  | .count .sent => Conserved refused (s.count .sent)
  | _ => Conserved refused s

/-- The call raised because the queue stayed full. -/
def isRefusal : Except PyException Unit → Bool
  | .error .bufferError => true
  | _ => false

/-- What a call puts into the queue: its message if it returns, and nothing if it raises. -/
def queuedOf (messages : List (Outgoing τ)) : Except PyException Unit → List (Outgoing τ)
  | .ok _ => messages
  | .error _ => []

/-- A call that has ended, `messages` being what it should queue. -/
structure CallEnds (refused : Nat) (messages before : List (Outgoing τ)) (r : Except PyException Unit)
    (s : Ledger τ) : Prop where
  conserved : Conserved (refused + if isRefusal r then 1 else 0) s
  produced : s.client.produced = before ++ queuedOf messages r

/-- What a call of the producer does, from any ledger that agrees with the counters. -/
abbrev Keeps (avro : UnsubscribeEvent → Bytes) (refused : Nat) (messages : List (Outgoing τ))
    (p : ProducerM τ Unit) (s : Ledger τ) : Prop :=
  Prog.Always (LedgerExec avro) (Counts refused) (CallEnds refused messages s.client.produced) p s

theorem CallEnds.of_error {messages : List (Outgoing τ)} {e : PyException} (h : Conserved refused s)
    (other : isRefusal (.error e) = false) :
    CallEnds refused messages s.client.produced (.error e) s where
  conserved := by
    rw [other]
    exact h
  produced := (List.append_nil _).symm

theorem poll_keeps (h : Conserved refused s) (timeout : ℚ) :
    Keeps avro refused [] (producerCall (.poll timeout)) s := by
  refine ⟨h, fun _ t polled => ?_⟩
  cases polled with
  | quiet runs => exact absurd trivial runs
  | polled callbacks => exact ⟨h.settled callbacks, (List.append_nil _).symm⟩

theorem flush_keeps (settings : ProducerSettings) (h : Conserved refused s) :
    Keeps avro refused [] (flush settings >>= fun _ => pure ()) s := by
  refine ⟨h, fun _ t flushed => ?_⟩
  cases flushed with
  | quiet runs => exact absurd trivial runs
  | flushed callbacks => exact ⟨h.settled callbacks, (List.append_nil _).symm⟩

/-- Giving up on a full queue. -/
theorem giveUp_keeps {messages : List (Outgoing τ)} (h : Conserved refused s) :
    Keeps avro refused messages (producerCall (.count .failed) >>= fun _ => throw .bufferError) s := by
  refine ⟨h, fun _ t counted => ?_⟩
  cases counted with
  | quiet _ step =>
    cases step
    exact ⟨h.giveUp, (List.append_nil _).symm⟩

/-- The loop queues its message once, counts it, and lets callbacks run; while there is no
room, it only lets callbacks run. -/
theorem enqueueLoop_keeps (m : Outgoing τ) (deadline : ℚ) (rounds : Nat) (h : Conserved refused s) :
    Keeps avro refused [m] (enqueueLoop m deadline rounds) s := by
  induction rounds generalizing s with
  | zero => exact giveUp_keeps h
  | succ rounds ih =>
    refine ⟨h, fun answer t offered => ?_⟩
    cases offered with
    | quiet _ step =>
      cases step with
      | produced =>
        have counted := h.enqueue m
        refine ⟨counted, fun _ u counting => ?_⟩
        cases counting with
        | quiet _ step =>
          cases step
          refine ⟨counted, fun _ v polled => ?_⟩
          cases polled with
          | quiet runs => exact absurd trivial runs
          | polled callbacks => exact ⟨counted.settled callbacks, rfl⟩
      | refused => exact .of_error h rfl
      | queueFull =>
        refine ⟨h, fun now u clock => ?_⟩
        cases clock with
        | quiet _ step =>
          cases step
          simp only [Prog.bind_ok]
          split
          · exact giveUp_keeps h
          · refine ⟨h, fun _ v polled => ?_⟩
            cases polled with
            | quiet runs => exact absurd trivial runs
            | polled callbacks => exact ih (h.settled callbacks)

theorem enqueue_keeps (settings : ProducerSettings) (m : Outgoing τ) (rounds : Nat)
    (h : Conserved refused s) :
    Keeps avro refused [m] (enqueue settings rounds m) s := by
  refine ⟨h, fun start t clock => ?_⟩
  cases clock with
  | quiet _ step =>
    cases step
    exact enqueueLoop_keeps m _ rounds h

theorem send_keeps (settings : ProducerSettings) (rounds : Nat) (event : UnsubscribeEvent) (tag : τ)
    (h : Conserved refused s) :
    Keeps avro refused [eventMessage avro event tag] (send settings rounds event tag) s := by
  refine ⟨h, fun answer t encoded => ?_⟩
  cases encoded with
  | quiet _ step =>
    cases step with
    | notEncoded => exact .of_error h rfl
    | encoded => exact enqueue_keeps settings _ rounds h

end

/-! ## Any calls -/

/-- The calls of a program that uses the producer. -/
inductive Call (τ : Type) where
  | send (event : UnsubscribeEvent) (tag : τ)
  | sendRaw (payload : Bytes) (tag : τ)
  | poll
  | flush

def Call.program (settings : ProducerSettings) (rounds : Nat) : Call τ → ProducerM τ Unit
  | .send event tag => Kafka.send settings rounds event tag
  | .sendRaw payload tag => Kafka.sendRaw settings rounds payload tag
  | .poll => Kafka.poll
  | .flush => do let _ ← Kafka.flush settings

/-- The messages a call is there to queue. -/
def Call.messages (avro : UnsubscribeEvent → Bytes) : Call τ → List (Outgoing τ)
  | .send event tag => [eventMessage avro event tag]
  | .sendRaw payload tag => [⟨encode "garbage", payload, tag⟩]
  | .poll => []
  | .flush => []

/-- The producer and the program that calls it, which is told of every call that ended. -/
inductive CallerOp (τ : Type) where
  | producer (o : ProducerOp τ)
  | ended (call : Call τ) (result : Except PyException Unit)

abbrev CallerAns : CallerOp τ → Type
  | .producer o => ProducerAns o
  | .ended _ _ => Unit

/-- A ledger with the calls that ended. -/
structure Books (τ : Type) where
  ledger : Ledger τ
  calls : List (Call τ × Except PyException Unit)

def Books.ended (s : Books τ) (call : Call τ) (result : Except PyException Unit) : Books τ :=
  { s with calls := s.calls ++ [(call, result)] }

/-- How many sends raised because the queue stayed full. -/
def Books.refusals (s : Books τ) : Nat := s.calls.countP fun call => isRefusal call.2

inductive CallerExec (avro : UnsubscribeEvent → Bytes) : Program.Exec (CallerOp τ) CallerAns (Books τ) where
  | producer {o s a ledger} : LedgerExec avro o s.ledger a ledger →
      CallerExec avro (.producer o) s a { s with ledger := ledger }
  | ended {call result s} : CallerExec avro (.ended call result) s () (s.ended call result)

/-- A call on the producer. -/
def fromCaller (p : ProducerM τ Unit) : Prog (CallerOp τ) CallerAns PyException Unit :=
  p.embed CallerOp.producer fun _ a => a

/-- The calls one after another, whether they return or raise. -/
def makeCalls (settings : ProducerSettings) (rounds : Nat) :
    List (Call τ) → Prog (CallerOp τ) CallerAns PyException Unit
  | [] => pure ()
  | call :: calls => do
    let result ← (fromCaller (call.program settings rounds)).attempt
    Prog.perform (CallerOp.ended call result)
    makeCalls settings rounds calls

/-- Between two calls: the counters agree with the ledger, and exactly the messages of the
sends that returned were queued, each once. -/
structure Accounted (avro : UnsubscribeEvent → Bytes) (s : Books τ) : Prop where
  conserved : Conserved s.refusals s.ledger
  produced : s.ledger.client.produced = s.calls.flatMap fun call => queuedOf (call.1.messages avro) call.2

/-- Whenever the client is called, and between two calls. -/
def Accounts (avro : UnsubscribeEvent → Bytes) (o : CallerOp τ) (s : Books τ) : Prop :=
  match o with
  | .producer o => Counts s.refusals o s.ledger
  | .ended call result => Accounted avro (s.ended call result)

section

variable {avro : UnsubscribeEvent → Bytes} {s t : Ledger τ} {refused : Nat}

theorem Call.keeps (settings : ProducerSettings) (rounds : Nat) (call : Call τ) (h : Conserved refused s) :
    Keeps avro refused (call.messages avro) (call.program settings rounds) s := by
  cases call with
  | send event tag => exact send_keeps settings rounds event tag h
  | sendRaw payload tag => exact enqueue_keeps settings _ rounds h
  | poll => exact poll_keeps h 0
  | flush => exact flush_keeps settings h

/-- One call more is accounted for. -/
theorem Accounted.ended {b : Books τ} {ledger : Ledger τ} {call : Call τ} {result : Except PyException Unit}
    (h : Accounted avro b)
    (ends : CallEnds b.refusals (call.messages avro) b.ledger.client.produced result ledger) :
    Accounted avro (({ b with ledger := ledger } : Books τ).ended call result) where
  conserved := by
    have count : (({ b with ledger := ledger } : Books τ).ended call result).refusals =
        b.refusals + if isRefusal result then 1 else 0 := by
      simp only [Books.refusals, Books.ended, List.countP_append, List.countP_singleton]
    rw [count]
    exact ends.conserved
  produced := by
    show ledger.client.produced = (b.calls ++ [(call, result)]).flatMap _
    rw [ends.produced, h.produced, List.flatMap_append, List.flatMap_singleton]

/-- What is proved of a call of the producer holds of it here. -/
theorem fromCaller_always {G : ProducerOp τ → Ledger τ → Prop}
    {Q : Except PyException Unit → Ledger τ → Prop} {p : ProducerM τ Unit} {b : Books τ}
    (h : Prog.Always (LedgerExec avro) G Q p b.ledger) :
    Prog.Always (CallerExec avro) (fun o' c => ∃ o, o' = .producer o ∧ G o c.ledger ∧ c.calls = b.calls)
      (fun r c => Q r c.ledger ∧ c.calls = b.calls) (fromCaller p) b := by
  refine Prog.Always.embed CallerOp.producer (fun _ a => a) Books.ledger (fun b c => c.calls = b.calls)
    (fun _ => rfl) (fun _ _ _ first second => second.trans first) ?_ h
  intro o b a c step
  cases step with
  | producer step => exact ⟨step, rfl⟩

theorem call_accounts (settings : ProducerSettings) (rounds : Nat) (call : Call τ) {b : Books τ}
    (h : Accounted avro b) :
    Prog.Always (CallerExec avro) (Accounts avro) (fun r c => Accounted avro (c.ended call r))
      (fromCaller (call.program settings rounds)) b := by
  have keeps : Keeps avro b.refusals (call.messages avro) (call.program settings rounds) b.ledger :=
    call.keeps settings rounds h.conserved
  apply (fromCaller_always keeps).mono
  · rintro _ c ⟨o, rfl, counts, calls⟩
    rw [Accounts, Books.refusals, calls]
    exact counts
  · rintro r c ⟨ends, calls⟩
    have same : c = { b with ledger := c.ledger } := by rw [← calls]
    rw [same]
    exact h.ended ends

theorem makeCalls_accounts (settings : ProducerSettings) (rounds : Nat) (calls : List (Call τ)) (b : Books τ)
    (h : Accounted avro b) :
    Prog.Always (CallerExec avro) (Accounts avro) (fun _ => Accounted avro)
      (makeCalls settings rounds calls) b := by
  induction calls generalizing b with
  | nil => exact h
  | cons call calls ih =>
    have made := call_accounts settings rounds call h
    refine Prog.Always.bind (Prog.Always.attempt (made.mono (fun _ _ guard => guard) ?_))
    intro r c accounted
    refine ⟨accounted, fun _ d told => ?_⟩
    cases told with
    | ended => exact ih _ accounted

end

end Tikblog.Kafka
