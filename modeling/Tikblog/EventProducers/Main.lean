import Tikblog.Kafka.Conservation

/-!
# The demo event producers

`main` of `event_producers` over the shutdown flag, the generator and the producer. The
generator makes any batch. Log records are left out; `passes` bounds the passes of the loop,
the flag being set after them.
-/

namespace Tikblog.EventProducers

open Python Contracts Kafka Program

/-- What `EventGenerator.next_batch` returns. -/
structure GeneratedBatch where
  events : List UnsubscribeEvent
  garbage : List Bytes

structure Settings where
  eventsPerSecond : ℚ
  producer : ProducerSettings

inductive Op where
  | stopped
  | nextBatch
  | wait (timeout : ℚ)
  | failedCount
  | producer (o : ProducerOp Unit)

abbrev Ans : Op → Type
  | .stopped => Bool
  | .nextBatch => GeneratedBatch
  | .wait _ => Unit
  | .failedCount => Nat
  | .producer o => ProducerAns o

abbrev ProducersM := Prog Op Ans PyException

abbrev call (o : Op) : ProducersM (Ans o) := Prog.perform o

def onProducer {α : Type} (p : ProducerM Unit α) : ProducersM α := p.embed Op.producer fun _ a => a

section Code

variable (settings : Settings) (rounds : Nat)

/-- The loop of `main`. -/
def produceUntilStopped : Nat → ProducersM Unit
  | 0 => pure ()
  | passes + 1 => do
    if ← call .stopped then
      pure ()
    else do
      let batch ← call .nextBatch
      let _ ← Prog.mapEach batch.events fun event => onProducer (send settings.producer rounds event ())
      let _ ← Prog.mapEach batch.garbage fun payload =>
        onProducer (sendRaw settings.producer rounds payload ())
      call (.wait (1 / settings.eventsPerSecond))
      produceUntilStopped passes

/-- `main`, with its exit code; the exception of the loop is raised again after the flush. -/
def main (passes : Nat) : ProducersM Nat := do
  let produced ← (produceUntilStopped settings rounds passes).attempt
  let stillQueued ← onProducer (flush settings.producer)
  Prog.ofExcept produced
  let failed ← call .failedCount
  if failed > 0 ∨ stillQueued > 0 then
    return 1
  else
    return 0

end Code

/-- The exit code of the process: 1 for an exception that is not caught. -/
def exitCode : Except PyException Nat → Nat
  | .ok code => code
  | .error _ => 1

inductive Exec (avro : UnsubscribeEvent → Bytes) : Program.Exec Op Ans (Ledger Unit) where
  | stopped {s flag} : Exec avro .stopped s flag s
  | nextBatch {s batch} : Exec avro .nextBatch s batch s
  | wait {timeout s} : Exec avro (.wait timeout) s () s
  | failedCount {s} : Exec avro .failedCount s s.client.failedCount s
  | producer {o s a t} : LedgerExec avro o s a t → Exec avro (.producer o) s a t

section

variable {avro : UnsubscribeEvent → Bytes} {settings : Settings} {s : Ledger Unit}

/-- The counters agree with the ledger. -/
def Agrees (s : Ledger Unit) : Prop := ∃ refused, Conserved refused s

theorem onProducer_always {α : Type} {G : ProducerOp Unit → Ledger Unit → Prop}
    {Q : Except PyException α → Ledger Unit → Prop} {p : ProducerM Unit α}
    (h : Prog.Always (LedgerExec avro) G Q p s) :
    Prog.Always (Exec avro) (fun _ _ => True) Q (onProducer p) s := by
  have embedded := Prog.Always.embed Op.producer (fun _ a => a) id (fun _ _ => True) (fun _ => trivial)
    (fun _ _ _ _ _ => trivial)
    (fun o s a t (h : Exec avro (.producer o) s a t) => match h with | .producer step => ⟨step, trivial⟩) h
  exact embedded.mono (fun _ _ _ => trivial) fun _ _ ended => ended.1

/-- A send keeps the counters right, whether it returns or raises. -/
theorem keeps_agrees {refused : Nat} {messages : List (Outgoing Unit)} {p : ProducerM Unit Unit}
    (h : Keeps avro refused messages p s) :
    Prog.Always (Exec avro) (fun _ _ => True) (fun _ => Agrees) (onProducer p) s :=
  (onProducer_always h).mono (fun _ _ guard => guard) fun _ _ ends => ⟨_, ends.conserved⟩

theorem produceUntilStopped_agrees (rounds passes : Nat) (h : Agrees s) :
    Prog.Always (Exec avro) (fun _ _ => True) (fun _ => Agrees)
      (produceUntilStopped settings rounds passes) s := by
  induction passes generalizing s with
  | zero => exact h
  | succ passes ih =>
    refine ⟨trivial, fun flag t step => ?_⟩
    cases step
    cases flag with
    | true => exact h
    | false =>
      refine ⟨trivial, fun batch t step => ?_⟩
      cases step
      apply Prog.Always.seq (Prog.Always.mapEach (I := Agrees) (fun event s agrees => ?_) batch.events s h)
      · intro r t agrees
        cases r with
        | error e => exact agrees
        | ok _ =>
          apply Prog.Always.seq
            (Prog.Always.mapEach (I := Agrees) (fun payload s agrees => ?_) batch.garbage t agrees)
          · intro r u agrees
            cases r with
            | error e => exact agrees
            | ok _ =>
              refine ⟨trivial, fun _ v step => ?_⟩
              cases step
              exact ih agrees
          · obtain ⟨refused, conserved⟩ := agrees
            exact keeps_agrees (enqueue_keeps settings.producer _ rounds conserved)
      · obtain ⟨refused, conserved⟩ := agrees
        exact keeps_agrees (send_keeps settings.producer rounds event () conserved)

/-- Every message that was queued has been reported as delivered, and nothing else has. -/
structure AllConfirmed (s : Ledger Unit) : Prop where
  outstanding : s.client.queue = []
  failed : s.failed = []
  delivered : s.delivered.Perm s.client.produced

theorem AllConfirmed.of_counts {refused : Nat} (h : Conserved refused s) (queue : s.client.queue.length = 0)
    (failed : s.client.failedCount = 0) : AllConfirmed s := by
  have outstanding : s.client.queue = [] := List.length_eq_zero_iff.1 queue
  have counted := h.failed
  have no_failure : s.failed = [] := List.length_eq_zero_iff.1 (by omega)
  refine ⟨outstanding, no_failure, ?_⟩
  have placed := h.outstanding
  rwa [outstanding, no_failure, List.append_nil, List.append_nil] at placed

/-- The exit code 0 is given on the counters and the flush. -/
theorem main_confirms (avro : UnsubscribeEvent → Bytes) (settings : Settings) (rounds passes : Nat) :
    Prog.Always (Exec avro) (fun _ _ => True) (fun r s => exitCode r = 0 → AllConfirmed s)
      (main settings rounds passes) .fresh := by
  have loop : Prog.Always (Exec avro) (fun _ _ => True) (fun _ => Agrees)
      (produceUntilStopped settings rounds passes) .fresh :=
    produceUntilStopped_agrees rounds passes ⟨0, conserved_fresh⟩
  refine Prog.Always.bind (Prog.Always.attempt (loop.mono (fun _ _ guard => guard) ?_))
  rintro produced s ⟨refused, conserved⟩
  refine ⟨trivial, fun stillQueued t step => ?_⟩
  cases step with
  | producer flushed =>
    cases flushed with
    | quiet runs => exact absurd trivial runs
    | flushed callbacks =>
      cases produced with
      | error e => exact fun code => absurd code Nat.one_ne_zero
      | ok _ =>
        refine ⟨trivial, fun failed u step => ?_⟩
        cases step
        simp only [Prog.bind_ok]
        split
        · exact fun code => absurd code Nat.one_ne_zero
        · next lost =>
          rw [not_or, Nat.not_lt, Nat.not_lt, Nat.le_zero, Nat.le_zero] at lost
          exact fun _ => .of_counts (conserved.settled callbacks) lost.2 lost.1

end

/-- **The producer accounts for every message.** For every sequence of calls and everything the
client may do, the counters agree with the ledger whenever the client is called and between two
calls; and the event producers exit with 0 only if every message they queued was confirmed. -/
theorem producer_accounts {τ : Type} (avro : UnsubscribeEvent → Bytes) (settings : ProducerSettings)
    (calls : List (Kafka.Call τ)) (producers : Settings) (rounds passes : Nat) :
    Prog.Always (CallerExec avro) (Accounts avro) (fun _ => Accounted avro)
        (makeCalls settings rounds calls) ⟨.fresh, []⟩ ∧
      Prog.Always (Exec avro) (fun _ _ => True) (fun r s => exitCode r = 0 → AllConfirmed s)
        (main producers rounds passes) .fresh :=
  ⟨makeCalls_accounts settings rounds calls _ ⟨conserved_fresh, rfl⟩,
    main_confirms avro producers rounds passes⟩

end Tikblog.EventProducers
