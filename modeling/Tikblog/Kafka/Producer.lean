import Mathlib.Data.List.Perm.Subperm
import Mathlib.Data.Rat.Init
import Mathlib.Algebra.Order.Ring.Rat
import Tikblog.Program.Prog
import Tikblog.Contracts.Event

/-!
# The event producer

`UnsubscribeProducer` over the Kafka client it wraps. `send` puts a message into the
client's local queue; its callback runs later, in some `poll` or `flush`, at most once, and
moves `delivered_count` or `failed_count`. Kafka may have written a message long before its
callback runs, or although the callback reports a failure, but never twice.

Messages carry a tag that says on whose behalf they are sent; the client does not look at
it. `Balanced` is the accounting that holds between the callbacks: every message sent since
some point is delivered, failed or still queued, and `delivered_count` has grown by the
delivered ones.
-/

namespace Tikblog.Kafka

open Python Contracts Program

/-- A message handed to the Kafka client. -/
structure Outgoing (τ : Type) where
  key : Bytes
  value : Bytes
  tag : τ

/-- The settings of `ProducerConfig` that the code reads after construction. -/
structure ProducerSettings where
  queueFullTimeoutSeconds : ℚ
  flushTimeoutSeconds : ℚ

/-- The counters the producer moves itself; `delivered_count` moves in callbacks only. -/
inductive SendCounter where
  | sent
  | failed
  deriving DecidableEq, Repr

inductive ProducerOp (τ : Type) where
  | toBytes (event : UnsubscribeEvent)
  | monotonic
  | produce (message : Outgoing τ)
  | poll (timeout : ℚ)
  | flush (timeout : ℚ)
  | deliveredCount
  | count (counter : SendCounter)

abbrev ProducerAns {τ : Type} : ProducerOp τ → Type
  | .toBytes _ => Except PyException Bytes
  | .monotonic => ℚ
  | .produce _ => Except PyException Unit
  | .poll _ => Unit
  | .flush _ => Nat
  | .deliveredCount => Nat
  | .count _ => Unit

abbrev ProducerM (τ : Type) := Prog (ProducerOp τ) ProducerAns PyException

section Code

variable {τ : Type}

abbrev producerCall (o : ProducerOp τ) : ProducerM τ (ProducerAns o) := Prog.perform o

/-- `UnsubscribeProducer.poll`. -/
def poll : ProducerM τ Unit := producerCall (.poll 0)

/-- `UnsubscribeProducer.flush`. -/
def flush (settings : ProducerSettings) : ProducerM τ Nat :=
  producerCall (.flush settings.flushTimeoutSeconds)

/-- The loop of `_enqueue`. The deadline has passed after at most `rounds` attempts. -/
def enqueueLoop (message : Outgoing τ) (deadline : ℚ) : Nat → ProducerM τ Unit
  | 0 => do
    producerCall (.count .failed)
    throw .bufferError
  | rounds + 1 => do
    match ← producerCall (.produce message) with
    | .ok () => do
      producerCall (.count .sent)
      poll
    | .error .bufferError => do
      let remaining := deadline - (← producerCall .monotonic)
      if remaining ≤ 0 then do
        producerCall (.count .failed)
        throw .bufferError
      else do
        producerCall (.poll (min 1 remaining))
        enqueueLoop message deadline rounds
    | .error error => throw error

/-- `UnsubscribeProducer._enqueue`. -/
def enqueue (settings : ProducerSettings) (rounds : Nat) (message : Outgoing τ) : ProducerM τ Unit := do
  let start ← producerCall .monotonic
  enqueueLoop message (start + settings.queueFullTimeoutSeconds) rounds

/-- `UnsubscribeProducer.send`. -/
def send (settings : ProducerSettings) (rounds : Nat) (event : UnsubscribeEvent) (tag : τ) :
    ProducerM τ Unit := do
  let payload ← Prog.ofExcept (← producerCall (.toBytes event))
  enqueue settings rounds ⟨messageKey event, payload, tag⟩

end Code

/-! ## The client -/

/-- The local queue and counters of the producer, and what became of its messages:
`produced` were ever accepted into the queue, `topic` written by Kafka, and `acked`
reported as delivered. The last three outlive the process. -/
structure ProducerState (τ : Type) where
  queue : List (Outgoing τ)
  sentCount : Nat
  deliveredCount : Nat
  failedCount : Nat
  produced : List (Outgoing τ)
  topic : List (Outgoing τ)
  acked : List (Outgoing τ)

namespace ProducerState

variable {τ : Type}

/-- Nothing was ever sent. -/
def fresh : ProducerState τ := ⟨[], 0, 0, 0, [], [], []⟩

def enqueue (k : ProducerState τ) (m : Outgoing τ) : ProducerState τ :=
  { k with queue := k.queue ++ [m], produced := k.produced ++ [m] }

def count (k : ProducerState τ) : SendCounter → ProducerState τ
  | .sent => { k with sentCount := k.sentCount + 1 }
  | .failed => { k with failedCount := k.failedCount + 1 }

/-- The callbacks of one `poll` or `flush`, with what Kafka has written meanwhile. -/
def settled (k : ProducerState τ) (delivered failed remaining written : List (Outgoing τ)) :
    ProducerState τ :=
  { k with
    queue := remaining
    deliveredCount := k.deliveredCount + delivered.length
    failedCount := k.failedCount + failed.length
    topic := k.topic ++ written
    acked := k.acked ++ delivered }

/-- A new process: the queue and the counters are gone, and Kafka may still write some of
the messages it was sent. -/
def restarted (k : ProducerState τ) (written : List (Outgoing τ)) : ProducerState τ :=
  { fresh with produced := k.produced, topic := k.topic ++ written, acked := k.acked }

/-- Kafka writes each produced message at most once. -/
def MayWrite (k : ProducerState τ) (written : List (Outgoing τ)) : Prop :=
  (k.topic ++ written).Subperm k.produced

/-- Each queued message gets at most one callback, and is reported delivered only once
Kafka has written it. -/
def Settles (k k' : ProducerState τ) : Prop :=
  ∃ delivered failed remaining written, (delivered ++ failed ++ remaining).Perm k.queue ∧
    k.MayWrite written ∧ delivered ⊆ k.topic ++ written ∧
    k' = k.settled delivered failed remaining written

end ProducerState

/-- The client and the clock. `avro` is the encoding of events. -/
inductive ProducerExec {τ : Type} (avro : UnsubscribeEvent → Bytes) :
    Program.Exec (ProducerOp τ) ProducerAns (ProducerState τ) where
  | encoded {event k} : ProducerExec avro (.toBytes event) k (.ok (avro event)) k
  | notEncoded {event k text} :
      ProducerExec avro (.toBytes event) k (.error (.serializationError text)) k
  | monotonic {k now} : ProducerExec avro .monotonic k now k
  | produced {m k} : ProducerExec avro (.produce m) k (.ok ()) (k.enqueue m)
  | queueFull {m k} : ProducerExec avro (.produce m) k (.error .bufferError) k
  | refused {m k text} : ProducerExec avro (.produce m) k (.error (.kafkaException text)) k
  | polled {timeout k k'} : k.Settles k' → ProducerExec avro (.poll timeout) k () k'
  | flushed {timeout k k'} : k.Settles k' → ProducerExec avro (.flush timeout) k k'.queue.length k'
  | deliveredCount {k} : ProducerExec avro .deliveredCount k k.deliveredCount k
  | counted {c k} : ProducerExec avro (.count c) k () (k.count c)

section Accounting

variable {τ : Type} {avro : UnsubscribeEvent → Bytes} {k k' : ProducerState τ}
  {sent : List (Outgoing τ)} {before : Nat}

/-- The messages `sent` since `delivered_count` was `before` are delivered, failed or queued. -/
def Balanced (before : Nat) (sent : List (Outgoing τ)) (k : ProducerState τ) : Prop :=
  ∃ delivered failed, (delivered ++ failed ++ k.queue).Perm sent ∧ delivered ⊆ k.acked ∧
    k.deliveredCount = before + delivered.length

theorem balanced_start (h : k.queue = []) : Balanced k.deliveredCount [] k :=
  ⟨[], [], by simp [h], by simp, rfl⟩

theorem Balanced.enqueue (h : Balanced before sent k) (m : Outgoing τ) :
    Balanced before (sent ++ [m]) (k.enqueue m) := by
  obtain ⟨delivered, failed, split, acked, counted⟩ := h
  refine ⟨delivered, failed, ?_, acked, counted⟩
  have appended := split.append_right [m]
  simpa [ProducerState.enqueue] using appended

/-- What was delivered and what failed, with the callbacks that follow. -/
theorem regroup (delivered d failed f remaining : List (Outgoing τ)) :
    (delivered ++ d ++ (failed ++ f) ++ remaining).Perm (delivered ++ failed ++ (d ++ f ++ remaining)) := by
  simp only [List.append_assoc]
  exact (List.perm_append_comm_assoc d failed _).append_left delivered

theorem Balanced.settle (h : Balanced before sent k) (settles : k.Settles k') :
    Balanced before sent k' := by
  obtain ⟨delivered, failed, split, acked, counted⟩ := h
  obtain ⟨d, f, remaining, written, perm, -, -, rfl⟩ := settles
  refine ⟨delivered ++ d, failed ++ f, ?_, ?_, ?_⟩
  · exact ((regroup delivered d failed f remaining).trans (perm.append_left _)).trans split
  · intro m hm
    rcases List.mem_append.1 hm with hm | hm
    · exact List.mem_append_left _ (acked hm)
    · exact List.mem_append_right _ hm
  · have : (k.settled d f remaining written).deliveredCount = k.deliveredCount + d.length := rfl
    rw [this, counted, List.length_append]
    omega

/-- Once the queue is empty and as many were delivered as were sent, all are acknowledged. -/
theorem Balanced.all_acked (h : Balanced before sent k) (empty : k.queue = [])
    (all : k.deliveredCount = before + sent.length) : sent ⊆ k.acked := by
  obtain ⟨delivered, failed, split, acked, counted⟩ := h
  have lengths := split.length_eq
  simp only [empty, List.append_nil, List.length_append] at lengths
  have none_failed : failed = [] := List.length_eq_zero_iff.1 (by omega)
  intro m hm
  have member := split.symm.subset hm
  exact acked (by simpa [empty, none_failed] using member)

/-- Acknowledgements are never taken back. -/
theorem ProducerExec.acked_grows {o : ProducerOp τ} {a : ProducerAns o}
    (h : ProducerExec avro o k a k') : k.acked ⊆ k'.acked := by
  cases h with
  | polled settles | flushed settles =>
    obtain ⟨d, f, remaining, written, -, -, -, rfl⟩ := settles
    exact List.subset_append_left _ _
  | @counted c => cases c <;> exact fun _ h => h
  | _ => exact fun _ h => h

/-- Only `produce` adds to the messages produced. -/
theorem ProducerExec.produced_eq {o : ProducerOp τ} {a : ProducerAns o}
    (h : ProducerExec avro o k a k') : k'.produced = k.produced ∨
      ∃ m, o = .produce m ∧ k'.produced = k.produced ++ [m] := by
  cases h with
  | polled settles | flushed settles =>
    obtain ⟨d, f, remaining, written, -, -, -, rfl⟩ := settles
    exact .inl rfl
  | @counted c => cases c <;> exact .inl rfl
  | produced => exact .inr ⟨_, rfl, rfl⟩
  | _ => exact .inl rfl

theorem ProducerExec.produced_of_ne {o : ProducerOp τ} {a : ProducerAns o}
    (h : ProducerExec avro o k a k') (quiet : ∀ m, o ≠ .produce m) : k'.produced = k.produced := by
  rcases h.produced_eq with same | ⟨m, produces, -⟩
  · exact same
  · exact absurd produces (quiet m)

/-- What is on the topic was produced, and no message is there more often than it was
produced. -/
theorem ProducerExec.topic_subperm {o : ProducerOp τ} {a : ProducerAns o}
    (h : ProducerExec avro o k a k') (topic : k.topic.Subperm k.produced) :
    k'.topic.Subperm k'.produced := by
  cases h with
  | polled settles | flushed settles =>
    obtain ⟨d, f, remaining, written, -, may, -, rfl⟩ := settles
    exact may
  | @counted c => cases c <;> exact topic
  | produced => exact topic.trans (List.sublist_append_left _ _).subperm
  | _ => exact topic

/-- What was acknowledged was written. -/
theorem ProducerExec.acked_written {o : ProducerOp τ} {a : ProducerAns o}
    (h : ProducerExec avro o k a k') (acked : k.acked ⊆ k.topic) : k'.acked ⊆ k'.topic := by
  cases h with
  | polled settles | flushed settles =>
    obtain ⟨d, f, remaining, written, -, -, delivered, rfl⟩ := settles
    exact List.append_subset.2 ⟨List.Subset.trans acked (List.subset_append_left _ _), delivered⟩
  | @counted c => cases c <;> exact acked
  | _ => exact acked

/-! ## One send -/

/-- `_enqueue` offers its message and no other. -/
theorem enqueueLoop_offers (m : Outgoing τ) (deadline : ℚ) (rounds : Nat) :
    (enqueueLoop m deadline rounds).Uses fun o => ∀ m', o = .produce m' → m' = m := by
  induction rounds with
  | zero => exact ⟨nofun, fun _ => trivial⟩
  | succ rounds ih =>
    refine ⟨fun _ same => by cases same; rfl, fun result => ?_⟩
    cases result with
    | ok _ => exact ⟨nofun, fun _ => ⟨nofun, fun _ => trivial⟩⟩
    | error e =>
      cases e with
      | bufferError =>
        refine ⟨nofun, fun now => ?_⟩
        simp only [Prog.bind_ok]
        split
        · exact ⟨nofun, fun _ => trivial⟩
        · exact ⟨nofun, fun _ => ih⟩
      | _ => exact trivial

theorem enqueue_offers (settings : ProducerSettings) (rounds : Nat) (m : Outgoing τ) :
    (enqueue settings rounds m).Uses fun o => ∀ m', o = .produce m' → m' = m :=
  ⟨nofun, fun start => enqueueLoop_offers m (start + settings.queueFullTimeoutSeconds) rounds⟩

/-- The message was added to `p₀` at most once, and nothing else was. -/
def SentAtMost (p₀ : List (Outgoing τ)) (m : Outgoing τ) (k : ProducerState τ) : Prop :=
  k.produced = p₀ ∨ k.produced = p₀ ++ [m]

/-- What holds while the message is on its way into the queue. -/
def Offering (p₀ : List (Outgoing τ)) (m : Outgoing τ) (o : ProducerOp τ) (k : ProducerState τ) : Prop :=
  SentAtMost p₀ m k ∧ ∀ m', o = .produce m' → m' = m ∧ k.produced = p₀

/-- What a send comes to: the message is in the queue if it returns, and not if it raises. -/
def SendPost (before : Nat) (sent p₀ : List (Outgoing τ)) (m : Outgoing τ) (r : Except PyException Unit)
    (k : ProducerState τ) : Prop :=
  match r with
  | .ok _ => k.produced = p₀ ++ [m] ∧ Balanced before (sent ++ [m]) k
  | .error e => k.produced = p₀ ∧ ∀ text, e ≠ .rowError text

theorem enqueueLoop_spec {m : Outgoing τ} {deadline : ℚ} (rounds : Nat) (h : Balanced before sent k) :
    Prog.Always (ProducerExec avro) (Offering k.produced m) (SendPost before sent k.produced m)
      (enqueueLoop m deadline rounds) k := by
  generalize p₀_eq : k.produced = p₀
  induction rounds generalizing k with
  | zero =>
    refine ⟨⟨.inl p₀_eq, by simp⟩, ?_⟩
    intro _ k₁ h₁
    cases h₁
    exact ⟨p₀_eq, by simp⟩
  | succ rounds ih =>
    refine ⟨⟨.inl p₀_eq, fun _ same => by cases same; exact ⟨rfl, p₀_eq⟩⟩, ?_⟩
    intro result k₁ h₁
    cases h₁ with
    | produced =>
      have one : (k.enqueue m).produced = p₀ ++ [m] := by rw [← p₀_eq]; rfl
      refine ⟨⟨.inr one, by simp⟩, ?_⟩
      intro _ k₂ h₂
      cases h₂
      refine ⟨⟨.inr one, by simp⟩, ?_⟩
      intro _ k₃ h₃
      cases h₃ with
      | polled settles =>
        have counted : Balanced before (sent ++ [m]) ((k.enqueue m).count .sent) := h.enqueue m
        have balanced := counted.settle settles
        obtain ⟨d, f, remaining, written, -, -, -, rfl⟩ := settles
        exact ⟨one, balanced⟩
    | refused => exact ⟨p₀_eq, by simp⟩
    | queueFull =>
      refine ⟨⟨.inl p₀_eq, by simp⟩, ?_⟩
      intro now k₂ h₂
      cases h₂
      simp only [Prog.bind_ok]
      split
      · refine ⟨⟨.inl p₀_eq, by simp⟩, ?_⟩
        intro _ k₃ h₃
        cases h₃
        exact ⟨p₀_eq, by simp⟩
      · refine ⟨⟨.inl p₀_eq, by simp⟩, ?_⟩
        intro _ k₃ h₃
        cases h₃ with
        | polled settles =>
          have balanced := h.settle settles
          obtain ⟨d, f, remaining, written, -, -, -, rfl⟩ := settles
          exact ih balanced p₀_eq

/-- The message `send` makes of an event. -/
def eventMessage (avro : UnsubscribeEvent → Bytes) (event : UnsubscribeEvent) (tag : τ) : Outgoing τ :=
  ⟨messageKey event, avro event, tag⟩

/-- **One send** queues the message of the event if it returns and nothing if it raises, and
keeps the accounts of the messages sent before. -/
theorem send_spec (settings : ProducerSettings) (rounds : Nat) (event : UnsubscribeEvent) (tag : τ)
    (h : Balanced before sent k) :
    Prog.Always (ProducerExec avro) (Offering k.produced (eventMessage avro event tag))
      (SendPost before sent k.produced (eventMessage avro event tag))
      (send settings rounds event tag) k := by
  refine ⟨⟨.inl rfl, by simp⟩, ?_⟩
  intro result k₁ h₁
  cases h₁ with
  | notEncoded => exact ⟨rfl, by simp⟩
  | encoded =>
    refine ⟨⟨.inl rfl, by simp⟩, ?_⟩
    intro start k₂ h₂
    cases h₂
    exact @enqueueLoop_spec _ avro _ _ _ (eventMessage avro event tag) _ rounds h

end Accounting

end Tikblog.Kafka
