import Mathlib.Data.Rat.Init
import Mathlib.Algebra.Order.Ring.Rat
import Mathlib.Algebra.Order.Ring.WithTop
import Tikblog.Program.Prog
import Tikblog.Python.Encoding
import Tikblog.Kafka.Message
import Tikblog.Consumer.Client

/-!
# The unsubscribe consumer

`messages`, `deliver`, `park` and `main` as programs over the calls they make on the Kafka
consumer, the HTTP client, the dead-letter producer and the clock. Log records and the
closing of the HTTP client and of the group membership touch nothing the program reads and
are left out.
-/

namespace Tikblog.Consumer

open Python Contracts Kafka Program

/-- Durations: exact rationals, and the infinite float, which the checks let through. -/
abbrev Seconds := WithTop ℚ

/-- 63 bits of nanoseconds, as the clock of `time.sleep` has them. -/
def sleepMax : Seconds := ((2 ^ 63 - 1) / 10 ^ 9 : ℚ)

/-- What `time.sleep` may come to. It sleeps until the monotonic clock shows the pause more
than now, and may be refused where the system does not take that time, which is before the
pause alone exceeds 63 bits. -/
inductive SleepAnswer (seconds : Seconds) : Except PyException Unit → Prop where
  | slept : seconds ≤ sleepMax → SleepAnswer seconds (.ok ())
  | refused : seconds ≤ sleepMax → SleepAnswer seconds (.error (.osError "[Errno 22] Invalid argument"))
  | tooLong : sleepMax < seconds →
      SleepAnswer seconds (.error (.overflowError "timestamp too large to convert to C _PyTime_t"))

/-- The pauses a host takes for certain, whatever its monotonic clock shows: those up to
`longest`. -/
structure SleepLimit where
  longest : Seconds
  representable : longest ≤ sleepMax

/-- The settings of one deployment that the loop reads, with the validated bounds. -/
structure Settings where
  pollTimeoutSeconds : Seconds
  maxAttempts : Nat
  backoffInitialSeconds : Seconds
  backoffMultiplier : Seconds
  backoffMaxSeconds : Seconds
  dlqTopic : String
  dlqFlushTimeoutSeconds : Seconds
  maxAttempts_pos : 1 ≤ maxAttempts
  backoffInitialSeconds_pos : 0 < backoffInitialSeconds
  backoffMultiplier_ge : 1 ≤ backoffMultiplier
  backoffMaxSeconds_pos : 0 < backoffMaxSeconds
  dlqFlushTimeoutSeconds_pos : 0 < dlqFlushTimeoutSeconds

/-- The defaults pass their own checks. -/
def Settings.defaults : Settings where
  pollTimeoutSeconds := 1
  maxAttempts := 3
  backoffInitialSeconds := (1 / 2 : ℚ)
  backoffMultiplier := 2
  backoffMaxSeconds := 5
  dlqTopic := "unsubscribe-priority.dlq"
  dlqFlushTimeoutSeconds := 10
  maxAttempts_pos := by decide
  backoffInitialSeconds_pos := by decide +kernel
  backoffMultiplier_ge := by decide +kernel
  backoffMaxSeconds_pos := by decide +kernel
  dlqFlushTimeoutSeconds_pos := by decide +kernel

/-- The counters of `UnsubscribeConsumer`. -/
inductive Counter where
  | received
  | processed
  | failed
  deriving DecidableEq, Repr

inductive Op where
  | poll (timeout : Seconds)
  | fromBytes (payload : Bytes)
  | unsubscribe (event : UnsubscribeEvent)
  | sleep (seconds : Seconds)
  | nowIsoformat
  | produce (record : DlqRecord)
  | flush (timeout : Seconds)
  | commit (message : Message)
  | count (counter : Counter)

/-- Answers: `fromBytes` fails with the text of its exception, and `flush` returns the
number of messages still queued. -/
abbrev Ans : Op → Type
  | .poll _ => Option Message
  | .fromBytes _ => Except PyStr UnsubscribeEvent
  | .unsubscribe _ => Except PyException UnsubscribeOutcome
  | .sleep _ => Except PyException Unit
  | .nowIsoformat => String
  | .produce _ => Except PyException Unit
  | .flush _ => Nat
  | .commit _ => Except PyException Unit
  | .count _ => Unit

abbrev ConsumerM := Prog Op Ans PyException

/-- Make one call and return its answer. -/
abbrev call (o : Op) : ConsumerM (Ans o) := Prog.perform o

/-! ## DeadLetterProducer -/

/-- `error[:500].encode()`, the value of the header `dlq_error`. -/
def dlqError (error : PyStr) : Except PyException Bytes := PyStr.encode (error.take 500)

/-- The dead-letter copy of a message: key and value as received, the reason and the encoded
error in headers. -/
def parkedCopy (settings : Settings) (message : Message) (reason : String) (error : Bytes) (attempts : Nat)
    (failedAt : String) : DlqRecord where
  topic := settings.dlqTopic
  key := message.key
  value := message.value
  headers :=
    [("dlq_reason", encode reason),
     ("dlq_error", error),
     ("dlq_attempts", encode (toString attempts)),
     ("dlq_failed_at", encode failedAt),
     ("source_topic", encode message.topic),
     ("source_partition", encode (toString message.partition)),
     ("source_offset", encode (toString message.offset))]

/-- `DeadLetterProducer.park`: the number of messages `flush` leaves queued and the errors
its callbacks report are not looked at. An error with a surrogate in the part that is kept
cannot be encoded, and nothing is parked. -/
def park (settings : Settings) (message : Message) (reason : String) (error : PyStr) (attempts : Nat) :
    ConsumerM Unit := do
  let error ← Prog.ofExcept (dlqError error)
  let failedAt ← call .nowIsoformat
  Prog.ofExcept (← call (.produce (parkedCopy settings message reason error attempts failedAt)))
  let _ ← call (.flush settings.dlqFlushTimeoutSeconds)

/-- `DeadLetterProducer.close`. -/
def closeDlq (settings : Settings) : ConsumerM Unit := do
  let _ ← call (.flush settings.dlqFlushTimeoutSeconds)

/-! ## deliver -/

/-- The passes of `deliver` over the attempts still to make. -/
def deliverLoop (settings : Settings) (event : UnsubscribeEvent) (message : Message) :
    List Nat → Seconds → ConsumerM Unit
  | [], _ => pure ()
  | attempt :: later, delay => do
    match ← call (.unsubscribe event) with
    | .ok _ => return ()
    | .error (.permanentRejection error) =>
      park settings message "permanent_rejection" error attempt
    | .error (.transientError error) =>
      if attempt = settings.maxAttempts then
        park settings message "transient_exhausted" error attempt
      else do
        Prog.ofExcept (← call (.sleep delay))
        deliverLoop settings event message later
          (min (delay * settings.backoffMultiplier) settings.backoffMaxSeconds)
    | .error error => throw error

/-- `deliver`: attempts are numbered `1 .. maxAttempts`. -/
def deliver (settings : Settings) (event : UnsubscribeEvent) (message : Message) : ConsumerM Unit :=
  deliverLoop settings event message (List.range' 1 settings.maxAttempts) settings.backoffInitialSeconds

/-! ## UnsubscribeConsumer and main -/

/-- One pass of the loop in `messages`: the record it yields, if any. -/
def nextRecord (settings : Settings) : ConsumerM (Option ConsumedRecord) := do
  match ← call (.poll settings.pollTimeoutSeconds) with
  | none => return none
  | some msg =>
    if msg.error.isSome then
      return none
    else do
      call (.count .received)
      match msg.value with
      | none => throw (.assertionError "message without error() must have a value")
      | some value =>
        match ← call (.fromBytes value) with
        | .ok event => return some ⟨msg, some event, none⟩
        | .error exc => do
          call (.count .failed)
          return some ⟨msg, none, some exc⟩

/-- `UnsubscribeConsumer.commit`. -/
def commit (message : Message) : ConsumerM Unit := do
  Prog.ofExcept (← call (.commit message))
  call (.count .processed)

/-- `record.deserialization_error or "unknown"`. -/
def errorOrUnknown : Option PyStr → PyStr
  | none | some [] => PyStr.ofString "unknown"
  | some error => error

/-- The body of the `for` loop in `main`. -/
def handleRecord (settings : Settings) (record : ConsumedRecord) : ConsumerM Unit := do
  match record.event with
  | none =>
    park settings record.message "deserialization_failed" (errorOrUnknown record.deserializationError) 0
    commit record.message
  | some event =>
    deliver settings event record.message
    commit record.message

/-- One pass of `messages` and, if it yields a record, of the loop body. -/
def iteration (settings : Settings) : ConsumerM Unit := do
  match ← nextRecord settings with
  | none => return ()
  | some record => handleRecord settings record

/-- The loop of `main`, shutdown being requested after `passes` passes. -/
def loop (settings : Settings) : Nat → ConsumerM Unit
  | 0 => pure ()
  | passes + 1 => do
    iteration settings
    loop settings passes

/-- `main`, from the start of the loop to the end of the `finally` block. -/
def main (settings : Settings) (passes : Nat) : ConsumerM Unit :=
  (loop settings passes).finally' (closeDlq settings)

end Tikblog.Consumer
