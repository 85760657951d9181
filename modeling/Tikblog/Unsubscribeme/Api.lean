import Mathlib.Data.Rat.Init
import Mathlib.Algebra.Order.Ring.Rat
import Tikblog.Program.Component
import Tikblog.Unsubscribeme.Db

/-!
# The unsubscribe endpoint

`POST /unsubscribe` as a program over the repository's statements, the fault injector's
random numbers and its sleep. The payload has passed its validation: the timestamp carries
a time zone. Log records are left out.
-/

namespace Tikblog.Unsubscribeme

open Python Contracts Program

/-- The settings the endpoint reads; `failure_rate` within its bounds. -/
structure Settings where
  failureRate : ℚ
  failureStatus : Int
  latencyMs : Nat
  failureRate_nonneg : 0 ≤ failureRate
  failureRate_le_one : failureRate ≤ 1

def Settings.defaults : Settings where
  failureRate := 0
  failureStatus := 503
  latencyMs := 0
  failureRate_nonneg := by decide +kernel
  failureRate_le_one := by decide +kernel

/-- The fields of the payload that go to the repository. -/
structure UnsubscribeRequest where
  eventId : String
  userId : String
  writerId : String
  source : UnsubscribeSource
  requestedAt : Datetime
  aware : requestedAt.utcoffset.isSome

/-- The arguments the endpoint calls the repository with. -/
def UnsubscribeRequest.request (payload : UnsubscribeRequest) : Request where
  eventId := payload.eventId
  userId := payload.userId
  writerId := payload.writerId
  source := payload.source
  requestedAt := payload.requestedAt.instant

structure UnsubscribeResponse where
  userId : String
  writerId : String
  status : String
  unsubscribedAt : Option Instant
  unsubscribeSource : Option String
  outcome : Outcome
  deriving DecidableEq, Repr

def UnsubscribeResult.response (result : UnsubscribeResult) : UnsubscribeResponse where
  userId := result.userId
  writerId := result.writerId
  status := result.status.value
  unsubscribedAt := result.unsubscribedAt
  unsubscribeSource := result.unsubscribeSource.map UnsubscribeSource.value
  outcome := result.outcome

structure HTTPException where
  statusCode : Int
  detail : String
  deriving DecidableEq, Repr

inductive ApiOp where
  | random
  | sleep (seconds : ℚ)
  | repository (o : Op)

abbrev ApiAns : ApiOp → Type
  | .random => ℚ
  | .sleep _ => Unit
  | .repository o => Ans o

abbrev ApiM := Prog ApiOp ApiAns HTTPException

/-- `FaultInjector.should_fail`. -/
def shouldFail (settings : Settings) : ApiM Bool := do
  if 0 < settings.failureRate then
    let drawn ← Prog.perform ApiOp.random
    return decide (drawn < settings.failureRate)
  else
    return false

/-- `FaultInjector.sleep_before_call`. -/
def sleepBeforeCall (settings : Settings) : ApiM Unit := do
  if 0 < settings.latencyMs then
    Prog.perform (ApiOp.sleep (settings.latencyMs / 1000))

/-- `repository.unsubscribe(...)` as the endpoint calls it. -/
def callRepository (payload : UnsubscribeRequest) : ApiM (Except DatabaseError UnsubscribeResult) :=
  ((unsubscribe payload.request).embed ApiOp.repository fun _ a => a).attempt

/-- The endpoint. -/
def postUnsubscribe (settings : Settings) (payload : UnsubscribeRequest) : ApiM UnsubscribeResponse := do
  if ← shouldFail settings then
    throw ⟨settings.failureStatus, "injected failure"⟩
  sleepBeforeCall settings
  match ← callRepository payload with
  | .error _ => throw ⟨503, "database unavailable"⟩
  | .ok result => return result.response

end Tikblog.Unsubscribeme
