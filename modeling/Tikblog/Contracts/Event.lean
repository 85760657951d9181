import Tikblog.Python.Runtime

/-!
# The unsubscribe event

The contract every producer emits and both consumers read (`contracts/model.py`), with the
Kafka message key (`contracts/avro.py`).
-/

namespace Tikblog.Contracts

open Python

inductive UnsubscribeSource where
  | ui
  | customerSuccess
  | legal
  deriving DecidableEq, Repr

def UnsubscribeSource.value : UnsubscribeSource → String
  | .ui => "UI"
  | .customerSuccess => "CUSTOMER_SUCCESS"
  | .legal => "LEGAL"

/-- An event; `aware` is what `__post_init__` enforces. -/
structure UnsubscribeEvent where
  eventId : String
  userId : String
  writerId : String
  source : UnsubscribeSource
  requestedAt : Datetime
  requestId : String
  csAgentId : Option String
  legalBatchId : Option String
  aware : requestedAt.utcoffset.isSome
  deriving DecidableEq, Repr

/-- The constructor of the dataclass, with its check. -/
def UnsubscribeEvent.new (eventId userId writerId : String) (source : UnsubscribeSource)
    (requestedAt : Datetime) (requestId : String) (csAgentId legalBatchId : Option String) :
    Except PyException UnsubscribeEvent :=
  if aware : requestedAt.utcoffset.isSome then
    .ok ⟨eventId, userId, writerId, source, requestedAt, requestId, csAgentId, legalBatchId, aware⟩
  else
    .error (.valueError "requested_at must include timezone")

/-- The key keeps the events of one subscription on one partition. -/
def messageKey (event : UnsubscribeEvent) : Bytes :=
  encode (event.userId ++ ":" ++ event.writerId)

end Tikblog.Contracts
