import Tikblog.Contracts.Avro
import Tikblog.Consumer.Client
import Tikblog.Unsubscribeme.Api

/-!
# The two ends of an exchange

What the consumer's client sends is read by the endpoint's payload model, and what the
endpoint returns or raises is read by the client. FastAPI and pydantic are parameters where
their texts and their timestamps are concerned; which fields are read, which body and which
status goes back are modelled.

The client returns only for a body with the six fields of an outcome, and of the bodies the
service sends only that of a successful response has them (`readResponse_ok`).
-/

namespace Tikblog.Operational

open Python Contracts
open Consumer (HttpRequest Response Reaction HoldsOutcome optionJson eventToJson)
open Unsubscribeme (UnsubscribeRequest UnsubscribeResponse HTTPException Outcome Request)

/-- What the libraries at the two ends make of a timestamp and of a JSON value, the body of
a rejected payload, and the status codes the server can send. -/
structure WebLibrary where
  datetime : Json → Option Datetime
  timestamp : Instant → String
  fromisoformat : String → Except String Datetime
  dumps : Json → String
  validationErrors : List (String × Json) → Json
  sendable : Int → Bool

/-! ## The request -/

/-- A field of type `str`. -/
def strField (body : List (String × Json)) (key : String) : Option String :=
  match body.lookup key with
  | some (.str s) => some s
  | _ => none

/-- A field of type `str | None` with the default `None`. -/
def optionalStrField (body : List (String × Json)) (key : String) : Option (Option String) :=
  match body.lookup key with
  | none => some none
  | some .null => some none
  | some (.str s) => some (some s)
  | some _ => none

/-- The validation of `UnsubscribeRequest`; none is a 422. The last three fields are
checked, and only logged. -/
def validate (lib : WebLibrary) (body : List (String × Json)) : Option UnsubscribeRequest := do
  let eventId ← strField body "event_id"
  let userId ← strField body "user_id"
  let writerId ← strField body "writer_id"
  let source ← (UnsubscribeSource.ofValue (← strField body "source")).toOption
  let requestedAt ← lib.datetime (← body.lookup "requested_at")
  let _ ← strField body "request_id"
  let _ ← optionalStrField body "cs_agent_id"
  let _ ← optionalStrField body "legal_batch_id"
  if aware : requestedAt.utcoffset.isSome then
    return ⟨eventId, userId, writerId, source, requestedAt, aware⟩
  else
    none

/-- The repository request that an event stands for. -/
def requestOf (event : UnsubscribeEvent) : Request where
  eventId := event.eventId
  userId := event.userId
  writerId := event.writerId
  source := event.source
  requestedAt := event.requestedAt.instant

/-- pydantic reads the time of the event as the instant it is. -/
def ReadsTime (lib : WebLibrary) (event : UnsubscribeEvent) : Prop :=
  ∀ d, lib.datetime (.str event.requestedAt.isoformat) = some d → d.instant = event.requestedAt.instant

theorem ofValue_value (source : UnsubscribeSource) : UnsubscribeSource.ofValue source.value = .ok source := by
  cases source <;> rfl

theorem optionalStrField_optionJson (o : Option String) {body : List (String × Json)} {key : String}
    (found : body.lookup key = some (optionJson o)) : optionalStrField body key = some o := by
  cases o <;> simp only [optionalStrField, found, optionJson]

/-- The payload the endpoint finds in what the client sends: the event, its time as pydantic
reads it. -/
theorem validate_eventToJson (lib : WebLibrary) (event : UnsubscribeEvent) :
    validate lib (eventToJson event) =
      (lib.datetime (.str event.requestedAt.isoformat)).bind fun d =>
        if aware : d.utcoffset.isSome then
          some ⟨event.eventId, event.userId, event.writerId, event.source, d, aware⟩
        else none := by
  have agent : optionalStrField (eventToJson event) "cs_agent_id" = some event.csAgentId :=
    optionalStrField_optionJson _ rfl
  have batch : optionalStrField (eventToJson event) "legal_batch_id" = some event.legalBatchId :=
    optionalStrField_optionJson _ rfl
  have time : (eventToJson event).lookup "requested_at" = some (.str event.requestedAt.isoformat) := rfl
  have source : strField (eventToJson event) "source" = some event.source.value := rfl
  have eventId : strField (eventToJson event) "event_id" = some event.eventId := rfl
  have userId : strField (eventToJson event) "user_id" = some event.userId := rfl
  have writerId : strField (eventToJson event) "writer_id" = some event.writerId := rfl
  have requestId : strField (eventToJson event) "request_id" = some event.requestId := rfl
  cases read : lib.datetime (.str event.requestedAt.isoformat) with
  | none =>
    simp [validate, time, source, eventId, userId, writerId, read, Except.toOption]
  | some d =>
    simp [validate, agent, batch, time, source, eventId, userId, writerId, requestId, ofValue_value, read,
      Except.toOption]

/-- An accepted payload asks for what the event asks for. -/
theorem validate_request {lib : WebLibrary} {event : UnsubscribeEvent} {payload : UnsubscribeRequest}
    (reads : ReadsTime lib event) (valid : validate lib (eventToJson event) = some payload) :
    payload.request = requestOf event := by
  rw [validate_eventToJson] at valid
  obtain ⟨d, read, found⟩ := Option.bind_eq_some_iff.1 valid
  by_cases aware : d.utcoffset.isSome
  · rw [dif_pos aware] at found
    cases found
    have same := reads d read
    simp only [UnsubscribeRequest.request, requestOf, same]
  · rw [dif_neg aware] at found
    cases found

/-! ## The response -/

/-- The literal of an outcome. -/
def outcomeText : Outcome → String
  | .created => "created"
  | .updated => "updated"
  | .unchanged => "unchanged"

section

variable (lib : WebLibrary)

/-- A `JSONResponse`. -/
def jsonResponse (statusCode : Nat) (body : Json) : Response := ⟨statusCode, .ok (PyStr.ofString (lib.dumps body)), .ok body⟩

/-- The body of a returned `UnsubscribeResponse`. -/
def responseBody (response : UnsubscribeResponse) : List (String × Json) :=
  [("user_id", .str response.userId),
   ("writer_id", .str response.writerId),
   ("status", .str response.status),
   ("unsubscribed_at", match response.unsubscribedAt with
    | some t => .str (lib.timestamp t)
    | none => .null),
   ("unsubscribe_source", optionJson response.unsubscribeSource),
   ("outcome", .str (outcomeText response.outcome))]

/-- What the endpoint returns, as it is sent. -/
def returned (response : UnsubscribeResponse) : Response := jsonResponse lib 200 (.obj (responseBody lib response))

/-- The answer to a payload that is not valid. -/
def unprocessable (body : List (String × Json)) : Response :=
  jsonResponse lib 422 (.obj [("detail", lib.validationErrors body)])

/-- A raised `HTTPException`, as it is sent: without a body where the status allows none, and
not at all where the server cannot send the status. -/
def raised (exc : HTTPException) : Option Response :=
  if lib.sendable exc.statusCode then
    if exc.statusCode < 200 ∨ exc.statusCode ∈ [204, 205, 304] then
      some ⟨exc.statusCode.toNat, .ok [], .error "Expecting value: line 1 column 1 (char 0)"⟩
    else
      some (jsonResponse lib exc.statusCode.toNat (.obj [("detail", .str exc.detail)]))
  else
    none

end

variable {lib : WebLibrary}

/-- No body but that of a returned response holds an outcome. -/
theorem raised_holds_none {exc : HTTPException} {response : Response} (sent : raised lib exc = some response) :
    ¬ HoldsOutcome lib.fromisoformat response := by
  rintro ⟨items, body, keys, -⟩
  obtain ⟨value, found⟩ := keys "user_id" (by decide)
  rw [raised] at sent
  split at sent
  · split at sent
    · cases sent
      cases body
    · cases sent
      cases body
      cases found
  · cases sent

theorem unprocessable_fails (body : List (String × Json)) : ¬ (unprocessable lib body).success := by
  show ¬ (200 ≤ 422 ∧ 422 < 300)
  decide

/-- Where the client returns, it has read a response. -/
theorem unsubscribe_ok {reaction : Reaction} {event : UnsubscribeEvent} {outcome : Consumer.UnsubscribeOutcome}
    (ok : Consumer.unsubscribe lib.fromisoformat reaction event = .ok outcome) :
    ∃ response, reaction = .response response ∧
      Consumer.readResponse lib.fromisoformat response = .ok outcome := by
  by_cases ascii : Consumer.isAscii event.requestId
  · cases reaction with
    | response response =>
      rw [Consumer.unsubscribe_response ascii] at ok
      exact ⟨response, rfl, ok⟩
    | httpError message =>
      rw [Consumer.unsubscribe_httpError ascii] at ok
      cases ok
  · rw [Consumer.unsubscribe_not_ascii ascii] at ok
    cases ok

end Tikblog.Operational
