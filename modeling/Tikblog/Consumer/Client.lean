import Mathlib.Algebra.Field.Rat
import Tikblog.Python.Encoding
import Tikblog.Contracts.Event

/-!
# The HTTP client of the consumer

`UnsubscribeMeClient.unsubscribe` makes one `POST /unsubscribe` and turns whatever comes of
it into an outcome or an exception. httpx itself is the function `post`: it fails on a
header that is not ASCII before anything is sent, and otherwise yields the reaction of the
network, a response or an `httpx.HTTPError`. `datetime.fromisoformat` is a parameter, with
the text of its `ValueError`.

Every exchange should come out as one of three verdicts (`Reaction.expected`): success,
worth a retry, or permanently rejected. `unsubscribe_classified_iff` says for which events
and reactions it does.
-/

namespace Tikblog.Consumer

open Python Contracts

/-- An `httpx.Response`: `text` is `response.text`, or the text of the `UnicodeError` that the
decoder of the charset in its headers raises; `json` is what `response.json()` returns, or the
text of the `ValueError` it raises. -/
structure Response where
  statusCode : Nat
  text : Except String PyStr
  json : Except String Json

def Response.success (response : Response) : Prop :=
  200 ≤ response.statusCode ∧ response.statusCode < 300

instance (response : Response) : Decidable response.success :=
  inferInstanceAs (Decidable (_ ∧ _))

/-- What comes of a request that was sent. -/
inductive Reaction where
  | response (response : Response)
  | httpError (message : String)

structure HttpRequest where
  path : String
  json : List (String × Json)
  headers : List (String × String)

def isAscii (s : String) : Bool := s.toList.all fun c => c.toNat < 128

/-- What `s.encode("ascii")` raises where `s` is not ASCII. -/
def asciiError (s : String) : PyException :=
  .unicodeEncodeError
    (encodeErrorText "ascii" "ordinal not in range(128)" (fun c => c.toNat < 128) (PyStr.ofString s))

/-- The headers of a request, of which only the failure is of interest. -/
def encodeHeaders (headers : List (String × String)) : Except PyException Unit :=
  match headers.find? fun h => !isAscii h.2 with
  | none => .ok ()
  | some h => .error (asciiError h.2)

/-- `httpx.Client.post`, headers being encoded before the request is sent. -/
def post (reaction : Reaction) (request : HttpRequest) : Except PyException Response := do
  encodeHeaders request.headers
  match reaction with
  | .response response => .ok response
  | .httpError message => .error (.httpError message)

/-- The parsed 200 response; the dataclass checks no type, so the fields hold JSON. -/
structure UnsubscribeOutcome where
  userId : Json
  writerId : Json
  status : Json
  unsubscribedAt : Datetime
  unsubscribeSource : Json
  outcome : Json

def optionJson : Option String → Json
  | none => .null
  | some s => .str s

/-- `_event_to_json`. -/
def eventToJson (event : UnsubscribeEvent) : List (String × Json) :=
  [("event_id", .str event.eventId),
   ("user_id", .str event.userId),
   ("writer_id", .str event.writerId),
   ("source", .str event.source.value),
   ("requested_at", .str event.requestedAt.isoformat),
   ("request_id", .str event.requestId),
   ("cs_agent_id", optionJson event.csAgentId),
   ("legal_batch_id", optionJson event.legalBatchId)]

section

variable (fromisoformat : String → Except String Datetime)

/-- `datetime.fromisoformat(value)` on a JSON value, which need not be a string. -/
def fromisoformatJson : Json → Except PyException Datetime
  | .str s =>
    match fromisoformat s with
    | .ok d => .ok d
    | .error message => .error (.valueError message)
  | _ => .error (.typeError "fromisoformat: argument must be str")

/-- `response.json()`. -/
def Response.loadJson (response : Response) : Except PyException Json :=
  match response.json with
  | .ok body => .ok body
  | .error message => .error (.valueError message)

/-- `response.text`. -/
def Response.loadText (response : Response) : Except PyException PyStr :=
  match response.text with
  | .ok text => .ok text
  | .error message => .error (.unicodeError message)

/-- The outcome read out of a 2xx body. -/
def parseOutcome (response : Response) : Except PyException UnsubscribeOutcome := do
  let body ← response.loadJson
  let userId ← body.getItem "user_id"
  let writerId ← body.getItem "writer_id"
  let status ← body.getItem "status"
  let unsubscribedAt ← fromisoformatJson fromisoformat (← body.getItem "unsubscribed_at")
  let unsubscribeSource ← body.getItem "unsubscribe_source"
  let outcome ← body.getItem "outcome"
  return { userId, writerId, status, unsubscribedAt, unsubscribeSource, outcome }

/-- What `unsubscribe` makes of a response. -/
def readResponse (response : Response) : Except PyException UnsubscribeOutcome :=
  if response.success then
    parseOutcome fromisoformat response
  else if response.statusCode ∈ [408, 429] ∨ 500 ≤ response.statusCode then do
    let text ← response.loadText
    .error (.transientError
      (PyStr.ofString ("UnsubscribeMe returned " ++ toString response.statusCode ++ ": ") ++ text))
  else do
    let text ← response.loadText
    .error (.permanentRejection
      (PyStr.ofString ("UnsubscribeMe rejected the request with " ++ toString response.statusCode ++ ": ") ++
        text))

/-- The request `unsubscribe` makes for an event. -/
def unsubscribeRequest (event : UnsubscribeEvent) : HttpRequest :=
  { path := "/unsubscribe"
    json := eventToJson event
    headers := [("X-Request-Id", event.requestId)] }

/-- `UnsubscribeMeClient.unsubscribe`, with the reaction the request meets. -/
def unsubscribe (reaction : Reaction) (event : UnsubscribeEvent) :
    Except PyException UnsubscribeOutcome :=
  match post reaction (unsubscribeRequest event) with
  | .ok response => readResponse fromisoformat response
  | .error (.httpError error) =>
    .error (.transientError (PyStr.ofString ("request to UnsubscribeMe failed: " ++ error)))
  | .error error => .error error

/-- The request of the event was sent and answered with a 2xx status. -/
def Answered2xx (reaction : Reaction) (event : UnsubscribeEvent) : Prop :=
  ∃ response, post reaction (unsubscribeRequest event) = .ok response ∧ response.success

end

/-! ## Classification -/

/-- The three ways an exchange may come out for `deliver`. -/
inductive Verdict where
  | returns
  | transient
  | permanent
  deriving DecidableEq, Repr

/-- How each reaction of the HTTP stack is meant to be taken: 2xx succeeds, a transport
error, 408, 429 and 5xx are worth a retry, and any other status is final. -/
def Reaction.expected : Reaction → Verdict
  | .httpError _ => .transient
  | .response r =>
    if r.success then .returns
    else if r.statusCode ∈ [408, 429] ∨ (500 ≤ r.statusCode ∧ r.statusCode < 600) then .transient
    else .permanent

/-- The verdict `deliver` can read off a result; none for an exception it does not catch. -/
def verdict : Except PyException UnsubscribeOutcome → Option Verdict
  | .ok _ => some .returns
  | .error (.transientError _) => some .transient
  | .error (.permanentRejection _) => some .permanent
  | .error _ => none

/-- The keys `unsubscribe` reads from a 2xx body. -/
def outcomeKeys : List String :=
  ["user_id", "writer_id", "status", "unsubscribed_at", "unsubscribe_source", "outcome"]

/-- A body that holds an outcome: a JSON object with the six keys, the time being a string
that `datetime.fromisoformat` accepts. -/
def HoldsOutcome (fromisoformat : String → Except String Datetime) (response : Response) : Prop :=
  ∃ items, response.json = .ok (.obj items) ∧
    (∀ key ∈ outcomeKeys, ∃ value, items.lookup key = some value) ∧
    ∃ s d, items.lookup "unsubscribed_at" = some (.str s) ∧ fromisoformat s = .ok d

/-- The reactions `unsubscribe` reads as meant. -/
def Reaction.Readable (fromisoformat : String → Except String Datetime) : Reaction → Prop
  | .httpError _ => True
  | .response r => r.statusCode < 600 ∧ (r.success → HoldsOutcome fromisoformat r) ∧
      (¬ r.success → ∃ text, r.text = .ok text)

variable {fromisoformat : String → Except String Datetime}

/-- A request goes out exactly when its request id can be a header. -/
theorem post_unsubscribeRequest (reaction : Reaction) (event : UnsubscribeEvent) :
    post reaction (unsubscribeRequest event) =
      if isAscii event.requestId then
        match reaction with
        | .response response => .ok response
        | .httpError message => .error (.httpError message)
      else .error (asciiError event.requestId) := by
  cases ascii : isAscii event.requestId <;>
    simp [post, encodeHeaders, unsubscribeRequest, ascii, bind, Except.bind]

theorem unsubscribe_not_ascii {reaction : Reaction} {event : UnsubscribeEvent}
    (h : ¬ isAscii event.requestId) :
    unsubscribe fromisoformat reaction event =
      .error (asciiError event.requestId) := by
  simp [unsubscribe, post_unsubscribeRequest, h, asciiError]

theorem unsubscribe_httpError {event : UnsubscribeEvent} (h : isAscii event.requestId)
    (message : String) :
    unsubscribe fromisoformat (.httpError message) event =
      .error (.transientError (PyStr.ofString ("request to UnsubscribeMe failed: " ++ message))) := by
  simp [unsubscribe, post_unsubscribeRequest, h]

theorem unsubscribe_response {event : UnsubscribeEvent} (h : isAscii event.requestId)
    (response : Response) :
    unsubscribe fromisoformat (.response response) event = readResponse fromisoformat response := by
  simp [unsubscribe, post_unsubscribeRequest, h]

/-! The body of a 2xx response: where `parseOutcome` succeeds, and what it raises. -/

theorem ok_of_bind {ε α β : Type} {x : Except ε α} {f : α → Except ε β} {b : β}
    (h : (x >>= f) = .ok b) : ∃ a, x = .ok a ∧ f a = .ok b := by
  cases x with
  | error e => cases h
  | ok a => exact ⟨a, rfl, h⟩

theorem error_of_bind {ε α β : Type} {x : Except ε α} {f : α → Except ε β} {e : ε}
    (h : (x >>= f) = .error e) : x = .error e ∨ ∃ a, x = .ok a ∧ f a = .error e := by
  cases x with
  | error e' => exact .inl (by simpa [bind, Except.bind] using h)
  | ok a => exact .inr ⟨a, rfl, h⟩

theorem fromisoformatJson_ok_iff {value : Json} {d : Datetime} :
    fromisoformatJson fromisoformat value = .ok d ↔
      ∃ s, value = .str s ∧ fromisoformat s = .ok d := by
  cases value with
  | str s => cases h : fromisoformat s <;> simp [fromisoformatJson, h]
  | _ => simp [fromisoformatJson]

theorem loadJson_ok_iff {response : Response} {body : Json} :
    response.loadJson = .ok body ↔ response.json = .ok body := by
  cases h : response.json <;> simp [Response.loadJson, h]

theorem holdsOutcome_of_parse {response : Response} {outcome : UnsubscribeOutcome}
    (h : parseOutcome fromisoformat response = .ok outcome) :
    HoldsOutcome fromisoformat response := by
  obtain ⟨body, hbody, h⟩ := ok_of_bind h
  obtain ⟨_, hu, h⟩ := ok_of_bind h
  obtain ⟨_, hw, h⟩ := ok_of_bind h
  obtain ⟨_, hs, h⟩ := ok_of_bind h
  obtain ⟨_, ht, h⟩ := ok_of_bind h
  obtain ⟨d, hd, h⟩ := ok_of_bind h
  obtain ⟨_, hsrc, h⟩ := ok_of_bind h
  obtain ⟨_, ho, -⟩ := ok_of_bind h
  obtain ⟨items, rfl, -⟩ := Json.getItem_ok_iff.1 hu
  have found : ∀ {key value}, (Json.obj items).getItem key = .ok value →
      items.lookup key = some value := by
    intro key value hv
    obtain ⟨_, same, hv⟩ := Json.getItem_ok_iff.1 hv
    cases same
    exact hv
  obtain ⟨s, rfl, hiso⟩ := fromisoformatJson_ok_iff.1 hd
  refine ⟨items, loadJson_ok_iff.1 hbody, ?_, s, d, found ht, hiso⟩
  intro key hk
  simp only [outcomeKeys, List.mem_cons, List.not_mem_nil, or_false] at hk
  rcases hk with rfl | rfl | rfl | rfl | rfl | rfl
  exacts [⟨_, found hu⟩, ⟨_, found hw⟩, ⟨_, found hs⟩, ⟨_, found ht⟩, ⟨_, found hsrc⟩, ⟨_, found ho⟩]

/-- Where a response is read as an outcome, the body was one under a 2xx status. -/
theorem readResponse_ok {response : Response} {outcome : UnsubscribeOutcome}
    (read : readResponse fromisoformat response = .ok outcome) :
    response.success ∧ HoldsOutcome fromisoformat response := by
  rw [readResponse] at read
  split at read
  · next success => exact ⟨success, holdsOutcome_of_parse read⟩
  · split at read <;>
    · obtain ⟨text, -, impossible⟩ := ok_of_bind read
      cases impossible

theorem parse_of_holdsOutcome {response : Response} (h : HoldsOutcome fromisoformat response) :
    ∃ outcome, parseOutcome fromisoformat response = .ok outcome := by
  obtain ⟨items, hbody, keys, s, d, ht, hiso⟩ := h
  have item : ∀ k ∈ outcomeKeys, ∃ value, (Json.obj items).getItem k = .ok value := by
    intro k hk
    obtain ⟨value, hv⟩ := keys k hk
    exact ⟨value, Json.getItem_ok_iff.2 ⟨items, rfl, hv⟩⟩
  obtain ⟨userId, hu⟩ := item "user_id" (by decide)
  obtain ⟨writerId, hw⟩ := item "writer_id" (by decide)
  obtain ⟨status, hs⟩ := item "status" (by decide)
  obtain ⟨source, hsrc⟩ := item "unsubscribe_source" (by decide)
  obtain ⟨out, ho⟩ := item "outcome" (by decide)
  have time : (Json.obj items).getItem "unsubscribed_at" = .ok (.str s) :=
    Json.getItem_ok_iff.2 ⟨items, rfl, ht⟩
  have parsed : fromisoformatJson fromisoformat (.str s) = .ok d :=
    fromisoformatJson_ok_iff.2 ⟨s, rfl, hiso⟩
  refine ⟨⟨userId, writerId, status, d, source, out⟩, ?_⟩
  simp [parseOutcome, loadJson_ok_iff.2 hbody, hu, hw, hs, time, parsed, hsrc, ho, bind, Except.bind,
    pure, Except.pure]

theorem getItem_error_uncaught {body : Json} {key : String} {e : PyException}
    (h : body.getItem key = .error e) : verdict (.error e) = none := by
  cases body with
  | obj items =>
    cases hl : items.lookup key with
    | some value => simp [Json.getItem, hl] at h
    | none => simp [Json.getItem, hl] at h; subst h; rfl
  | _ => simp only [Json.getItem, Except.error.injEq] at h; subst h; rfl

theorem loadJson_error_uncaught {response : Response} {e : PyException}
    (h : response.loadJson = .error e) : verdict (.error e) = none := by
  cases hj : response.json with
  | ok body => simp [Response.loadJson, hj] at h
  | error message => simp [Response.loadJson, hj] at h; subst h; rfl

theorem fromisoformatJson_error_uncaught {value : Json} {e : PyException}
    (h : fromisoformatJson fromisoformat value = .error e) : verdict (.error e) = none := by
  cases value with
  | str s =>
    cases hs : fromisoformat s with
    | ok d => simp [fromisoformatJson, hs] at h
    | error message => simp [fromisoformatJson, hs] at h; subst h; rfl
  | _ => simp only [fromisoformatJson, Except.error.injEq] at h; subst h; rfl

/-- Whatever a malformed 2xx body raises, `deliver` does not catch it. -/
theorem parse_error_uncaught {response : Response} {e : PyException}
    (h : parseOutcome fromisoformat response = .error e) : verdict (.error e) = none := by
  rcases error_of_bind h with h | ⟨_, -, h⟩
  · exact loadJson_error_uncaught h
  iterate 4
    rcases error_of_bind h with h | ⟨_, -, h⟩
    · exact getItem_error_uncaught h
  rcases error_of_bind h with h | ⟨_, -, h⟩
  · exact fromisoformatJson_error_uncaught h
  iterate 2
    rcases error_of_bind h with h | ⟨_, -, h⟩
    · exact getItem_error_uncaught h
  cases h

theorem verdict_readResponse (response : Response) :
    verdict (readResponse fromisoformat response) = some (Reaction.response response).expected ↔
      (Reaction.response response).Readable fromisoformat := by
  rw [Reaction.Readable]
  by_cases hs : response.success
  · have small : response.statusCode < 600 := Nat.lt_trans hs.2 (by decide)
    simp only [readResponse, Reaction.expected, hs, if_true, small, true_and, true_implies, not_true,
      false_implies, and_true]
    constructor
    · intro h
      cases hp : parseOutcome fromisoformat response with
      | ok outcome => exact holdsOutcome_of_parse hp
      | error e => rw [hp, parse_error_uncaught hp] at h; cases h
    · intro h
      obtain ⟨outcome, hp⟩ := parse_of_holdsOutcome h
      rw [hp]
      rfl
  · cases ht : response.text with
    | error message =>
      have raises : verdict (readResponse fromisoformat response) = none := by
        rw [readResponse, if_neg hs, Response.loadText, ht]
        split <;> rfl
      simp [raises, hs]
    | ok text =>
      simp only [readResponse, Reaction.expected, Response.loadText, ht, hs, if_false, false_implies, true_and,
        bind, Except.bind]
      by_cases hc : response.statusCode ∈ [408, 429]
      · have small : response.statusCode < 600 := by
          simp only [List.mem_cons, List.not_mem_nil, or_false] at hc
          omega
        simp [hc, small, verdict]
      · by_cases hr : 500 ≤ response.statusCode
        · by_cases small : response.statusCode < 600 <;> simp [hc, hr, small, verdict]
        · have small : response.statusCode < 600 := by omega
          simp [hc, hr, small, verdict]

/-- An exchange comes out as meant exactly when the request id can be sent as a header and
the reaction is readable: a status below 600 and a body that holds an outcome, for a 2xx
status, or else has a text. Every other exchange misses its class, most of them with an
exception that `deliver` lets through. -/
theorem unsubscribe_classified_iff (fromisoformat : String → Except String Datetime) (reaction : Reaction)
    (event : UnsubscribeEvent) :
    verdict (unsubscribe fromisoformat reaction event) = some reaction.expected ↔
      isAscii event.requestId ∧ reaction.Readable fromisoformat := by
  by_cases ha : isAscii event.requestId
  · simp only [ha, true_and]
    cases reaction with
    | httpError message => simp [unsubscribe_httpError ha, verdict, Reaction.expected, Reaction.Readable]
    | response response =>
      rw [unsubscribe_response ha]
      exact verdict_readResponse response
  · simp [ha, unsubscribe_not_ascii, asciiError, verdict]

/-- A decodable event whose request id is not ASCII. -/
def accentedEvent : UnsubscribeEvent where
  eventId := "e-1"
  userId := "reader-1"
  writerId := "writer-1"
  source := .ui
  requestedAt := ⟨0, some 0⟩
  requestId := "requête-1"
  csAgentId := none
  legalBatchId := none
  aware := rfl

/-- The header of `accentedEvent` cannot be encoded, and the exception is none that
`deliver` catches, whatever UnsubscribeMe would have answered. -/
theorem unsubscribe_unclassified :
    verdict (unsubscribe (fun _ => .error "") (.response ⟨503, .ok [], .error ""⟩) accentedEvent) ≠
      some (Reaction.response ⟨503, .ok [], .error ""⟩).expected := by
  decide

end Tikblog.Consumer
