import Mathlib.Order.Bounds.Defs
import Tikblog.Contracts.RoundTrip
import Tikblog.Operational.Accounting

/-!
# The table and the topics agree

What the table says was asked for by an event of the topics (`rows_justified`), and when
every record is committed and none was parked, it says for each pair the earliest time asked
for, and nothing else (`drained_table_exact`). The answers on the way are understood: the
client reads every one as an outcome, as worth a retry, or as an injected failure
(`answers_understood`).
-/

namespace Tikblog.Operational

open Python Contracts Kafka Program
open Consumer (HttpRequest Response Reaction UnsubscribeOutcome CopyOf optionJson)
open Unsubscribeme (Database UnsubscribeRequest UnsubscribeResult)

variable {δ π : Type} {w : Platform δ π} {s : State δ π}

/-- A row repeats the time and the source of an event of the topics. -/
theorem Sound.row_justified (h : Sound w s) {key : Unsubscribeme.Key} {row : Unsubscribeme.Subscription}
    (found : s.db.table key = some row) :
    row.status = .unsubscribed ∧ ∃ event, Sourced w event ∧ key = (event.userId, event.writerId) ∧
      row.unsubscribedAt = some event.requestedAt.instant ∧ row.unsubscribeSource = some event.source := by
  obtain ⟨status, write, member, rfl, time, source⟩ := h.truthful.supplied key row found
  obtain ⟨event, sourced, same⟩ := h.justified write member
  rw [same] at time source ⊢
  exact ⟨status, event, sourced, rfl, time, source⟩

/-- **No row without an event.** At any point of any run, every row of the table is
`UNSUBSCRIBED` with the time and the source of an event for its pair that some record of
the topics carries. -/
theorem rows_justified [DecidableEq δ] [DecidableEq π] (w : Platform δ π)
    (reads : ∀ event, Sourced w event → ReadsTime w.web event)
    {threads : π ⊕ Nat → PathM Unit} {s : State δ π} (reached : (operational w).Reachable threads s) :
    ∀ key row, s.db.table key = some row → row.status = .unsubscribed ∧
      ∃ event, Sourced w event ∧ key = (event.userId, event.writerId) ∧
        row.unsubscribedAt = some event.requestedAt.instant ∧ row.unsubscribeSource = some event.source :=
  fun _ _ found => ((operational_cooperates reads).invariant reached).row_justified found

/-- The times at which the topics ask for a pair. -/
def timesAsked (w : Platform δ π) (key : Unsubscribeme.Key) : Set Instant :=
  { t | ∃ event, Sourced w event ∧ key = (event.userId, event.writerId) ∧ t = event.requestedAt.instant }

/-- Every record is committed by its group, and no copy of any was handed to a dead-letter
producer. -/
structure Drained (w : Platform δ π) (s : State δ π) : Prop where
  committed : ∀ d k, ∀ m ∈ ((w.deployment d).topic.log k).records, m.offset < s.committed d k
  unparked : ∀ d k, ∀ m ∈ ((w.deployment d).topic.log k).records, ∀ record,
    CopyOf (w.deployment d).settings m record → ¬ Copied s record

theorem Carries.unique {avro : AvroLibrary} {m : Message} {event event' : UnsubscribeEvent}
    (h : Carries avro m event) (h' : Carries avro m event') : event = event' := by
  obtain ⟨value, found, read⟩ := h
  obtain ⟨value', found', read'⟩ := h'
  cases found.symm.trans found'
  exact Except.ok.inj (read.symm.trans read')

/-- In a drained state every event was applied. -/
theorem Drained.applied (h : Drained w s) (sound : Sound w s) {event : UnsubscribeEvent}
    (sourced : Sourced w event) : Applied event s.db := by
  obtain ⟨d, k, m, recorded, carries⟩ := sourced
  obtain ⟨event', carries', applied⟩ | ⟨record, copy, copied⟩ :=
    sound.settled d k m recorded (h.committed d k m recorded)
  · exact carries.unique carries' ▸ applied
  · exact absurd copied (h.unparked d k m recorded record copy)

theorem Drained.table_exact (drained : Drained w s) (sound : Sound w s) (key : Unsubscribeme.Key) :
    ((s.db.table key).isSome ↔ (timesAsked w key).Nonempty) ∧
    ∀ t, (∃ row, s.db.table key = some row ∧ row.unsubscribedAt = some t) ↔ IsLeast (timesAsked w key) t := by
  -- the row is not later than any event asks
  have early : ∀ row t, s.db.table key = some row → row.unsubscribedAt = some t →
      ∀ t' ∈ timesAsked w key, t ≤ t' := by
    rintro row t found at_row t' ⟨event, sourced, rfl, rfl⟩
    obtain ⟨row', time, found', at_row', before⟩ := drained.applied sound sourced
    cases found.symm.trans found'
    cases at_row.symm.trans at_row'
    exact before
  refine ⟨⟨?_, ?_⟩, fun t => ⟨?_, ?_⟩⟩
  · intro present
    obtain ⟨row, found⟩ := Option.isSome_iff_exists.1 present
    obtain ⟨-, event, sourced, keys, -, -⟩ := sound.row_justified found
    exact ⟨_, event, sourced, keys, rfl⟩
  · rintro ⟨t, event, sourced, rfl, -⟩
    obtain ⟨row, time, found, -⟩ := drained.applied sound sourced
    rw [found]
    rfl
  · rintro ⟨row, found, at_row⟩
    obtain ⟨-, event, sourced, keys, time, -⟩ := sound.row_justified found
    cases at_row.symm.trans time
    exact ⟨⟨event, sourced, keys, rfl⟩, early row _ found at_row⟩
  · rintro ⟨⟨event, sourced, rfl, rfl⟩, least⟩
    obtain ⟨row, time, found, at_row, before⟩ := drained.applied sound sourced
    obtain ⟨-, event', sourced', keys, time', -⟩ := sound.row_justified found
    cases at_row.symm.trans time'
    have later : event.requestedAt.instant ≤ event'.requestedAt.instant :=
      least ⟨event', sourced', keys, rfl⟩
    exact ⟨row, found, by rw [at_row, le_antisymm before later]⟩

/-- **The table of a drained platform is exact.** In any state that a run reaches with every
record committed and none parked, a pair has a row exactly if some event of the topics asks
for it, and is unsubscribed at `t` exactly if `t` is the earliest time asked for. -/
theorem drained_table_exact [DecidableEq δ] [DecidableEq π] (w : Platform δ π)
    (reads : ∀ event, Sourced w event → ReadsTime w.web event)
    {threads : π ⊕ Nat → PathM Unit} {s : State δ π} (reached : (operational w).Reachable threads s)
    (drained : Drained w s) (key : Unsubscribeme.Key) :
    ((s.db.table key).isSome ↔ (timesAsked w key).Nonempty) ∧
    ∀ t, (∃ row, s.db.table key = some row ∧ row.unsubscribedAt = some t) ↔ IsLeast (timesAsked w key) t :=
  drained.table_exact ((operational_cooperates reads).invariant reached) key

theorem rows_justified_demo :
    ∃ row, demoDone.2.db.table ("reader-1", "writer-1") = some row ∧ row.status = .unsubscribed ∧
      ∃ event, Sourced demoPlatform event ∧ ("reader-1", "writer-1") = (event.userId, event.writerId) ∧
        row.unsubscribedAt = some event.requestedAt.instant ∧ row.unsubscribeSource = some event.source :=
  ⟨_, rfl, rows_justified demoPlatform demo_reads demoDone_reached ("reader-1", "writer-1") _ rfl⟩

theorem demo_drained : Drained demoPlatform demoDone.2 where
  committed d k m member := by
    obtain ⟨rfl, rfl | rfl⟩ := mem_demoMessages member
    · exact Nat.zero_lt_two
    · exact Nat.one_lt_two
  unparked d k m member record copy := by
    rintro (written | failed | ⟨p, queued⟩)
    · exact absurd written List.not_mem_nil
    · exact absurd failed List.not_mem_nil
    · exact absurd queued List.not_mem_nil

/-- The record of the earlier event came second. -/
theorem drained_table_exact_demo : IsLeast (timesAsked demoPlatform ("reader-1", "writer-1")) 1000000 :=
  ((drained_table_exact demoPlatform demo_reads demoDone_reached demo_drained ("reader-1", "writer-1")).2 1000000).1
    ⟨_, rfl, rfl⟩

/-! ## The answers -/

/-- The client is told what the endpoint returns. -/
theorem read_returned {lib : WebLibrary} {result : UnsubscribeResult} {t : Instant} {d : Datetime}
    (at_result : result.unsubscribedAt = some t) (read : lib.fromisoformat (lib.timestamp t) = .ok d) :
    Consumer.readResponse lib.fromisoformat (returned lib result.response) =
      .ok ⟨.str result.userId, .str result.writerId, .str result.status.value, d,
        optionJson (result.unsubscribeSource.map UnsubscribeSource.value), .str (outcomeText result.outcome)⟩ := by
  have success : (returned lib result.response).success := by
    show 200 ≤ 200 ∧ 200 < 300
    decide
  let body := Json.obj (responseBody lib result.response)
  have loaded : (returned lib result.response).loadJson = .ok body := rfl
  have userId : body.getItem "user_id" = .ok (.str result.userId) := rfl
  have writerId : body.getItem "writer_id" = .ok (.str result.writerId) := rfl
  have status : body.getItem "status" = .ok (.str result.status.value) := rfl
  have time : body.getItem "unsubscribed_at" = .ok (.str (lib.timestamp t)) := by
    cases result
    cases at_result
    rfl
  have source : body.getItem "unsubscribe_source" =
      .ok (optionJson (result.unsubscribeSource.map UnsubscribeSource.value)) := rfl
  have outcome : body.getItem "outcome" = .ok (.str (outcomeText result.outcome)) := rfl
  rw [Consumer.readResponse, if_pos success]
  simp [Consumer.parseOutcome, loaded, userId, writerId, status, time, source, outcome,
    Consumer.fromisoformatJson, read, bind, Except.bind, pure, Except.pure]

/-- The endpoint reads the time of the event as the instant it is, with a time zone. -/
def AcceptsTime (lib : WebLibrary) (event : UnsubscribeEvent) : Prop :=
  ∃ d, lib.datetime (.str event.requestedAt.isoformat) = some d ∧ d.utcoffset.isSome ∧
    d.instant = event.requestedAt.instant

/-- The client reads the time of the event back from what the endpoint writes. -/
def ReturnsTime (lib : WebLibrary) (event : UnsubscribeEvent) : Prop :=
  ∃ d, lib.fromisoformat (lib.timestamp event.requestedAt.instant) = .ok d ∧
    d.instant = event.requestedAt.instant

theorem AcceptsTime.reads {lib : WebLibrary} {event : UnsubscribeEvent} (h : AcceptsTime lib event) :
    ReadsTime lib event := by
  obtain ⟨d, read, -, same⟩ := h
  intro d' read'
  cases read.symm.trans read'
  exact same

theorem AcceptsTime.valid {lib : WebLibrary} {event : UnsubscribeEvent} (h : AcceptsTime lib event) :
    validate lib (Consumer.unsubscribeRequest event).json ≠ none := by
  obtain ⟨d, read, aware, -⟩ := h
  have found : validate lib (Consumer.unsubscribeRequest event).json =
      some ⟨event.eventId, event.userId, event.writerId, event.source, d, aware⟩ := by
    rw [Consumer.unsubscribeRequest, validate_eventToJson, read, Option.bind_some, dif_pos aware]
  rw [found]
  exact Option.some_ne_none _

/-- What the client makes of an answer to the request for an event. -/
inductive Understood (w : Platform δ π) (event : UnsubscribeEvent) (response : Response) : Prop where
  | outcome {outcome} : Consumer.readResponse w.web.fromisoformat response = .ok outcome →
      outcome.userId = .str event.userId → outcome.writerId = .str event.writerId →
      outcome.status = .str "UNSUBSCRIBED" →
      outcome.unsubscribedAt.instant ≤ event.requestedAt.instant → Understood w event response
  | transient {text} : Consumer.readResponse w.web.fromisoformat response = .error (.transientError text) →
      Understood w event response
  | injected : 0 < w.service.failureRate →
      raised w.web ⟨w.service.failureStatus, "injected failure"⟩ = some response →
      Understood w event response

/-- A database error is worth a retry. -/
theorem read_unavailable {lib : WebLibrary} {response : Response}
    (sent : raised lib ⟨503, "database unavailable"⟩ = some response) :
    ∃ text, Consumer.readResponse lib.fromisoformat response = .error (.transientError text) := by
  rw [raised] at sent
  split at sent
  · rw [if_neg (by decide)] at sent
    cases sent
    rw [Consumer.readResponse, if_neg, if_pos]
    · exact ⟨_, rfl⟩
    · show 503 ∈ [408, 429] ∨ 500 ≤ 503
      decide
    · show ¬ (200 ≤ 503 ∧ 503 < 300)
      decide
  · cases sent

/-- **Every answer is understood.** At any point of any run, each response the service has
sent belongs to an event of the topics, which the service accepted; and the client reads it
as an outcome for the pair of the event, unsubscribed no later than the event asks, or as a
transient error, unless failures are injected and it is one. -/
theorem answers_understood [DecidableEq δ] [DecidableEq π] (w : Platform δ π)
    (accepts : ∀ event, Sourced w event → AcceptsTime w.web event)
    (returns : ∀ event, Sourced w event → ReturnsTime w.web event)
    {threads : π ⊕ Nat → PathM Unit} {s : State δ π} (reached : (operational w).Reachable threads s)
    (n : Nat) (response : Response) (sent : s.responses n = some response) :
    ∃ event, Sourced w event ∧ s.requests[n]? = some (Consumer.unsubscribeRequest event) ∧
      validate w.web (Consumer.unsubscribeRequest event).json ≠ none ∧ Understood w event response := by
  have reads : ∀ event, Sourced w event → ReadsTime w.web event := fun event sourced => (accepts event sourced).reads
  have sound := (operational_cooperates reads).invariant reached
  have asked : ∀ request, s.requests[n]? = some request →
      ∃ event, Sourced w event ∧ request = Consumer.unsubscribeRequest event :=
    fun request found => sound.sourced request (List.mem_of_getElem? found)
  cases sound.replied n response sent with
  | @unprocessable request found invalid same =>
    obtain ⟨event, sourced, rfl⟩ := asked request found
    exact absurd invalid (accepts event sourced).valid
  | @answered request payload found valid answered =>
    obtain ⟨event, sourced, rfl⟩ := asked request found
    refine ⟨event, sourced, found, by rw [valid]; exact Option.some_ne_none _, ?_⟩
    have own : payload.request = requestOf event := validate_request (reads event sourced) valid
    cases answered with
    | raised raises sent =>
      obtain ⟨enabled, rfl⟩ | rfl := raises
      · exact .injected enabled sent
      · obtain ⟨text, read⟩ := read_unavailable sent
        exact .transient read
    | @returned result answers =>
      obtain ⟨write, member, -, early, time, -⟩ := answers.supplied
      obtain ⟨event', sourced', same⟩ := sound.justified write member
      rw [own] at early
      rw [same] at time early
      obtain ⟨d, read, instant⟩ := returns event' sourced'
      refine .outcome (read_returned time read) ?_ ?_ ?_ ?_
      · exact congrArg Json.str (answers.pair.1.trans (congrArg Unsubscribeme.Request.userId own))
      · exact congrArg Json.str (answers.pair.2.trans (congrArg Unsubscribeme.Request.writerId own))
      · exact congrArg (Json.str ∘ Unsubscribeme.Status.value) answers.status
      · exact instant.le.trans early

theorem answers_understood_demo :
    demoDone.2.requests.length = 2 ∧ ∀ exchange ∈ [0, 1],
      ∃ response, demoDone.2.responses exchange = some response ∧
      ∃ event, Sourced demoPlatform event ∧
        demoDone.2.requests[exchange]? = some (Consumer.unsubscribeRequest event) ∧
        validate demoWeb (Consumer.unsubscribeRequest event).json ≠ none ∧ Understood demoPlatform event response := by
  have accepts : ∀ event, Sourced demoPlatform event → AcceptsTime demoWeb event := by
    intro event sourced
    obtain rfl | rfl := sourced_demo sourced <;> exact ⟨_, rfl, rfl, rfl⟩
  have returns : ∀ event, Sourced demoPlatform event → ReturnsTime demoWeb event := by
    intro event sourced
    obtain rfl | rfl := sourced_demo sourced <;> exact ⟨_, rfl, rfl⟩
  refine ⟨rfl, ?_⟩
  intro exchange listed
  obtain rfl | rfl := List.mem_pair.1 listed
  · exact ⟨_, rfl, answers_understood demoPlatform accepts returns demoDone_reached 0 _ rfl⟩
  · exact ⟨_, rfl, answers_understood demoPlatform accepts returns demoDone_reached 1 _ rfl⟩

end Tikblog.Operational
