import Tikblog.Consumer.Partition
import Tikblog.Operational.Path

/-!
# What the programs of the path rely on

Processes and exchanges only add to what others can see (`Grows`): rows progress, dead-letter
copies stay somewhere, and requests are not forgotten. Between any two operations `Sound`
holds. It says of the committed records that they are settled: applied to the table, or
handed to a dead-letter producer. Each operation keeps it, where the program that performs
the operation knows what it should (`Knows`).
-/

namespace Tikblog.Operational

open Python Contracts Kafka Program
open Consumer (HttpRequest Response Reaction UnsubscribeOutcome HoldsOutcome CopyOf)
open Unsubscribeme (UnsubscribeRequest UnsubscribeResponse HTTPException Database ApiOp ApiAns ApiExec
  Truthful Progress Answers UnsubscribedBy)

variable {δ π : Type}

/-- The bytes of the message are those of the event. -/
def Carries (avro : AvroLibrary) (m : Message) (event : UnsubscribeEvent) : Prop :=
  ∃ value, m.value = some value ∧ fromBytes avro value = .ok event

/-- A record of the topic of group `d`. -/
def Recorded (w : Platform δ π) (d : δ) (k : Nat) (m : Message) : Prop :=
  m ∈ ((w.deployment d).topic.log k).records

/-- Some record of the platform's topics carries the event. -/
def Sourced (w : Platform δ π) (event : UnsubscribeEvent) : Prop :=
  ∃ d k m, Recorded w d k m ∧ Carries w.avro m event

/-- The table holds the pair of the event unsubscribed, and no later than the event asks. -/
def Applied (event : UnsubscribeEvent) (db : Database Nat) : Prop :=
  UnsubscribedBy (event.userId, event.writerId) event.requestedAt.instant db

/-- The record was handed to a dead-letter producer. -/
def Copied (s : State δ π) (record : DlqRecord) : Prop :=
  record ∈ s.deadLetters ∨ record ∈ s.undelivered ∨ ∃ p, record ∈ s.queue p

/-- The record is the dead-letter copy of a record that the group of its topic was given. -/
def Parked (w : Platform δ π) (record : DlqRecord) : Prop :=
  ∃ d k m, Recorded w d k m ∧ CopyOf (w.deployment d).settings m record

/-- Group `d` need not come back to the message. -/
def Settled (w : Platform δ π) (d : δ) (s : State δ π) (m : Message) : Prop :=
  (∃ event, Carries w.avro m event ∧ Applied event s.db) ∨
    ∃ record, CopyOf (w.deployment d).settings m record ∧ Copied s record

def SettledBelow (w : Platform δ π) (d : δ) (s : State δ π) (k offset : Nat) : Prop :=
  ∀ m, Recorded w d k m → m.offset < offset → Settled w d s m

/-- The exceptions the endpoint raises: an injected failure, where there are any, or a
database error. -/
def Raises (service : Unsubscribeme.Settings) (exc : HTTPException) : Prop :=
  (0 < service.failureRate ∧ exc = ⟨service.failureStatus, "injected failure"⟩) ∨
    exc = ⟨503, "database unavailable"⟩

/-- How the endpoint may have answered a payload. -/
inductive Answered (w : Platform δ π) (s : State δ π) (exchange : Nat) (payload : UnsubscribeRequest) :
    Response → Prop where
  | returned {result} : Answers exchange payload.request result s.db →
      Answered w s exchange payload (returned w.web result.response)
  | raised {exc response} : Raises w.service exc → raised w.web exc = some response →
      Answered w s exchange payload response

/-- How the service may have answered the request of an exchange. -/
inductive Replied (w : Platform δ π) (s : State δ π) (exchange : Nat) (response : Response) : Prop where
  | unprocessable {request} : s.requests[exchange]? = some request → validate w.web request.json = none →
      response = unprocessable w.web request.json → Replied w s exchange response
  | answered {request payload} : s.requests[exchange]? = some request →
      validate w.web request.json = some payload → Answered w s exchange payload response →
      Replied w s exchange response

/-- What holds between any two operations. -/
structure Sound (w : Platform δ π) (s : State δ π) : Prop where
  truthful : Truthful s.db
  timely : ∀ write ∈ s.db.writes, UnsubscribedBy write.request.key write.request.requestedAt s.db
  justified : ∀ write ∈ s.db.writes, ∃ event, Sourced w event ∧ write.request = requestOf event
  sourced : ∀ request ∈ s.requests, ∃ event, Sourced w event ∧ request = Consumer.unsubscribeRequest event
  replied : ∀ n response, s.responses n = some response → Replied w s n response
  settled : ∀ d k, SettledBelow w d s k (s.committed d k)
  copies : ∀ record, Copied s record → Parked w record

/-- What anybody may do to the state of others: rows progress, copies stay, and requests are
only added. -/
structure Grows (s t : State δ π) : Prop where
  progress : Progress s.db t.db
  copied : ∀ record, Copied s record → Copied t record
  requests : ∀ (n : Nat) request, s.requests[n]? = some request → t.requests[n]? = some request

/-- The others leave a process the partitions it has. -/
def Rely (i : π ⊕ Nat) (s t : State δ π) : Prop :=
  Grows s t ∧ ∀ p, i = .inl p → t.position p = s.position p

/-- What a program knows when it performs an operation. -/
def Knows (w : Platform δ π) : π ⊕ Nat → Op → State δ π → Prop
  | .inl p, .consumer (.commit m), s => SettledBelow w (w.group p) s m.partition (m.offset + 1)
  | .inl _, .consumer (.produce record), _ => Parked w record
  | .inl _, .send request, _ => ∃ event, Sourced w event ∧ request = Consumer.unsubscribeRequest event
  | .inr _, .endpoint (.repository (.upsert request)), _ => ∃ event, Sourced w event ∧ request = requestOf event
  | .inr _, .reply n response, s => Replied w s n response
  | _, _, _ => True

variable {w : Platform δ π} {s t u : State δ π} {d : δ} {m : Message} {i : π ⊕ Nat} {k offset n : Nat}

theorem Grows.refl (s : State δ π) : Grows s s := ⟨Progress.refl _, fun _ h => h, fun _ _ h => h⟩

theorem Grows.trans (h : Grows s t) (h' : Grows t u) : Grows s u where
  progress := h.progress.trans h'.progress
  copied record copied := h'.copied record (h.copied record copied)
  requests n request found := h'.requests n request (h.requests n request found)

theorem Rely.refl (i : π ⊕ Nat) (s : State δ π) : Rely i s s := ⟨Grows.refl s, fun _ _ => rfl⟩

theorem Rely.trans (h : Rely i s t) (h' : Rely i t u) : Rely i s u :=
  ⟨h.1.trans h'.1, fun p same => (h'.2 p same).trans (h.2 p same)⟩

/-! ## What is settled stays settled -/

/-- Writes are not forgotten, so answers stay true. -/
theorem Answers.grow {caller : Nat} {request : Unsubscribeme.Request} {result : Unsubscribeme.UnsubscribeResult}
    {db db' : Database Nat} (h : Answers caller request result db) (progress : Progress db db') :
    Answers caller request result db' where
  pair := h.pair
  status := h.status
  supplied := by
    obtain ⟨write, member, keys, early, supplies⟩ := h.supplied
    exact ⟨write, progress.writes _ member, keys, early, supplies⟩
  created fresh := progress.writes _ (h.created fresh)

theorem Settled.grow (h : Settled w d s m) (grows : Grows s t) : Settled w d t m := by
  obtain ⟨event, carries, applied⟩ | ⟨record, copy, copied⟩ := h
  · exact .inl ⟨event, carries, grows.progress.earlier _ _ applied⟩
  · exact .inr ⟨record, copy, grows.copied record copied⟩

theorem SettledBelow.grow (h : SettledBelow w d s k offset) (grows : Grows s t) :
    SettledBelow w d t k offset :=
  fun m recorded below => (h m recorded below).grow grows

theorem SettledBelow.succ (h : SettledBelow w d s k m.offset) (recorded : Recorded w d k m)
    (settled : Settled w d s m) : SettledBelow w d s k (m.offset + 1) := by
  intro m' recorded' below
  rcases Nat.lt_succ_iff_lt_or_eq.1 below with below | same
  · exact h m' recorded' below
  · rw [PartitionLog.eq_of_offset recorded' recorded same]
    exact settled

theorem Replied.grow {response : Response} (h : Replied w s n response) (grows : Grows s t) :
    Replied w t n response := by
  cases h with
  | unprocessable found invalid same => exact .unprocessable (grows.requests _ _ found) invalid same
  | answered found valid answered =>
    refine .answered (grows.requests _ _ found) valid ?_
    cases answered with
    | returned answers => exact .returned (Answers.grow answers grows.progress)
    | raised raises sent => exact .raised raises sent

theorem Knows.grow {o : Op} (h : Knows w i o s) (grows : Grows s t) : Knows w i o t := by
  unfold Knows at h ⊢
  split at h
  · exact h.grow grows
  · exact h
  · exact h
  · exact h
  · exact h.grow grows
  · trivial

theorem Sound.fresh : Sound w (State.fresh : State δ π) where
  truthful := Unsubscribeme.truthful_empty
  timely _ member := absurd member List.not_mem_nil
  justified _ member := absurd member List.not_mem_nil
  sourced _ member := absurd member List.not_mem_nil
  replied _ _ found := by cases found
  settled _ _ _ _ below := absurd below (Nat.not_lt_zero _)
  copies record := by
    rintro (written | failed | ⟨p, queued⟩)
    · exact absurd written List.not_mem_nil
    · exact absurd failed List.not_mem_nil
    · exact absurd queued List.not_mem_nil

/-! ## One operation -/

/-- An upsert writes for its own request, and the row meets it. -/
theorem timely_upsert {db : Database Nat} (caller : Nat) (now : Instant) (request : Unsubscribeme.Request)
    (timely : ∀ write ∈ db.writes, UnsubscribedBy write.request.key write.request.requestedAt db) :
    ∀ write ∈ (db.upsert caller now request).writes,
      UnsubscribedBy write.request.key write.request.requestedAt (db.upsert caller now request) := by
  have progress := Unsubscribeme.progress_upsert db caller now request
  obtain ⟨createdAt, inserted, -, -, -, after⟩ | ⟨-, -, -, -, after⟩ :=
    Unsubscribeme.upsert_cases db caller now request
  · intro write member
    rw [after] at member
    rcases List.mem_append.1 member with old | new
    · exact progress.earlier _ _ (timely write old)
    · rw [List.mem_singleton.1 new, after]
      exact ⟨_, _, Database.record_self .., rfl, le_refl _⟩
  · rw [after]
    exact timely

theorem mem_writes_upsert {db : Database Nat} {caller : Nat} {now : Instant} {request : Unsubscribeme.Request}
    {write : Unsubscribeme.Write Nat} (member : write ∈ (db.upsert caller now request).writes) :
    write ∈ db.writes ∨ write.request = request := by
  obtain ⟨createdAt, inserted, -, -, -, after⟩ | ⟨-, -, -, -, after⟩ :=
    Unsubscribeme.upsert_cases db caller now request
  · rw [after] at member
    exact (List.mem_append.1 member).imp id fun new => congrArg _ (List.mem_singleton.1 new)
  · rw [after] at member
    exact .inl member

/-- An upsert for an event of the topics keeps the database sound. -/
theorem Sound.upsert (h : Sound w s) (caller : Nat) (now : Instant) {event : UnsubscribeEvent}
    (sourced : Sourced w event) :
    Sound w { s with db := s.db.upsert caller now (requestOf event) } := by
  have grows : Grows s { s with db := s.db.upsert caller now (requestOf event) } :=
    ⟨Unsubscribeme.progress_upsert .., fun _ h => h, fun _ _ h => h⟩
  exact
    { truthful := h.truthful.upsert caller now _
      timely := timely_upsert caller now _ h.timely
      justified := fun write member => by
        rcases mem_writes_upsert member with old | new
        · exact h.justified write old
        · exact ⟨event, sourced, new⟩
      sourced := h.sourced
      replied := fun n response sent => (h.replied n response sent).grow grows
      settled := fun d k => (h.settled d k).grow grows
      copies := h.copies }

/-- A step that leaves the service alone. -/
theorem Sound.of_consumer (h : Sound w s) (grows : Grows s t) (requests : t.requests = s.requests)
    (responses : t.responses = s.responses) (db : t.db = s.db)
    (settled : ∀ d k, SettledBelow w d t k (t.committed d k))
    (copies : ∀ record, Copied t record → Copied s record ∨ Parked w record) : Sound w t where
  truthful := db ▸ h.truthful
  timely := db ▸ h.timely
  justified := db ▸ h.justified
  sourced := requests ▸ h.sourced
  replied n response sent := (h.replied n response (responses ▸ sent)).grow grows
  settled := settled
  copies record copied := (copies record copied).elim (h.copies record) id

/-- A commit of a message up to which everything is settled. -/
theorem settled_commit [DecidableEq δ] (h : Sound w s) (below : SettledBelow w d s m.partition (m.offset + 1)) (d' : δ) (k : Nat) :
    SettledBelow w d' (s.commit d m) k ((s.commit d m).committed d' k) := by
  have before : SettledBelow w d' s k ((s.commit d m).committed d' k) := by
    by_cases same : d' = d
    · subst same
      by_cases here : k = m.partition
      · subst here
        simpa [State.commit] using below
      · simpa [State.commit, Function.update_of_ne here] using h.settled d' k
    · simpa [State.commit, Function.update_of_ne same] using h.settled d' k
  exact before.grow ⟨Progress.refl _, fun _ h => h, fun _ _ h => h⟩

theorem grows_send (s : State δ π) (request : HttpRequest) : Grows s (s.send request) := by
  refine ⟨Progress.refl _, fun _ h => h, ?_⟩
  intro n other found
  exact List.getElem?_append_left (List.getElem?_eq_some_iff.1 found).1 ▸ found

section Steps

variable [DecidableEq π] {p : π}

@[simp] theorem position_assign (s : State δ π) (p : π) (position : Nat → Option Nat) :
    (s.assign p position).position p = position := Function.update_self ..

@[simp] theorem queue_enqueue (s : State δ π) (p : π) (record : DlqRecord) :
    (s.enqueue p record).queue p = s.queue p ++ [record] := Function.update_self ..

@[simp] theorem queue_flushed (s : State δ π) (p : π) (delivered failed remaining : List DlqRecord) :
    (s.flushed p delivered failed remaining).queue p = remaining := Function.update_self ..

theorem copied_enqueue (s : State δ π) (p : π) (record : DlqRecord) : Copied (s.enqueue p record) record :=
  .inr (.inr ⟨p, by simp⟩)

theorem grows_enqueue (s : State δ π) (p : π) (record : DlqRecord) : Grows s (s.enqueue p record) := by
  refine ⟨Progress.refl _, ?_, fun _ _ h => h⟩
  rintro copy (written | failed | ⟨p', queued⟩)
  · exact .inl written
  · exact .inr (.inl failed)
  · refine .inr (.inr ⟨p', ?_⟩)
    by_cases same : p' = p
    · subst same
      simp [queued]
    · simpa [State.enqueue, Function.update_of_ne same] using queued

/-- A flush loses track of no copy. -/
theorem grows_flushed {delivered failed remaining : List DlqRecord}
    (settles : (delivered ++ failed ++ remaining).Perm (s.queue p)) :
    Grows s (s.flushed p delivered failed remaining) := by
  refine ⟨Progress.refl _, ?_, fun _ _ h => h⟩
  rintro copy (written | lost | ⟨p', queued⟩)
  · exact .inl (List.mem_append_left _ written)
  · exact .inr (.inl (List.mem_append_left _ lost))
  · by_cases same : p' = p
    · subst same
      rcases List.mem_append.1 (settles.mem_iff.2 queued) with settled | left
      · rcases List.mem_append.1 settled with now | not
        · exact .inl (List.mem_append_right _ now)
        · exact .inr (.inl (List.mem_append_right _ not))
      · exact .inr (.inr ⟨p', by simp [left]⟩)
    · exact .inr (.inr ⟨p', by simpa [State.flushed, Function.update_of_ne same] using queued⟩)

theorem copied_of_enqueue {record copy : DlqRecord} (h : Copied (s.enqueue p record) copy) :
    Copied s copy ∨ copy = record := by
  rcases h with written | failed | ⟨p', queued⟩
  · exact .inl (.inl written)
  · exact .inl (.inr (.inl failed))
  · by_cases same : p' = p
    · subst same
      rw [queue_enqueue] at queued
      rcases List.mem_append.1 queued with old | new
      · exact .inl (.inr (.inr ⟨p', old⟩))
      · exact .inr (List.mem_singleton.1 new)
    · refine .inl (.inr (.inr ⟨p', ?_⟩))
      simpa [State.enqueue, Function.update_of_ne same] using queued

theorem copied_of_flushed {delivered failed remaining : List DlqRecord} {copy : DlqRecord}
    (settles : (delivered ++ failed ++ remaining).Perm (s.queue p))
    (h : Copied (s.flushed p delivered failed remaining) copy) : Copied s copy := by
  have queued_before : copy ∈ delivered ++ failed ++ remaining → Copied s copy :=
    fun member => .inr (.inr ⟨p, settles.mem_iff.1 member⟩)
  rcases h with written | lost | ⟨p', queued⟩
  · rcases List.mem_append.1 written with old | new
    · exact .inl old
    · exact queued_before (List.mem_append_left _ (List.mem_append_left _ new))
  · rcases List.mem_append.1 lost with old | new
    · exact .inr (.inl old)
    · exact queued_before (List.mem_append_left _ (List.mem_append_right _ new))
  · by_cases same : p' = p
    · subst same
      rw [queue_flushed] at queued
      exact queued_before (List.mem_append_right _ queued)
    · refine .inr (.inr ⟨p', ?_⟩)
      simpa [State.flushed, Function.update_of_ne same] using queued

variable [DecidableEq δ]

/-- The calls at which no partition is assigned or read. -/
def Stays : Consumer.Op → Prop
  | .poll _ => False
  | _ => True

theorem ConsumerExec.grows {o : Consumer.Op} {a : Consumer.Ans o} (step : ConsumerExec w p o s a t) :
    Grows s t := by
  cases step with
  | produced => exact grows_enqueue ..
  | flushed settles => exact grows_flushed settles
  | _ => exact ⟨Progress.refl _, fun _ h => h, fun _ _ h => h⟩

/-- A process moves its own positions, and only at a poll. -/
theorem ConsumerExec.position {o : Consumer.Op} {a : Consumer.Ans o} (step : ConsumerExec w p o s a t)
    {p' : π} (other : p' ≠ p ∨ Stays o) : t.position p' = s.position p' := by
  cases step with
  | idle | clientError | record =>
    rcases other with other | stays
    · exact Function.update_of_ne other ..
    · exact stays.elim
  | _ => rfl

theorem Exec.grows {o : Op} {a : Ans o} (step : Exec w i o s a t) (truthful : Truthful s.db) : Grows s t := by
  cases step with
  | consumer step => exact step.grows
  | sent => exact grows_send ..
  | endpoint step => exact ⟨(step.keeps truthful).2, fun _ h => h, fun _ _ h => h⟩
  | _ => exact ⟨Progress.refl _, fun _ h => h, fun _ _ h => h⟩

theorem Exec.rely {j : π ⊕ Nat} {o : Op} {a : Ans o} (step : Exec w i o s a t) (truthful : Truthful s.db)
    (other : i ≠ j) : Rely j s t := by
  refine ⟨step.grows truthful, ?_⟩
  rintro p rfl
  cases step with
  | consumer step => exact step.position (.inl fun same => other (congrArg Sum.inl same.symm))
  | _ => rfl

/-- A producer has the copies it was given. -/
theorem ConsumerExec.copied {o : Consumer.Op} {a : Consumer.Ans o} (knows : Knows w (.inl p) (.consumer o) s)
    (step : ConsumerExec w p o s a t) (record : DlqRecord) (copied : Copied t record) :
    Copied s record ∨ Parked w record := by
  cases step with
  | produced =>
    obtain before | rfl := copied_of_enqueue copied
    · exact .inl before
    · exact .inr knows
  | flushed settles => exact .inl (copied_of_flushed settles copied)
  | _ => exact .inl copied

theorem ConsumerExec.keeps {o : Consumer.Op} {a : Consumer.Ans o} (h : Sound w s)
    (knows : Knows w (.inl p) (.consumer o) s) (step : ConsumerExec w p o s a t) : Sound w t := by
  have grows := step.grows
  have copied := step.copied knows
  cases step with
  | committed | commitLost => exact h.of_consumer grows rfl rfl rfl (settled_commit h knows) copied
  | _ => exact h.of_consumer grows rfl rfl rfl (fun d k => (h.settled d k).grow grows) copied

/-- Every operation keeps the invariant, where its program knows what it should. -/
theorem Exec.keeps {o : Op} {a : Ans o} (h : Sound w s) (knows : Knows w i o s) (step : Exec w i o s a t) :
    Sound w t := by
  have grows := step.grows h.truthful
  cases step with
  | consumer step => exact step.keeps h knows
  | sent =>
    refine { h with sourced := ?_, replied := ?_, settled := fun d k => (h.settled d k).grow grows }
    · intro request member
      rcases List.mem_append.1 member with old | new
      · exact h.sourced request old
      · rw [List.mem_singleton.1 new]
        exact knows
    · exact fun n response sent => (h.replied n response sent).grow grows
  | received | refused | broken | accepted => exact h
  | endpoint step =>
    cases step with
    | random | sleep => exact h
    | repository statement =>
      cases statement with
      | upserted | upsertLost =>
        obtain ⟨event, sourced, rfl⟩ := knows
        exact h.upsert _ _ sourced
      | upsertFailed | selected | selectFailed => exact h
  | @replied n s response =>
    refine { h with replied := ?_ }
    intro n' response' sent
    by_cases same : n' = n
    · subst same
      cases (Function.update_self n' _ s.responses).symm.trans sent
      exact knows.grow grows
    · exact (h.replied n' response' ((Function.update_of_ne same ..).symm.trans sent)).grow grows

end Steps

end Tikblog.Operational
