import Mathlib.Data.List.Forall2
import Tikblog.Legal.Accounting

/-!
# The split of a file

`process_batch` sends a row or keeps it as a reject, as `build_event` returns or raises. What
it returns splits the records after the first in two (`Split`): the rows that meet the grammar
of the file (`Legal.Valid`) and the others, each in file order. It does so for every content of
the file, and whatever Kafka does meanwhile.
-/

namespace Tikblog.Legal

open Python Contracts Kafka Program Storage

section

variable (lib : Library) (avro : UnsubscribeEvent → Bytes) (name : String)

/-- Three cells: two ids that are not blank, and an instant. -/
structure Valid (row : List String) (userId writerId : String) (requestedAt : Datetime) : Prop where
  cells : ∃ user writer time, row = [user, writer, time] ∧ strip user = userId ∧ strip writer = writerId ∧
    lib.fromisoformat (strip time) = some requestedAt
  user : userId ≠ ""
  writer : writerId ≠ ""
  aware : requestedAt.utcoffset.isSome

def IsValid (row : List String) : Prop :=
  ∃ userId writerId requestedAt, Valid lib row userId writerId requestedAt

/-- The message of a numbered row: one event with the cells of the row. -/
def Carries (numbered : List String × Nat) (message : Outgoing Origin) : Prop :=
  ∃ event, message = eventMessage avro event ⟨event, numbered.2⟩ ∧
    Valid lib numbered.1 event.userId event.writerId event.requestedAt ∧
    event.source = .legal ∧ event.csAgentId = none ∧ event.legalBatchId = some name

end

section

variable {lib : Library} {avro : UnsubscribeEvent → Bytes} {zone : LandingZone}
  {settings : ProducerSettings} {s : World} {name : String} {row : List String}

/-- `build_event` accepts the grammar and nothing else. -/
theorem checkRow_eq_ok_iff {userId writerId : String} {requestedAt : Datetime} :
    checkRow lib row = .ok (userId, writerId, requestedAt) ↔ Valid lib row userId writerId requestedAt := by
  constructor
  · intro checked
    have aware := checkRow_aware checked
    unfold checkRow at checked
    split at checked
    · next user writer time =>
      dsimp only at checked
      split at checked
      · cases checked
      · next userId_ne =>
        split at checked
        · cases checked
        · next writerId_ne =>
          split at checked
          · cases checked
          · next parsedAt parsed =>
            split at checked
            · cases checked
            · cases checked
              exact ⟨⟨user, writer, time, rfl, rfl, rfl, parsed⟩, userId_ne, writerId_ne, aware⟩
    · cases checked
  · rintro ⟨⟨user, writer, time, rfl, rfl, rfl, parsed⟩, userId_ne, writerId_ne, aware⟩
    simp only [checkRow]
    rw [if_neg userId_ne, if_neg writerId_ne, parsed]
    exact if_neg (Option.isSome_iff_ne_none.1 aware)

theorem isValid_iff : IsValid lib row ↔ (checkRow lib row).isOk = true := by
  constructor
  · rintro ⟨userId, writerId, requestedAt, valid⟩
    rw [checkRow_eq_ok_iff.2 valid]
    rfl
  · intro ok
    cases checked : checkRow lib row with
    | error e =>
      rw [checked] at ok
      cases ok
    | ok cells =>
      obtain ⟨userId, writerId, requestedAt⟩ := cells
      exact ⟨userId, writerId, requestedAt, checkRow_eq_ok_iff.1 checked⟩

instance : Decidable (IsValid lib row) := decidable_of_iff _ isValid_iff.symm

theorem not_isValid_of_error {e : PyException} (checked : checkRow lib row = .error e) :
    ¬ IsValid lib row := by
  rw [isValid_iff, checked]
  exact Bool.false_ne_true

/-- What the numbered rows come to: a message for each valid one, in order, and a reject for
each other one, in order and with its cells. -/
structure Split (lib : Library) (avro : UnsubscribeEvent → Bytes) (name : String)
    (numbered : List (List String × Nat)) (messages : List (Outgoing Origin)) (rejects : List Reject) :
    Prop where
  sent : List.Forall₂ (Carries lib avro name) (numbered.filter fun row => IsValid lib row.1) messages
  rejected : rejects.map (fun reject => (reject.rawRow, reject.lineNumber)) =
    numbered.filter fun row => ¬ IsValid lib row.1

variable {numbered : List (List String × Nat)} {messages : List (Outgoing Origin)} {rejects : List Reject}

theorem Split.nil : Split lib avro name [] [] [] := ⟨.nil, rfl⟩

theorem Split.cons_sent {line : Nat} {message : Outgoing Origin}
    (carries : Carries lib avro name (row, line) message)
    (rest : Split lib avro name numbered messages rejects) :
    Split lib avro name ((row, line) :: numbered) (message :: messages) rejects := by
  have valid : IsValid lib row := by
    obtain ⟨event, -, valid, -⟩ := carries
    exact ⟨_, _, _, valid⟩
  constructor
  · rw [List.filter_cons_of_pos (by simpa using valid)]
    exact .cons carries rest.sent
  · rw [List.filter_cons_of_neg (by simpa using valid)]
    exact rest.rejected

theorem Split.cons_rejected {line : Nat} {text : String} (invalid : ¬ IsValid lib row)
    (rest : Split lib avro name numbered messages rejects) :
    Split lib avro name ((row, line) :: numbered) messages (⟨line, row, text⟩ :: rejects) := by
  constructor
  · rw [List.filter_cons_of_neg (by simpa using invalid)]
    exact rest.sent
  · rw [List.filter_cons_of_pos (by simpa using invalid), List.map_cons, rest.rejected]

/-- Each row is sent or rejected, and none both. -/
theorem Split.length (h : Split lib avro name numbered messages rejects) :
    messages.length + rejects.length = numbered.length := by
  have sent := h.sent.length_eq
  have rejected := congrArg List.length h.rejected
  rw [List.length_map] at rejected
  have both := numbered.length_eq_length_filter_add fun row => decide (IsValid lib row.1)
  simp only [decide_not] at rejected
  omega

/-! ## The loop -/

theorem balanced_now (k : ProducerState Origin) : Balanced k.deliveredCount k.queue k :=
  ⟨[], [], .refl _, List.nil_subset _, rfl⟩

/-- A send that returns has put its message into the queue, whatever else became of the queue. -/
theorem send_produces (rounds : Nat) (event : UnsubscribeEvent) (tag : Origin) (s : World) :
    Prog.Always (exec lib avro zone) (fun _ _ => True)
      (fun r t => match r with
        | .ok _ => t.kafka.produced = s.kafka.produced ++ [eventMessage avro event tag]
        | .error e => ∀ text, e ≠ .rowError text)
      (onProducer (send settings rounds event tag)) s := by
  have sends := @send_spec _ avro _ _ _ settings rounds event tag (balanced_now s.kafka)
  apply (onProducer_always sends).mono
  · exact fun _ _ _ => trivial
  · intro r t ended
    obtain ⟨post, -⟩ := ended
    cases r with
    | error e => exact post.2
    | ok _ => exact post.1

/-- A row is sent, or raises nothing but what the loop catches. -/
theorem ingestRow_splits (rounds line : Nat) (row : List String) (s : World) :
    Prog.Always (exec lib avro zone) (fun _ _ => True)
      (fun r t => match r with
        | .ok none => ∃ message, Carries lib avro name (row, line) message ∧
            t.kafka.produced = s.kafka.produced ++ [message]
        | .ok (some reject) => ¬ IsValid lib row ∧ (∃ text, reject = ⟨line, row, text⟩) ∧
            t.kafka.produced = s.kafka.produced
        | .error _ => True)
      (ingestRow lib settings rounds name line row) s := by
  apply Prog.Always.tryCatch
  cases checked : checkRow lib row with
  | error e =>
    obtain ⟨text, rfl⟩ := checkRow_error checked
    simp only [buildEvent, checked]
    exact ⟨not_isValid_of_error checked, ⟨text, rfl⟩, rfl⟩
  | ok cells =>
    obtain ⟨userId, writerId, requestedAt⟩ := cells
    have valid := checkRow_eq_ok_iff.1 checked
    simp only [buildEvent, checked]
    refine ⟨trivial, fun eventId s₁ h₁ => ?_⟩
    obtain ⟨-, kafka₁⟩ := exec_readOnly h₁ trivial
    refine ⟨trivial, fun requestId s₂ h₂ => ?_⟩
    obtain ⟨-, kafka₂⟩ := exec_readOnly h₂ trivial
    rw [← kafka₁, ← kafka₂]
    simp only [Prog.bind_ok, UnsubscribeEvent.new, dif_pos valid.aware, Prog.ofExcept]
    apply Prog.Always.seq (send_produces rounds _ _ s₂)
    intro r t post
    cases r with
    | ok _ => exact ⟨_, ⟨_, rfl, valid, rfl, rfl, rfl⟩, post⟩
    | error e =>
      cases e with
      | rowError text => exact absurd rfl (post text)
      | _ => trivial

theorem ingestRows_splits (rounds : Nat) (rows : List (List String)) (rowsRead : Nat)
    (rejects : List Reject) (s : World) :
    Prog.Always (exec lib avro zone) (fun _ _ => True)
      (fun r t => match r with
        | .ok (read, rejected) => read = rowsRead + rows.length ∧ ∃ messages later,
            t.kafka.produced = s.kafka.produced ++ messages ∧ rejected = rejects ++ later ∧
            Split lib avro name (rows.zipIdx (rowsRead + 2)) messages later
        | .error _ => True)
      (ingestRows lib settings rounds name rows rowsRead rejects) s := by
  induction rows generalizing rowsRead rejects s with
  | nil => exact ⟨rfl, [], [], (List.append_nil _).symm, (List.append_nil _).symm, .nil⟩
  | cons row rows ih =>
    apply Prog.Always.seq (ingestRow_splits rounds (rowsRead + 2) row s)
    intro r t post
    match r with
    | .error e => trivial
    | .ok none =>
      obtain ⟨message, carries, produced⟩ := post
      have rest := ih (rowsRead + 1) (rejects ++ []) t
      apply rest.mono (fun _ _ guard => guard)
      intro r u post
      match r with
      | .error e => trivial
      | .ok (read, rejected) =>
        obtain ⟨count, messages, later, sent, kept, split⟩ := post
        refine ⟨?_, message :: messages, later, ?_, ?_, .cons_sent carries split⟩
        · rw [count, List.length_cons]
          omega
        · rw [sent, produced, List.append_assoc, List.singleton_append]
        · rw [kept, List.append_nil]
    | .ok (some reject) =>
      obtain ⟨invalid, ⟨text, rfl⟩, produced⟩ := post
      have rest := ih (rowsRead + 1) (rejects ++ [⟨rowsRead + 2, row, text⟩]) t
      apply rest.mono (fun _ _ guard => guard)
      intro r u post
      match r with
      | .error e => trivial
      | .ok (read, rejected) =>
        obtain ⟨count, messages, later, sent, kept, split⟩ := post
        refine ⟨?_, messages, ⟨rowsRead + 2, row, text⟩ :: later, ?_, ?_, .cons_rejected invalid split⟩
        · rw [count, List.length_cons]
          omega
        · rw [sent, produced]
        · rw [kept, List.append_assoc, List.singleton_append]

/-- A `process_batch` that returns was given all that the reader makes of the file. -/
theorem processBatch_ingests (rounds : Nat) (name : String) (s : World) :
    Prog.Always (exec lib avro zone) (fun _ _ => True)
      (fun r t => ∀ rowsRead rejects, r = .ok (rowsRead, rejects) → ∃ content messages,
        s.objects (zone.inboxKey name) = some content ∧ (lib.csvReader content).ending = none ∧
        rowsRead = (dataRows lib content).length ∧ t.kafka.produced = s.kafka.produced ++ messages ∧
        Split lib avro name ((dataRows lib content).zipIdx 2) messages rejects)
      (processBatch lib zone settings rounds name) s := by
  refine ⟨trivial, fun answer t opened => ?_⟩
  obtain ⟨u, step, uploaded⟩ := opened
  cases step with
  | notOpened => exact fun _ _ returned => nomatch returned
  | @opened _ _ content stream found yields =>
    simp only [Prog.ofExcept, Prog.bind_eq, Prog.bind_ok]
    apply Prog.Always.seq (ingestRows_splits rounds (stream.rows.drop 1) 0 [] t)
    intro r v post
    cases r with
    | error e => exact fun _ _ returned => nomatch returned
    | ok read =>
      cases ending : stream.ending with
      | some e => exact fun _ _ returned => nomatch returned
      | none =>
        have whole : stream = lib.csvReader content := by
          obtain same | ⟨-, broken⟩ := yields
          · exact same
          · exact absurd ending broken
        rintro rowsRead rejects ⟨⟩
        obtain ⟨count, messages, later, sent, kept, split⟩ := post
        rw [List.nil_append] at kept
        subst kept
        rw [Nat.zero_add, whole] at count
        rw [uploaded.kafka] at sent
        rw [whole] at split ending
        exact ⟨content, messages, found, ending, count, sent, split⟩

end

/-- **One file is split.** For every content of the file and whatever comes of the calls, a
`process_batch` that returns has read every record after the first, has sent the valid ones
and nothing else, and returns the others. -/
theorem processBatch_splits (lib : Library) (avro : UnsubscribeEvent → Bytes) (zone : LandingZone)
    (settings : ProducerSettings) (rounds : Nat) (name : String) (s : World) :
    Prog.Always (exec lib avro zone) (fun _ _ => True)
      (fun r t => ∀ rowsRead rejects, r = .ok (rowsRead, rejects) → ∃ content messages,
        s.objects (zone.inboxKey name) = some content ∧ rowsRead = (dataRows lib content).length ∧
        t.kafka.produced = s.kafka.produced ++ messages ∧
        Split lib avro name ((dataRows lib content).zipIdx 2) messages rejects ∧
        messages.length + rejects.length = rowsRead)
      (processBatch lib zone settings rounds name) s := by
  apply (processBatch_ingests rounds name s).mono (fun _ _ guard => guard)
  intro r t ingests rowsRead rejects returned
  obtain ⟨content, messages, found, -, count, sent, split⟩ := ingests rowsRead rejects returned
  refine ⟨content, messages, found, count, sent, split, ?_⟩
  rw [split.length, List.length_zipIdx, count]

end Tikblog.Legal
