import Tikblog.Legal.World
import Tikblog.Legal.RejectFile

/-!
# Accounting for Legal files

`Partition` says what became of the rows a batch has read so far: each is sent as one event
or kept as a reject, in file order. `Sending` carries it through the batch, with the
producer's balance; when the queue is empty and as many events were delivered as sent, all
are acknowledged, and the file may move. `Inv` holds at every point of every run: a
processed file is accounted for, and no row has sent more messages than its file was opened.
-/

namespace Tikblog.Legal

open Python Contracts Kafka Program Storage

section

variable (lib : Library)

/-- The event is what `build_event` makes of the row, for some fresh ids. -/
def BuiltFrom (name : String) (row : List String) (event : UnsubscribeEvent) : Prop :=
  ∃ userId writerId parsedAt eventId requestId, checkRow lib row = .ok (userId, writerId, parsedAt) ∧
    UnsubscribeEvent.new eventId userId writerId .legal parsedAt requestId none (some name) = .ok event

/-- The data rows of a file: every record after the first. -/
def dataRows (content : Bytes) : List (List String) := (lib.csvReader content).rows.drop 1

/-- The rows of a batch, the origins of the messages sent for them, and the rejects. -/
inductive Partition (name : String) : List (List String) → List Origin → List Reject → Prop where
  | nil : Partition name [] [] []
  | sent {rows origins rejects row event} : Partition name rows origins rejects →
      BuiltFrom lib name row event →
      Partition name (rows ++ [row]) (origins ++ [⟨event, rows.length + 2⟩]) rejects
  | rejected {rows origins rejects row text} : Partition name rows origins rejects →
      checkRow lib row = .error (.rowError text) →
      Partition name (rows ++ [row]) origins (rejects ++ [⟨rows.length + 2, row, text⟩])

/-- The file was read to its end, and every data row was acknowledged as one event or is
listed in the reject object, whose bytes read so, with the reason that `build_event` gives.
The acknowledged message carries the number of its row, so that no two rows share one. -/
structure Accounted (zone : LandingZone) (s : World) (name : String) (content : Bytes) : Prop where
  readable : (lib.csvReader content).ending = none
  rows : ∀ (i : Nat) (row : List String), (dataRows lib content)[i]? = some row →
    (∃ m ∈ s.kafka.acked, m.tag.line = i + 2 ∧ BuiltFrom lib name row m.tag.event) ∨
    ∃ reason bytes, checkRow lib row = .error (.rowError reason) ∧
      s.objects (zone.rejectsKey name) = some bytes ∧ ListsReject name ⟨i + 2, row, reason⟩ bytes

/-- The message was sent for this row of the file. -/
def Origin.IsRow (name : String) (line : Nat) (o : Origin) : Prop :=
  o.event.legalBatchId = some name ∧ o.line = line

instance (name : String) (line : Nat) (o : Origin) : Decidable (o.IsRow name line) :=
  inferInstanceAs (Decidable (_ ∧ _))

/-- How many messages were ever put into the queue for a row. -/
def World.sentFor (s : World) (name : String) (line : Nat) : Nat :=
  s.kafka.produced.countP fun m => m.tag.IsRow name line

variable (avro : UnsubscribeEvent → Bytes)

/-- What holds at every point of every run. -/
structure Inv (zone : LandingZone) (s : World) : Prop where
  accounted : ∀ name content, SlashFree name → s.objects (zone.processedKey name) = some content →
    Accounted lib zone s name content
  counted : ∀ name line, s.sentFor name line ≤ s.opened (zone.inboxKey name)
  tagged : ∀ m ∈ s.kafka.produced, m.value = avro m.tag.event

/-- The batch `name` with the given content is being sent: `rows` of it so far, by the
messages `sent`, the producer having delivered `before` messages at its start. -/
structure Sending (zone : LandingZone) (name : String) (content : Bytes) (before : Nat)
    (rows : List (List String)) (sent : List (Outgoing Origin)) (rejects : List Reject)
    (s : World) : Prop where
  inv : Inv lib avro zone s
  absent : s.objects (zone.processedKey name) = none
  inbox : s.objects (zone.inboxKey name) = some content
  ingesting : s.ingesting = some (zone.inboxKey name)
  balanced : Balanced before sent s.kafka
  split : Partition lib name rows (sent.map Outgoing.tag) rejects
  room : ∀ line, rows.length + 2 ≤ line → s.sentFor name line < s.opened (zone.inboxKey name)

/-- What holds when `main` makes a call: the invariant; a file is opened, and a message of
it queued, only while the file is not processed; and only inbox objects are deleted. -/
structure Guard (zone : LandingZone) (o : Op) (s : World) : Prop where
  inv : Inv lib avro zone s
  opens : ∀ key, o = .openStream key →
    ∃ name, SlashFree name ∧ key = zone.inboxKey name ∧ s.objects (zone.processedKey name) = none
  produces : ∀ m, o = .producer (.produce m) →
    ∃ name, m.tag.event.legalBatchId = some name ∧ s.objects (zone.processedKey name) = none
  deletes : ∀ key, o = .deleteObject key → ∃ name, SlashFree name ∧ key = zone.inboxKey name

end

variable {lib : Library} {avro : UnsubscribeEvent → Bytes} {zone : LandingZone}
  {settings : ProducerSettings} {s t : World} {name : String} {content : Bytes} {before : Nat}
  {rows : List (List String)} {row : List String} {origins : List Origin}
  {sent : List (Outgoing Origin)} {rejects : List Reject}

/-! ## Rows -/

theorem checkRow_error {e : PyException} (h : checkRow lib row = .error e) : ∃ text, e = .rowError text := by
  unfold checkRow at h
  split at h
  · dsimp only at h
    split at h
    · exact ⟨_, (Except.error.inj h).symm⟩
    · split at h
      · exact ⟨_, (Except.error.inj h).symm⟩
      · split at h
        · exact ⟨_, (Except.error.inj h).symm⟩
        · split at h
          · exact ⟨_, (Except.error.inj h).symm⟩
          · cases h
  · exact ⟨_, (Except.error.inj h).symm⟩

theorem checkRow_aware {userId writerId : String} {parsedAt : Datetime}
    (h : checkRow lib row = .ok (userId, writerId, parsedAt)) : parsedAt.utcoffset.isSome := by
  unfold checkRow at h
  split at h
  · dsimp only at h
    split at h
    · cases h
    · split at h
      · cases h
      · split at h
        · cases h
        · split at h
          · cases h
          · next aware =>
            cases h
            exact Option.isSome_iff_ne_none.2 aware
  · cases h

/-- A checked row becomes an event of the batch. -/
theorem built_of_checkRow {userId writerId : String} {parsedAt : Datetime}
    (h : checkRow lib row = .ok (userId, writerId, parsedAt)) (name eventId requestId : String) :
    ∃ event, UnsubscribeEvent.new eventId userId writerId .legal parsedAt requestId none (some name) =
        .ok event ∧ BuiltFrom lib name row event ∧ event.legalBatchId = some name := by
  have aware := checkRow_aware h
  have made : UnsubscribeEvent.new eventId userId writerId .legal parsedAt requestId none (some name) =
      .ok ⟨eventId, userId, writerId, .legal, parsedAt, requestId, none, some name, aware⟩ := by
    unfold UnsubscribeEvent.new
    exact dif_pos aware
  exact ⟨_, made, ⟨userId, writerId, parsedAt, eventId, requestId, h, made⟩, rfl⟩

theorem Partition.length (h : Partition lib name rows origins rejects) :
    rows.length = origins.length + rejects.length := by
  induction h with
  | nil => rfl
  | sent _ _ ih | rejected _ _ ih => simp only [List.length_append, List.length_singleton, ih]; omega

/-- Each row has its message or its reject. -/
theorem Partition.covers (h : Partition lib name rows origins rejects) {i : Nat}
    (found : rows[i]? = some row) :
    (∃ o ∈ origins, o.line = i + 2 ∧ BuiltFrom lib name row o.event) ∨
      ∃ reason, checkRow lib row = .error (.rowError reason) ∧ ⟨i + 2, row, reason⟩ ∈ rejects := by
  induction h with
  | nil => simp at found
  | @sent rows origins rejects last event _ built ih =>
    rcases Nat.lt_trichotomy i rows.length with lt | rfl | gt
    · rw [List.getElem?_append_left lt] at found
      rcases ih found with ⟨o, member, this⟩ | reject
      · exact .inl ⟨o, List.mem_append_left _ member, this⟩
      · exact .inr reject
    · have same : last = row := by simpa using found
      exact .inl ⟨_, List.mem_append_right _ (List.mem_singleton_self _), rfl, same ▸ built⟩
    · have beyond : i < (rows ++ [last]).length := (List.getElem?_eq_some_iff.1 found).1
      rw [List.length_append, List.length_singleton] at beyond
      omega
  | @rejected rows origins rejects last text _ invalid ih =>
    rcases Nat.lt_trichotomy i rows.length with lt | rfl | gt
    · rw [List.getElem?_append_left lt] at found
      rcases ih found with origin | ⟨reason, invalid, member⟩
      · exact .inl origin
      · exact .inr ⟨reason, invalid, List.mem_append_left _ member⟩
    · have same : last = row := by simpa using found
      exact .inr ⟨text, same ▸ invalid, List.mem_append_right _ (by simp [same])⟩
    · have beyond : i < (rows ++ [last]).length := (List.getElem?_eq_some_iff.1 found).1
      rw [List.length_append, List.length_singleton] at beyond
      omega

/-! ## What the frame keeps -/

/-- A file stays accounted for while its reject object stays. -/
theorem Accounted.keep (h : Accounted lib zone s name content) (acked : s.kafka.acked ⊆ t.kafka.acked)
    (rejects : t.objects (zone.rejectsKey name) = s.objects (zone.rejectsKey name)) :
    Accounted lib zone t name content := by
  refine ⟨h.readable, ?_⟩
  intro i row found
  rcases h.rows i row found with ⟨m, member, this⟩ | ⟨reason, bytes, invalid, written, listed⟩
  · exact .inl ⟨m, acked member, this⟩
  · exact .inr ⟨reason, bytes, invalid, rejects.trans written, listed⟩

theorem Accounted.frame (h : Accounted lib zone s name content) (frame : Frame zone s t)
    (free : SlashFree name) : Accounted lib zone t name content :=
  h.keep frame.acked (frame.rejects free)

theorem Inv.frame (h : Inv lib avro zone s) (frame : Frame zone s t)
    (counted : ∀ name line, t.sentFor name line ≤ s.opened (zone.inboxKey name))
    (tagged : ∀ m ∈ t.kafka.produced, m.value = avro m.tag.event) : Inv lib avro zone t where
  accounted name content free processed := by
    rw [frame.processed free] at processed
    exact (h.accounted name content free processed).frame frame free
  counted name line := by
    rw [frame.opened]
    exact counted name line
  tagged := tagged

/-- The invariant where nothing was produced. -/
theorem Inv.still (h : Inv lib avro zone s) (frame : Frame zone s t)
    (produced : t.kafka.produced = s.kafka.produced) : Inv lib avro zone t := by
  refine h.frame frame ?_ (by rw [produced]; exact h.tagged)
  intro name line
  unfold World.sentFor
  rw [produced]
  exact h.counted name line

theorem Sending.moved (h : Sending lib avro zone name content before rows sent rejects s)
    (free : SlashFree name) (frame : Frame zone s t) (produced : t.kafka.produced = s.kafka.produced)
    (balanced : Balanced before sent t.kafka) :
    Sending lib avro zone name content before rows sent rejects t where
  inv := h.inv.still frame produced
  absent := (frame.processed free).trans h.absent
  inbox := (frame.inbox h.ingesting).trans h.inbox
  ingesting := frame.ingesting.trans h.ingesting
  balanced := balanced
  split := h.split
  room line later := by
    have room := h.room line later
    unfold World.sentFor at room ⊢
    rw [produced, frame.opened]
    exact room

theorem Sending.still (h : Sending lib avro zone name content before rows sent rejects s)
    (free : SlashFree name) (frame : Frame zone s t) (kafka : t.kafka = s.kafka) :
    Sending lib avro zone name content before rows sent rejects t :=
  h.moved free frame (by rw [kafka]) (by rw [kafka]; exact h.balanced)

theorem guard_of_inv {o : Op} (h : Inv lib avro zone s) (reads : ReadOnly o) : Guard lib avro zone o s where
  inv := h
  opens key same := by subst same; exact reads.elim
  produces m same := by subst same; exact reads.elim
  deletes key same := by subst same; exact reads.elim

theorem guard_producer {o : ProducerOp Origin} (h : Inv lib avro zone s) (quiet : ∀ m, o ≠ .produce m) :
    Guard lib avro zone (.producer o) s where
  inv := h
  opens := by simp
  produces m same := absurd (Op.producer.inj same) (quiet m)
  deletes := by simp

/-! ## One row -/

/-- A message for one row adds to the count of that row only. -/
theorem sentFor_sentAtMost {m : Outgoing Origin} (batch : m.tag.event.legalBatchId = some name)
    (once : SentAtMost s.kafka.produced m t.kafka) (other : String) (l : Nat) :
    t.sentFor other l = s.sentFor other l ∨
      other = name ∧ l = m.tag.line ∧ t.sentFor other l = s.sentFor other l + 1 := by
  unfold World.sentFor
  rcases once with same | one
  · exact .inl (by rw [same])
  · rw [one, List.countP_append, List.countP_singleton]
    by_cases row : m.tag.IsRow other l
    · have names : other = name := Option.some.inj (row.1.symm.trans batch)
      exact .inr ⟨names, row.2.symm, by simp [row]⟩
    · exact .inl (by simp [row])

/-- The message of the next row keeps the invariant, whether it is in the queue yet or not. -/
theorem Sending.inv_of_once {event : UnsubscribeEvent}
    (h : Sending lib avro zone name content before rows sent rejects s)
    (batch : event.legalBatchId = some name) (frame : Frame zone s t)
    (once : SentAtMost s.kafka.produced (eventMessage avro event ⟨event, rows.length + 2⟩) t.kafka) :
    Inv lib avro zone t := by
  apply h.inv.frame frame
  · intro other l
    rcases sentFor_sentAtMost batch once other l with same | ⟨rfl, rfl, one⟩
    · rw [same]
      exact h.inv.counted other l
    · have room := h.room (rows.length + 2) le_rfl
      rw [one]
      exact room
  · rcases once with same | one
    · rw [same]
      exact h.inv.tagged
    · rw [one]
      intro m member
      rcases List.mem_append.1 member with old | new
      · exact h.inv.tagged m old
      · rw [List.mem_singleton.1 new]
        rfl

/-- The row `row` is sent, or raises without a trace. -/
theorem send_row (h : Sending lib avro zone name content before rows sent rejects s)
    (free : SlashFree name) (rounds : Nat) {event : UnsubscribeEvent}
    (built : BuiltFrom lib name row event) (batch : event.legalBatchId = some name) :
    Prog.Always (exec lib avro zone) (Guard lib avro zone)
      (fun r t => match r with
        | .ok _ => ∃ sent', Sending lib avro zone name content before (rows ++ [row]) sent' rejects t
        | .error e => Inv lib avro zone t ∧ ∀ text, e ≠ .rowError text)
      (onProducer (send settings rounds event ⟨event, rows.length + 2⟩)) s := by
  have sends := @send_spec _ avro _ _ _ settings rounds event ⟨event, rows.length + 2⟩ h.balanced
  apply (onProducer_always sends).mono
  · intro _ t guard
    obtain ⟨o, rfl, ⟨once, produces⟩, frame⟩ := guard
    refine ⟨h.inv_of_once batch frame once, by simp, ?_, by simp⟩
    intro m same
    have message := (produces m (by simpa using same)).1
    refine ⟨name, ?_, (frame.processed free).trans h.absent⟩
    rw [message]
    exact batch
  · intro r t ended
    obtain ⟨post, frame⟩ := ended
    cases r with
    | error e =>
      obtain ⟨produced, notRow⟩ := post
      exact ⟨h.inv.still frame produced, notRow⟩
    | ok _ =>
      obtain ⟨produced, balanced⟩ := post
      refine ⟨sent ++ [eventMessage avro event ⟨event, rows.length + 2⟩], ?_⟩
      exact
        { inv := h.inv_of_once batch frame (.inr produced)
          absent := (frame.processed free).trans h.absent
          inbox := (frame.inbox h.ingesting).trans h.inbox
          ingesting := frame.ingesting.trans h.ingesting
          balanced := balanced
          split := by
            rw [List.map_append, List.map_singleton]
            exact h.split.sent built
          room := by
            intro line later
            rw [List.length_append, List.length_singleton] at later
            have room := h.room line (by omega)
            rw [frame.opened]
            rcases sentFor_sentAtMost batch (.inr produced) name line with same | ⟨-, here, -⟩
            · rw [same]
              exact room
            · have tag : line = rows.length + 2 := here
              omega }

/-- **One row** of a batch is sent or rejected. -/
theorem ingestRow_spec (h : Sending lib avro zone name content before rows sent rejects s)
    (free : SlashFree name) (rounds : Nat) (row : List String) :
    Prog.Always (exec lib avro zone) (Guard lib avro zone)
      (fun r t => match r with
        | .ok reject => ∃ sent', Sending lib avro zone name content before (rows ++ [row]) sent'
            (rejects ++ reject.toList) t
        | .error _ => Inv lib avro zone t)
      (ingestRow lib settings rounds name (rows.length + 2) row) s := by
  apply Prog.Always.tryCatch
  cases checked : checkRow lib row with
  | error e =>
    obtain ⟨text, rfl⟩ := checkRow_error checked
    have rejected : Sending lib avro zone name content before (rows ++ [row]) sent
        (rejects ++ [⟨rows.length + 2, row, text⟩]) s :=
      { h with
        split := h.split.rejected checked
        room := fun line later => h.room line (by rw [List.length_append] at later; omega) }
    simp only [buildEvent, checked]
    exact ⟨sent, rejected⟩
  | ok cells =>
    obtain ⟨userId, writerId, parsedAt⟩ := cells
    simp only [buildEvent, checked]
    refine ⟨guard_of_inv h.inv trivial, ?_⟩
    intro eventId s₁ h₁
    obtain ⟨frame, kafka⟩ := exec_readOnly h₁ trivial
    have h := h.still free frame kafka
    refine ⟨guard_of_inv h.inv trivial, ?_⟩
    intro requestId s₂ h₂
    obtain ⟨frame, kafka⟩ := exec_readOnly h₂ trivial
    have h := h.still free frame kafka
    obtain ⟨event, made, built, batch⟩ := built_of_checkRow checked name eventId requestId
    simp only [Prog.bind_ok, made, Prog.ofExcept]
    apply Prog.Always.seq (send_row h free rounds built batch)
    intro r t post
    cases r with
    | error e =>
      cases e with
      | rowError text => exact absurd rfl (post.2 text)
      | _ => exact post.1
    | ok _ =>
      obtain ⟨sent', h⟩ := post
      exact ⟨sent', by simpa using h⟩

theorem ingestRows_spec (h : Sending lib avro zone name content before rows sent rejects s)
    (free : SlashFree name) (rounds : Nat) (later : List (List String)) :
    Prog.Always (exec lib avro zone) (Guard lib avro zone)
      (fun r t => match r with
        | .ok (rowsRead, rejects') => rowsRead = (rows ++ later).length ∧
            ∃ sent', Sending lib avro zone name content before (rows ++ later) sent' rejects' t
        | .error _ => Inv lib avro zone t)
      (ingestRows lib settings rounds name later rows.length rejects) s := by
  induction later generalizing s rows sent rejects with
  | nil => exact ⟨by simp, sent, by simpa using h⟩
  | cons row later ih =>
    apply Prog.Always.seq (ingestRow_spec h free rounds row)
    intro r t post
    cases r with
    | error e => exact post
    | ok reject =>
      obtain ⟨sent', h⟩ := post
      have length : (rows ++ [row]).length = rows.length + 1 := by simp
      have assoc : rows ++ [row] ++ later = rows ++ row :: later := by simp
      have rest := ih h
      rw [length, assoc] at rest
      exact rest

end Tikblog.Legal
