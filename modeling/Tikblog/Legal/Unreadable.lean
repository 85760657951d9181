import Tikblog.Legal.Moves
import Tikblog.Legal.Roles
import Tikblog.Legal.Split

/-!
# Files that cannot be read

A run in a world where Kafka and the storage do what they are asked. A file that is read to its
end is sent, confirmed and moved (`ingestBatch_works`). The error of one that is not leaves the
loop of `main`, and no file after it is looked at (`ingestFiles_works`).
-/

namespace Tikblog.Legal

open Python Contracts Kafka Program Storage

/-- Kafka takes every message and reports no failure, and a flush leaves nothing queued. -/
inductive ProducerWorks (avro : UnsubscribeEvent → Bytes) :
    Program.Exec (ProducerOp Origin) ProducerAns (ProducerState Origin) where
  | encoded {event k} : ProducerWorks avro (.toBytes event) k (.ok (avro event)) k
  | monotonic {k now} : ProducerWorks avro .monotonic k now k
  | produced {m k} : ProducerWorks avro (.produce m) k (.ok ()) (k.enqueue m)
  | polled {timeout k delivered remaining written} : (delivered ++ remaining).Perm k.queue →
      k.MayWrite written → delivered ⊆ k.topic ++ written →
      ProducerWorks avro (.poll timeout) k () (k.settled delivered [] remaining written)
  | flushed {timeout k delivered written} : delivered.Perm k.queue →
      k.MayWrite written → delivered ⊆ k.topic ++ written →
      ProducerWorks avro (.flush timeout) k 0 (k.settled delivered [] [] written)
  | deliveredCount {k} : ProducerWorks avro .deliveredCount k k.deliveredCount k
  | counted {c k} : ProducerWorks avro (.count c) k () (k.count c)

/-- Every call does what it is asked for, and nothing else changes the bucket. -/
inductive Works (lib : Library) (avro : UnsubscribeEvent → Bytes) : Exec Op Ans World where
  | listed {p s keys} : Lists s.objects p keys → Works lib avro (.listKeys p) s (.ok keys) s
  | opened {key s content} : s.objects key = some content →
      Works lib avro (.openStream key) s (.ok (lib.csvReader content))
        { s with ingesting := some key, opened := Function.update s.opened key (s.opened key + 1) }
  | written {key data s} : Works lib avro (.write key data) s (.ok ())
      { s with objects := Function.update s.objects key (some data) }
  | copied {key target s content} : s.objects key = some content →
      Works lib avro (.copyObject key target) s (.ok ())
        { s with objects := Function.update s.objects target (some content) }
  | deleted {key s} : Works lib avro (.deleteObject key) s (.ok ())
      { s with objects := Function.update s.objects key none, ingesting := none }
  | uuid4 {s id} : Works lib avro .uuid4 s id s
  | producer {o s a k} : ProducerWorks avro o s.kafka a k →
      Works lib avro (.producer o) s a { s with kafka := k }

/-- A new process, with a producer of its own. -/
def World.started (s : World) : World := { s with ingesting := none, kafka := s.kafka.restarted [] }

section

variable (lib : Library) (avro : UnsubscribeEvent → Bytes) (zone : LandingZone) (s : World)

/-- A batch that is listed, and was not processed before. -/
structure Waiting (name : String) (content : Bytes) : Prop where
  direct : SlashFree name
  csv : EndsInCsv name
  inbox : s.objects (zone.inboxKey name) = some content
  unprocessed : s.objects (zone.processedKey name) = none

/-- The reader gets to the end of the file: it is UTF-8 and CSV throughout. -/
def Readable (content : Bytes) : Prop := (lib.csvReader content).ending = none

/-- The file is in its place among the processed, every valid row of it is acknowledged as one
event, and its reject file, read back, holds the other rows, if there are any. -/
structure Processed (name : String) (content : Bytes) : Prop where
  split : ∃ messages rejects, Split lib avro name ((dataRows lib content).zipIdx 2) messages rejects ∧
    messages ⊆ s.kafka.acked ∧
    (rejects = [] ∨ ∃ bytes, s.objects (zone.rejectsKey name) = some bytes ∧ IsRejectFile name rejects bytes)
  moved : s.objects (zone.processedKey name) = some content
  gone : s.objects (zone.inboxKey name) = none

end

section

variable {lib : Library} {avro : UnsubscribeEvent → Bytes} {zone : LandingZone}
  {settings : ProducerSettings} {s t : World} {name : String} {content : Bytes}

/-! ## Calls -/

theorem ProducerWorks.exec {o : ProducerOp Origin} {k k' : ProducerState Origin} {a : ProducerAns o}
    (works : ProducerWorks avro o k a k') : ProducerExec avro o k a k' := by
  cases works with
  | encoded => exact .encoded
  | monotonic => exact .monotonic
  | produced => exact .produced
  | @polled _ _ delivered remaining written split may there =>
    exact .polled ⟨delivered, [], remaining, written, by rwa [List.append_nil], may, there, rfl⟩
  | @flushed _ _ delivered written split may there =>
    exact .flushed ⟨delivered, [], [], written, by simpa using split, may, there, rfl⟩
  | deliveredCount => exact .deliveredCount
  | counted => exact .counted

theorem Works.answer {o : Op} {a : Ans o} (works : Works lib avro o s a t) : Answer lib avro o s a t := by
  cases works with
  | listed lists => exact .listed lists
  | opened found => exact .opened found (.inl rfl)
  | written => exact .written
  | copied found => exact .copied found
  | deleted => exact .deleted
  | uuid4 => exact .uuid4
  | producer works => exact .producer works.exec

theorem Works.exec {o : Op} {a : Ans o} (works : Works lib avro o s a t) : exec lib avro zone o s a t :=
  ⟨t, works.answer, fun _ => .inr rfl, rfl, rfl, rfl⟩

/-- What was put into the queue since some point is delivered or still there. -/
def Flowing (base : List (Outgoing Origin)) (before : ℕ) (k : ProducerState Origin) : Prop :=
  ∃ sent delivered, k.produced = base ++ sent ∧ (delivered ++ k.queue).Perm sent ∧ delivered ⊆ k.acked ∧
    k.deliveredCount = before + delivered.length

theorem Flowing.step {base : List (Outgoing Origin)} {before : ℕ} {o : ProducerOp Origin}
    {k k' : ProducerState Origin} {a : ProducerAns o} (flowing : Flowing base before k)
    (works : ProducerWorks avro o k a k') : Flowing base before k' := by
  obtain ⟨sent, delivered, produced, split, acked, counted⟩ := flowing
  have settled : ∀ d remaining written, (d ++ remaining).Perm k.queue →
      Flowing base before (k.settled d [] remaining written) := by
    intro d remaining written parts
    refine ⟨sent, delivered ++ d, produced, ?_, ?_, ?_⟩
    · rw [List.append_assoc]
      exact (parts.append_left delivered).trans split
    · intro m member
      obtain old | new := List.mem_append.1 member
      · exact List.mem_append_left _ (acked old)
      · exact List.mem_append_right _ new
    · rw [List.length_append, ← Nat.add_assoc, ← counted]
      rfl
  cases works with
  | encoded | monotonic | deliveredCount => exact ⟨sent, delivered, produced, split, acked, counted⟩
  | @produced m =>
    refine ⟨sent ++ [m], delivered, ?_, ?_, acked, counted⟩
    · rw [← List.append_assoc, ← produced]
      rfl
    · have appended := split.append_right [m]
      rwa [List.append_assoc] at appended
  | polled parts => exact settled _ _ _ parts
  | flushed parts => exact settled _ _ _ (by simpa using parts)
  | @counted c =>
    cases c <;> exact ⟨sent, delivered, produced, split, acked, counted⟩

theorem Works.flowing {base : List (Outgoing Origin)} {before : ℕ} {o : Op} {a : Ans o}
    (works : Works lib avro o s a t) (flowing : Flowing base before s.kafka) :
    Flowing base before t.kafka := by
  cases works with
  | producer works => exact flowing.step works
  | _ => exact flowing

theorem Works.acked {o : Op} {a : Ans o} (works : Works lib avro o s a t) :
    s.kafka.acked ⊆ t.kafka.acked := by
  cases works with
  | producer works => exact works.exec.acked_grows
  | _ => exact List.Subset.refl _

/-- A call that stands by changes no object. -/
theorem Works.bystander {o : Op} {a : Ans o} (works : Works lib avro o s a t) (bystander : Bystander o) :
    t.objects = s.objects := by
  cases works with
  | listed | uuid4 | producer => rfl
  | _ => exact bystander.elim

/-! ## The rows of a file -/

/-- The answers of a world that works. -/
def Succeeds : (o : Op) → Ans o → Prop
  | .listKeys _, a => ∃ keys, a = .ok keys
  | .openStream _, a => ∃ stream, a = .ok stream
  | .write _ _, a => a = .ok ()
  | .copyObject _ _, a => a = .ok ()
  | .deleteObject _, a => a = .ok ()
  | .uuid4, _ => True
  | .producer (.toBytes _), a => ∃ payload, a = .ok payload
  | .producer (.produce _), a => a = .ok ()
  | .producer _, _ => True

theorem Works.succeeds {o : Op} {a : Ans o} (works : Works lib avro o s a t) : Succeeds o a := by
  cases works with
  | listed => exact ⟨_, rfl⟩
  | opened => exact ⟨_, rfl⟩
  | written => rfl
  | copied => rfl
  | deleted => rfl
  | uuid4 => trivial
  | @producer o _ _ _ works =>
    cases works with
    | encoded => exact ⟨_, rfl⟩
    | produced => rfl
    | _ => trivial

/-- The first attempt to queue a message is enough. -/
theorem send_returns (rounds : ℕ) (event : UnsubscribeEvent) (tag : Origin) :
    (onProducer (send settings (rounds + 1) event tag)).Returns Succeeds := by
  rintro _ ⟨payload, rfl⟩ now - _ rfl counted - polled -
  exact ⟨_, rfl⟩

theorem ingestRow_returns (rounds line : ℕ) (row : List String) :
    (ingestRow lib settings (rounds + 1) name line row).Returns Succeeds := by
  unfold ingestRow
  cases checked : checkRow lib row with
  | error e =>
    obtain ⟨text, rfl⟩ := checkRow_error checked
    simp only [buildEvent, checked]
    exact ⟨_, rfl⟩
  | ok cells =>
    obtain ⟨userId, writerId, requestedAt⟩ := cells
    apply Prog.Returns.tryCatch
    simp only [buildEvent, checked]
    intro eventId _ requestId _
    simp only [UnsubscribeEvent.new, dif_pos (checkRow_aware checked), Prog.bind_ok, Prog.ofExcept]
    exact (send_returns rounds _ _).bind fun _ => ⟨none, rfl⟩

theorem ingestRows_returns (rounds : ℕ) (rows : List (List String)) (rowsRead : ℕ) (rejects : List Reject) :
    (ingestRows lib settings (rounds + 1) name rows rowsRead rejects).Returns Succeeds := by
  induction rows generalizing rowsRead rejects with
  | nil => exact ⟨_, rfl⟩
  | cons row rows ih => exact (ingestRow_returns rounds _ row).bind fun reject => ih _ _

/-- What a run that stands by keeps. -/
structure Beside (s t : World) : Prop where
  objects : t.objects = s.objects
  acked : s.kafka.acked ⊆ t.kafka.acked
  flowing : ∀ base before, Flowing base before s.kafka → Flowing base before t.kafka

theorem Beside.refl : Beside s s := ⟨rfl, List.Subset.refl _, fun _ _ flowing => flowing⟩

theorem Beside.trans {u : World} (first : Beside s t) (second : Beside t u) : Beside s u where
  objects := second.objects.trans first.objects
  acked := List.Subset.trans first.acked second.acked
  flowing base before flowing := second.flowing base before (first.flowing base before flowing)

theorem Works.beside {o : Op} {a : Ans o} (works : Works lib avro o s a t) (bystander : Bystander o) :
    Beside s t where
  objects := works.bystander bystander
  acked := works.acked
  flowing _ _ flowing := works.flowing flowing

theorem always_beside {α : Type} {p : LegalM α} (uses : p.Uses Bystander) (s : World) :
    Prog.Always (Works lib avro) (fun _ _ => True) (fun _ t => Beside s t) p s :=
  Prog.Always.of_uses (fun _ bystander _ _ _ before works => before.trans (works.beside bystander))
    (fun _ _ _ _ => trivial) uses Beside.refl

/-- The rows that the reader yields are sent or rejected, whatever becomes of the rest. -/
theorem ingestRows_works (rounds : ℕ) (rows : List (List String)) (s : World) :
    Prog.Always (Works lib avro) (fun _ _ => True)
      (fun r t => Beside s t ∧ ∃ messages rejects, r = .ok (rows.length, rejects) ∧
        t.kafka.produced = s.kafka.produced ++ messages ∧
        Split lib avro name (rows.zipIdx 2) messages rejects)
      (ingestRows lib settings (rounds + 1) name rows 0 []) s := by
  have splits : Prog.Always (Works lib avro) _ _ _ _ :=
    (@ingestRows_splits lib avro .defaults settings name (rounds + 1) rows 0 [] s).of_le
      fun o s a t works => works.exec
  have returns : Prog.Always (Works lib avro) (fun _ _ => True) _ _ s :=
    (@ingestRows_returns lib settings name rounds rows 0 []).always fun o s a t works => works.succeeds
  have beside : Prog.Always (Works lib avro) (fun _ _ => True) _ _ _ :=
    always_beside (@uses_ingestRows lib settings name (rounds + 1) rows 0 []) s
  apply ((splits.and returns).and beside).mono (fun _ _ _ => trivial)
  rintro r t ⟨⟨split, ⟨⟨read, rejected⟩, rfl⟩⟩, beside⟩
  obtain ⟨count, messages, later, produced, kept, split⟩ := split
  rw [Nat.zero_add] at count
  rw [List.nil_append] at kept
  subst count kept
  exact ⟨beside, messages, rejected, rfl, produced, split⟩

/-- The rows before the end or the error of the reader are dealt with first. -/
theorem processBatch_works (rounds : ℕ) (found : s.objects (zone.inboxKey name) = some content) :
    Prog.Always (Works lib avro) (fun _ _ => True)
      (fun r t => Beside s t ∧ ∃ messages rejects,
        (r = match (lib.csvReader content).ending with
          | none => .ok ((dataRows lib content).length, rejects)
          | some e => .error e) ∧
        t.kafka.produced = s.kafka.produced ++ messages ∧
        Split lib avro name ((dataRows lib content).zipIdx 2) messages rejects)
      (processBatch lib zone settings (rounds + 1) name) s := by
  refine ⟨trivial, fun answer t works => ?_⟩
  cases works with
  | @opened _ _ content' found' =>
    obtain rfl : content' = content := Option.some.inj (found'.symm.trans found)
    simp only [Prog.ofExcept, Prog.bind_eq, Prog.bind_ok]
    apply Prog.Always.seq (ingestRows_works rounds ((lib.csvReader content').rows.drop 1) _)
    rintro r t ⟨beside, messages, rejects, rfl, produced, split⟩
    have beside : Beside s t := ⟨beside.objects, beside.acked, beside.flowing⟩
    cases ending : (lib.csvReader content').ending with
    | none => exact ⟨beside, messages, rejects, rfl, produced, split⟩
    | some e => exact ⟨beside, messages, rejects, rfl, produced, split⟩

/-! ## One file -/

/-- Nothing has changed but what is kept for the file. -/
def Elsewhere (zone : LandingZone) (name : String) (s t : World) : Prop :=
  ∀ key, key ≠ zone.inboxKey name → key ≠ zone.processedKey name → key ≠ zone.rejectsKey name →
    t.objects key = s.objects key

theorem inboxKey_inj {m : String} (hm : SlashFree m) (hn : SlashFree name)
    (same : zone.inboxKey m = zone.inboxKey name) : m = name :=
  (key_inj zone.inbox_isPrefix zone.inbox_isPrefix hm hn same).2

/-- The move of a file whose rows are all accounted for. -/
theorem markProcessed_works (free : SlashFree name) (found : s.objects (zone.inboxKey name) = some content)
    (split : ∃ messages rejects, Split lib avro name ((dataRows lib content).zipIdx 2) messages rejects ∧
      messages ⊆ s.kafka.acked ∧
      (rejects = [] ∨ s.objects (zone.rejectsKey name) = some (LandingZone.renderRejects name rejects))) :
    Prog.Always (Works lib avro) (fun _ _ => True)
      (fun r t => r = .ok () ∧ Processed lib avro zone t name content ∧ Elsewhere zone name s t ∧
        t.kafka = s.kafka) (markProcessed zone name) s := by
  have apart : zone.processedKey name ≠ zone.inboxKey name :=
    (LandingZone.inboxKey_ne_processedKey free free).symm
  refine ⟨trivial, fun answer u works => ?_⟩
  cases works with
  | @copied _ _ _ content' found' =>
    obtain rfl : content' = content := Option.some.inj (found'.symm.trans found)
    refine ⟨trivial, fun answer t works => ?_⟩
    cases works with
    | deleted =>
      refine ⟨rfl, ⟨?_, ?_, Function.update_self ..⟩, ?_, rfl⟩
      · obtain ⟨messages, rejects, split, acked, kept⟩ := split
        refine ⟨messages, rejects, split, acked, kept.imp_right fun kept => ⟨_, ?_, isRejectFile name rejects⟩⟩
        refine (Function.update_of_ne (LandingZone.inboxKey_ne_rejectsKey free free).symm ..).trans ?_
        exact (Function.update_of_ne (LandingZone.processedKey_ne_rejectsKey free free).symm ..).trans kept
      · exact (Function.update_of_ne apart ..).trans (Function.update_self ..)
      · intro key inbox processed _
        exact (Function.update_of_ne inbox ..).trans (Function.update_of_ne processed ..)

/-- The end of a file whose rows are accounted for. -/
theorem finish_works {report : Report} (free : SlashFree name)
    (found : s.objects (zone.inboxKey name) = some content)
    (split : ∃ messages rejects, Split lib avro name ((dataRows lib content).zipIdx 2) messages rejects ∧
      messages ⊆ s.kafka.acked ∧
      (rejects = [] ∨ s.objects (zone.rejectsKey name) = some (LandingZone.renderRejects name rejects))) :
    Prog.Always (Works lib avro) (fun _ _ => True)
      (fun r t => (∃ report, r = .ok report) ∧ Processed lib avro zone t name content ∧
        Elsewhere zone name s t ∧ t.kafka = s.kafka)
      (markProcessed zone name >>= fun _ => pure report) s := by
  apply Prog.Always.seq (markProcessed_works free found split)
  rintro _ t ⟨rfl, processed, elsewhere, kafka⟩
  exact ⟨⟨report, rfl⟩, processed, elsewhere, kafka⟩

theorem writeRejects_works (name : String) (rejects : List Reject) :
    Prog.Always (Works lib avro) (fun _ _ => True)
      (fun r t => r = .ok () ∧
        t.objects (zone.rejectsKey name) = some (LandingZone.renderRejects name rejects) ∧
        (∀ key ≠ zone.rejectsKey name, t.objects key = s.objects key) ∧ t.kafka = s.kafka)
      (writeRejects zone name rejects) s := by
  refine ⟨trivial, fun answer t works => ?_⟩
  cases works with
  | written => exact ⟨rfl, Function.update_self .., fun key other => Function.update_of_ne other .., rfl⟩

/-- The acceptance test is passed: the rejects are written, if there are any, and the file moves. -/
theorem accept_works {messages : List (Outgoing Origin)} {rejects : List Reject} {report : Report}
    (free : SlashFree name) (found : s.objects (zone.inboxKey name) = some content)
    (split : Split lib avro name ((dataRows lib content).zipIdx 2) messages rejects)
    (acked : messages ⊆ s.kafka.acked) :
    Prog.Always (Works lib avro) (fun _ _ => True)
      (fun r t => (∃ report, r = .ok report) ∧ Processed lib avro zone t name content ∧
        Elsewhere zone name s t ∧ t.kafka = s.kafka)
      (if rejects ≠ [] then
        writeRejects zone name rejects >>= fun _ => markProcessed zone name >>= fun _ => pure report
      else markProcessed zone name >>= fun _ => pure report) s := by
  split
  · apply Prog.Always.seq (writeRejects_works name rejects)
    rintro _ t ⟨rfl, written, kept, kafka⟩
    have inbox := (kept _ (LandingZone.inboxKey_ne_rejectsKey free free)).trans found
    have acked' : messages ⊆ t.kafka.acked := by
      rw [kafka]
      exact acked
    apply (finish_works free inbox ⟨messages, rejects, split, acked', .inr written⟩).mono
      (fun _ _ guard => guard)
    rintro r u ⟨returned, processed, elsewhere, kafka'⟩
    refine ⟨returned, processed, fun key inbox processed rejects => ?_, kafka'.trans kafka⟩
    exact (elsewhere key inbox processed rejects).trans (kept key rejects)
  · next none =>
    rw [not_not] at none
    exact finish_works free found ⟨messages, rejects, split, acked, .inl none⟩

/-- A flush delivers what is left of the messages. -/
theorem flush_works {base messages : List (Outgoing Origin)} {before : ℕ}
    (flowing : Flowing base before s.kafka) (produced : s.kafka.produced = base ++ messages) :
    Prog.Always (Works lib avro) (fun _ _ => True)
      (fun r t => r = .ok 0 ∧ t.objects = s.objects ∧ t.kafka.queue = [] ∧ messages ⊆ t.kafka.acked ∧
        s.kafka.acked ⊆ t.kafka.acked ∧ t.kafka.deliveredCount = before + messages.length)
      (onProducer (flush settings)) s := by
  refine ⟨trivial, fun answer t works => ?_⟩
  have acked := works.acked
  obtain ⟨sent, delivered, produced', split, confirmed, counted⟩ := works.flowing flowing
  cases works with
  | producer works =>
    cases works with
    | @flushed _ _ d written parts =>
      have kept : (s.kafka.settled d [] [] written).produced = s.kafka.produced := rfl
      rw [kept, produced] at produced'
      obtain rfl : messages = sent := List.append_cancel_left produced'
      have all : delivered.Perm messages := by
        have none : (s.kafka.settled d [] [] written).queue = [] := rfl
        rwa [none, List.append_nil] at split
      refine ⟨rfl, rfl, rfl, ?_, acked, ?_⟩
      · exact fun m member => confirmed (all.mem_iff.2 member)
      · rw [counted, all.length_eq]

/-- **A file that can be read** is sent, confirmed and moved. -/
theorem ingestBatch_works (rounds : ℕ) (report : Report) (waiting : Waiting zone s name content)
    (readable : Readable lib content) (queue : s.kafka.queue = []) :
    Prog.Always (Works lib avro) (fun _ _ => True)
      (fun r t => (∃ report, r = .ok report) ∧ Processed lib avro zone t name content ∧
        Elsewhere zone name s t ∧ t.kafka.queue = [] ∧ s.kafka.acked ⊆ t.kafka.acked)
      (ingestBatch lib zone settings (rounds + 1) name s.kafka.deliveredCount report) s := by
  apply Prog.Always.seq (processBatch_works rounds waiting.inbox)
  rintro r t ⟨beside, messages, rejects, rfl, produced, split⟩
  rw [readable]
  have start : Flowing s.kafka.produced s.kafka.deliveredCount s.kafka :=
    ⟨[], [], (List.append_nil _).symm, by rw [queue]; exact .refl _, List.nil_subset _, rfl⟩
  have flowing := beside.flowing _ _ start
  apply Prog.Always.seq (flush_works flowing produced)
  rintro _ u ⟨rfl, objects, empty, confirmed, acked, delivered⟩
  refine ⟨trivial, fun answer v works => ?_⟩
  cases works with
  | producer works =>
    cases works with
    | deliveredCount =>
      have count := split.length
      rw [List.length_zipIdx] at count
      simp only [Prog.embed_done, Prog.bind_ok]
      split
      · next refused => omega
      · have found : u.objects (zone.inboxKey name) = some content := by
          rw [objects, beside.objects, waiting.inbox]
        apply (accept_works waiting.direct found split confirmed).mono (fun _ _ guard => guard)
        rintro r v ⟨returned, processed, elsewhere, kafka⟩
        refine ⟨returned, processed, ?_, ?_, ?_⟩
        · intro key inbox processed rejects
          rw [elsewhere key inbox processed rejects, objects, beside.objects]
        · rw [kafka]
          exact empty
        · rw [kafka]
          exact List.Subset.trans beside.acked acked

theorem alreadyProcessed_works (name : String) :
    Prog.Always (Works lib avro) (fun _ _ => True)
      (fun r t => r = .ok (s.objects (zone.processedKey name)).isSome ∧ t = s)
      (alreadyProcessed zone name) s := by
  have looks : Prog.Always (Works lib avro) _ _ _ _ :=
    (@alreadyProcessed_exists lib avro zone s name).of_le fun o s a t works => works.answer
  have returns : Prog.Always (Works lib avro) (fun _ _ => True) _ (alreadyProcessed zone name) s :=
    Prog.Returns.always (fun o s a t works => works.succeeds) (by rintro _ ⟨keys, rfl⟩; exact ⟨_, rfl⟩)
  apply (looks.and returns).mono (fun _ _ _ => trivial)
  rintro r t ⟨⟨rfl, looked⟩, ⟨processed, rfl⟩⟩
  exact ⟨congrArg Except.ok (looked processed rfl), rfl⟩

/-- A file whose turn comes: afterwards it is processed, or it cannot be read and the run fails. -/
theorem ingestFile_works (rounds : ℕ) (report : Report) (free : SlashFree name) (csv : EndsInCsv name)
    (found : s.objects (zone.inboxKey name) = some content) (queue : s.kafka.queue = []) :
    Prog.Always (Works lib avro) (fun _ _ => True)
      (fun r t => match r with
        | .ok _ => Elsewhere zone name s t ∧ t.kafka.queue = [] ∧
            (Waiting zone s name content → Readable lib content ∧ Processed lib avro zone t name content)
        | .error _ => t.objects = s.objects ∧ Waiting zone s name content ∧ ¬ Readable lib content)
      (ingestFile lib zone settings (rounds + 1) name report) s := by
  apply Prog.Always.seq (alreadyProcessed_works name)
  rintro _ t ⟨rfl, rfl⟩
  cases unprocessed : t.objects (zone.processedKey name) with
  | some old =>
    refine ⟨fun _ _ _ _ => rfl, queue, fun waiting => ?_⟩
    rw [waiting.unprocessed] at unprocessed
    cases unprocessed
  | none =>
    have waiting : Waiting zone t name content := ⟨free, csv, found, unprocessed⟩
    refine ⟨trivial, fun answer u works => ?_⟩
    cases works with
    | producer works =>
      cases works with
      | deliveredCount =>
        apply Prog.Always.tryCatch
        by_cases readable : Readable lib content
        · apply (ingestBatch_works rounds report waiting readable queue).mono (fun _ _ guard => guard)
          rintro _ u ⟨⟨report, rfl⟩, processed, elsewhere, empty, -⟩
          exact ⟨elsewhere, empty, fun _ => ⟨readable, processed⟩⟩
        · apply Prog.Always.seq (processBatch_works rounds found)
          rintro _ u ⟨beside, messages, rejects, rfl, -, -⟩
          cases ending : (lib.csvReader content).ending with
          | none => exact absurd ending readable
          | some e =>
            refine ⟨trivial, fun answer v works => ?_⟩
            exact ⟨(works.bystander trivial).trans beside.objects, waiting, readable⟩

/-! ## The run -/

/-- What is kept for the file has not changed. -/
structure Untouched (zone : LandingZone) (name : String) (s t : World) : Prop where
  inbox : t.objects (zone.inboxKey name) = s.objects (zone.inboxKey name)
  processed : t.objects (zone.processedKey name) = s.objects (zone.processedKey name)
  rejects : t.objects (zone.rejectsKey name) = s.objects (zone.rejectsKey name)

theorem Untouched.of_objects (same : t.objects = s.objects) : Untouched zone name s t :=
  ⟨congrFun same _, congrFun same _, congrFun same _⟩

theorem Untouched.trans {u : World} (first : Untouched zone name s t) (second : Untouched zone name t u) :
    Untouched zone name s u where
  inbox := second.inbox.trans first.inbox
  processed := second.processed.trans first.processed
  rejects := second.rejects.trans first.rejects

theorem Elsewhere.untouched {other : String} (elsewhere : Elsewhere zone name s t) (free : SlashFree name)
    (free' : SlashFree other) (apart : other ≠ name) : Untouched zone other s t where
  inbox := elsewhere _ (fun same => apart (inboxKey_inj free' free same))
    (LandingZone.inboxKey_ne_processedKey free' free) (LandingZone.inboxKey_ne_rejectsKey free' free)
  processed := elsewhere _ (LandingZone.inboxKey_ne_processedKey free free').symm
    (fun same => apart (LandingZone.processedKey_inj free' free same))
    (LandingZone.processedKey_ne_rejectsKey free' free)
  rejects := elsewhere _ (LandingZone.inboxKey_ne_rejectsKey free free').symm
    (LandingZone.processedKey_ne_rejectsKey free free').symm
    (fun same => apart (LandingZone.rejectsKey_inj free' free same))

theorem Processed.later (processed : Processed lib avro zone s name content)
    (untouched : Untouched zone name s t) (acked : s.kafka.acked ⊆ t.kafka.acked) :
    Processed lib avro zone t name content where
  split := by
    obtain ⟨messages, rejects, split, confirmed, kept⟩ := processed.split
    exact ⟨messages, rejects, split, List.Subset.trans confirmed acked, kept.imp_right fun ⟨bytes, written, file⟩ =>
      ⟨bytes, untouched.rejects.trans written, file⟩⟩
  moved := untouched.processed.trans processed.moved
  gone := untouched.inbox.trans processed.gone

theorem Waiting.later (waiting : Waiting zone s name content) (untouched : Untouched zone name s t) :
    Waiting zone t name content where
  direct := waiting.direct
  csv := waiting.csv
  inbox := untouched.inbox.trans waiting.inbox
  unprocessed := untouched.processed.trans waiting.unprocessed

theorem Waiting.before (waiting : Waiting zone t name content) (untouched : Untouched zone name s t) :
    Waiting zone s name content where
  direct := waiting.direct
  csv := waiting.csv
  inbox := untouched.inbox.symm.trans waiting.inbox
  unprocessed := untouched.processed.symm.trans waiting.unprocessed

/-- Where a run over the names has ended: the ones that it passed were readable and are processed,
and it ends at the last name or at a waiting file that cannot be read. -/
structure Ended (lib : Library) (avro : UnsubscribeEvent → Bytes) (zone : LandingZone) (names : List String)
    (s t : World) : Prop where
  others : ∀ name, SlashFree name → name ∉ names → Untouched zone name s t
  passes : ∃ passed rest, names = passed ++ rest ∧
    (∀ name ∈ passed, ∀ content, Waiting zone s name content →
      Readable lib content ∧ Processed lib avro zone t name content) ∧
    (∀ name ∈ rest, Untouched zone name s t) ∧
    ∀ bad ∈ rest.head?, ∃ content, Waiting zone s bad content ∧ ¬ Readable lib content

/-- The run stops at its first file. -/
theorem Ended.stopped {names : List String} (same : t.objects = s.objects)
    (waiting : Waiting zone s name content) (unreadable : ¬ Readable lib content) :
    Ended lib avro zone (name :: names) s t where
  others _ _ _ := .of_objects same
  passes := by
    refine ⟨[], name :: names, rfl, fun _ member => absurd member List.not_mem_nil, ?_, ?_⟩
    · exact fun _ _ => .of_objects same
    · rintro _ ⟨⟩
      exact ⟨content, waiting, unreadable⟩

/-- The run passes its first file. -/
theorem Ended.cons {names : List String} {u : World} (free : SlashFree name)
    (frees : ∀ other ∈ names, SlashFree other) (fresh : name ∉ names)
    (found : s.objects (zone.inboxKey name) = some content)
    (passes : Waiting zone s name content → Readable lib content ∧ Processed lib avro zone t name content)
    (elsewhere : Elsewhere zone name s t) (acked : t.kafka.acked ⊆ u.kafka.acked)
    (rest : Ended lib avro zone names t u) : Ended lib avro zone (name :: names) s u := by
  have apart : ∀ other ∈ names, Untouched zone other s t := fun other member =>
    elsewhere.untouched free (frees other member) fun same => fresh (same ▸ member)
  obtain ⟨passed, later, rfl, done, untouched, stops⟩ := rest.passes
  refine ⟨fun other free' outside => ?_, name :: passed, later, rfl, ?_, ?_, ?_⟩
  · rw [List.mem_cons, not_or] at outside
    exact (elsewhere.untouched free free' outside.1).trans (rest.others other free' outside.2)
  · intro other member content' waiting
    obtain rfl | member := List.mem_cons.1 member
    · obtain rfl : content' = content := Option.some.inj (waiting.inbox.symm.trans found)
      obtain ⟨readable, processed⟩ := passes waiting
      exact ⟨readable, processed.later (rest.others _ free fresh) acked⟩
    · exact done other member content' (waiting.later (apart other (List.mem_append_left _ member)))
  · intro other member
    exact (apart other (List.mem_append_right _ member)).trans (untouched other member)
  · intro bad head
    obtain ⟨content', waiting, unreadable⟩ := stops bad head
    exact ⟨content', waiting.before (apart bad (List.mem_append_right _ (List.mem_of_mem_head? head))),
      unreadable⟩

theorem ingestFiles_works (rounds : ℕ) (names : List String) (report : Report) (distinct : names.Nodup)
    (listed : ∀ name ∈ names, SlashFree name ∧ EndsInCsv name ∧ (s.objects (zone.inboxKey name)).isSome)
    (queue : s.kafka.queue = []) :
    Prog.Always (Works lib avro) (fun _ _ => True) (fun _ t => Ended lib avro zone names s t)
      (ingestFiles lib zone settings (rounds + 1) names report) s := by
  induction names generalizing s report with
  | nil =>
    refine ⟨fun _ _ _ => .of_objects rfl, [], [], rfl, ?_, ?_, ?_⟩
    · exact fun _ member => absurd member List.not_mem_nil
    · exact fun _ member => absurd member List.not_mem_nil
    · exact fun _ head => nomatch head
  | cons name names ih =>
    rw [List.nodup_cons] at distinct
    rw [List.forall_mem_cons] at listed
    obtain ⟨⟨free, csv, stored⟩, listed⟩ := listed
    obtain ⟨content, found⟩ := Option.isSome_iff_exists.1 stored
    apply Prog.Always.seq (ingestFile_works rounds report free csv found queue)
    intro r t post
    cases r with
    | error e =>
      obtain ⟨same, waiting, unreadable⟩ := post
      exact .stopped same waiting unreadable
    | ok report =>
      obtain ⟨elsewhere, empty, passes⟩ := post
      have later : ∀ other ∈ names, SlashFree other ∧ EndsInCsv other ∧
          (t.objects (zone.inboxKey other)).isSome := by
        intro other member
        obtain ⟨free', csv', stored'⟩ := listed other member
        have untouched := elsewhere.untouched free free' fun same => distinct.1 (same ▸ member)
        exact ⟨free', csv', by rwa [untouched.inbox]⟩
      have rest := ih report distinct.2 later empty
      have grows := Prog.Always.of_exec (I := fun u => t.kafka.acked ⊆ u.kafka.acked)
        (p := ingestFiles lib zone settings (rounds + 1) names report)
        (fun o s a u before (works : Works lib avro o s a u) => List.Subset.trans before works.acked)
        (List.Subset.refl _)
      apply (rest.and grows).mono (fun _ _ _ => trivial)
      rintro r u ⟨rest, acked⟩
      have frees : ∀ other ∈ names, SlashFree other := fun other member => (listed other member).1
      exact .cons free frees distinct.1 found passes elsewhere acked rest

/-- No file that cannot be read comes before one that can, of those that wait. -/
def Unblocked (lib : Library) (zone : LandingZone) (s : World) : Prop :=
  ∀ bad good content content', Waiting zone s bad content → ¬ Readable lib content →
    Waiting zone s good content' → Readable lib content' → ¬ bad < good

theorem Ended.processed_iff {names : List String} (ended : Ended lib avro zone names s t)
    (sorted : names.Pairwise (· < ·))
    (listed : ∀ name content, Waiting zone s name content → name ∈ names) :
    (∀ name content, Waiting zone s name content → Readable lib content →
      Processed lib avro zone t name content) ↔ Unblocked lib zone s := by
  obtain ⟨passed, rest, rfl, done, untouched, stops⟩ := ended.passes
  obtain ⟨-, order, between⟩ := List.pairwise_append.1 sorted
  constructor
  · intro all bad good content content' waiting unreadable waiting' readable before
    have bad_later : bad ∈ rest := by
      obtain early | late := List.mem_append.1 (listed bad content waiting)
      · exact absurd (done bad early content waiting).1 unreadable
      · exact late
    obtain early | late := List.mem_append.1 (listed good content' waiting')
    · exact String.lt_asymm before (between good early bad bad_later)
    · have moved := (all good content' waiting' readable).moved
      rw [(untouched good late).processed, waiting'.unprocessed] at moved
      cases moved
  · intro unblocked name content waiting readable
    obtain early | late := List.mem_append.1 (listed name content waiting)
    · exact (done name early content waiting).2
    · cases rest with
      | nil => cases late
      | cons bad after =>
        obtain ⟨content', waiting', unreadable⟩ := stops bad rfl
        obtain rfl | later := List.mem_cons.1 late
        · rw [Option.some.inj (waiting'.inbox.symm.trans waiting.inbox)] at unreadable
          exact absurd readable unreadable
        · have before := (List.pairwise_cons.1 order).1 name later
          exact absurd before (unblocked bad name content' content waiting' unreadable waiting readable)

theorem listBatches_works :
    Prog.Always (Works lib avro) (fun _ _ => True)
      (fun r t => t = s ∧ ∃ names, r = .ok names ∧ names.Pairwise (· < ·) ∧ ∀ name, name ∈ names ↔
        SlashFree name ∧ EndsInCsv name ∧ (s.objects (zone.inboxKey name)).isSome) (listBatches zone) s := by
  have looks : Prog.Always (Works lib avro) _ _ _ _ :=
    (@listBatches_lists lib avro zone s).of_le fun o s a t works => works.answer
  have returns : Prog.Always (Works lib avro) (fun _ _ => True) _ (listBatches zone) s :=
    Prog.Returns.always (fun o s a t works => works.succeeds) (by rintro _ ⟨keys, rfl⟩; exact ⟨_, rfl⟩)
  apply (looks.and returns).mono (fun _ _ _ => trivial)
  rintro r t ⟨⟨rfl, lists⟩, ⟨names, rfl⟩⟩
  exact ⟨rfl, names, rfl, lists names rfl⟩

/-- **One run.** -/
theorem main_works (rounds : ℕ) (queue : s.kafka.queue = []) :
    Prog.Always (Works lib avro) (fun _ _ => True)
      (fun _ t => (∀ name content, Waiting zone s name content → Readable lib content →
        Processed lib avro zone t name content) ↔ Unblocked lib zone s)
      (main lib zone settings (rounds + 1)) s := by
  apply Prog.Always.seq listBatches_works
  rintro _ t ⟨rfl, names, rfl, sorted, listed⟩
  have distinct : names.Nodup := sorted.imp String.ne_of_lt
  apply (ingestFiles_works rounds names ⟨0, 0, 0, 0⟩ distinct (fun name member => (listed name).1 member)
    queue).mono (fun _ _ guard => guard)
  intro r u ended
  apply ended.processed_iff sorted
  intro name content waiting
  refine (listed name).2 ⟨waiting.direct, waiting.csv, ?_⟩
  exact Option.isSome_iff_exists.2 ⟨content, waiting.inbox⟩

theorem waiting_started : Waiting zone s.started name content ↔ Waiting zone s name content :=
  ⟨fun h => ⟨h.direct, h.csv, h.inbox, h.unprocessed⟩, fun h => ⟨h.direct, h.csv, h.inbox, h.unprocessed⟩⟩

end

/-- **Every file that can be read is ingested exactly if none is blocked.** Where Kafka and the
storage work, a run ends with every readable batch processed if and only if no batch that cannot
be read comes before one of them in the order of names. -/
theorem main_ingests_readable_iff (lib : Library) (avro : UnsubscribeEvent → Bytes) (zone : LandingZone)
    (settings : ProducerSettings) (rounds : ℕ) (s : World) :
    Prog.Always (Works lib avro) (fun _ _ => True)
      (fun _ t => (∀ name content, Waiting zone s name content → Readable lib content →
        Processed lib avro zone t name content) ↔ Unblocked lib zone s)
      (main lib zone settings (rounds + 1)) s.started := by
  have run := @main_works lib avro zone settings s.started rounds rfl
  simpa only [Unblocked, waiting_started] using run

/-- A reader that stops at a byte that is not UTF-8, and otherwise finds a header. -/
def headerLibrary : Library where
  fromisoformat _ := none
  repr text := text
  csvReader content :=
    if content = [0xFF] then
      ⟨[], some (.unicodeDecodeError "'utf-8' codec can't decode byte 0xff in position 0: invalid start byte")⟩
    else ⟨[expectedHeader], none⟩

/-- A file that cannot be read, and one that can, with the same name but for its first letter. -/
def twoFiles : World where
  objects key :=
    if key = "legal_inbox/a.csv" then some [0xFF]
    else if key = "legal_inbox/b.csv" then some (encode "user_id,writer_id,requested_at\r\n") else none
  ingesting := none
  opened _ := 0
  kafka := .fresh

theorem twoFiles_stored {key : String} :
    (twoFiles.objects key).isSome ↔ key = "legal_inbox/a.csv" ∨ key = "legal_inbox/b.csv" := by
  by_cases a : key = "legal_inbox/a.csv"
  · simp [twoFiles, a]
  · by_cases b : key = "legal_inbox/b.csv" <;> simp [twoFiles, a, b]

theorem twoFiles_inbox : Lists twoFiles.objects "legal_inbox/" ["legal_inbox/a.csv", "legal_inbox/b.csv"] := by
  refine ⟨List.pairwise_pair.2 (by decide), fun key => ?_⟩
  rw [twoFiles_stored, List.mem_cons, List.mem_singleton, iff_self_and]
  rintro (rfl | rfl) <;> decide

theorem twoFiles_processed : Lists twoFiles.objects (LandingZone.defaults.processedKey "a.csv") [] := by
  refine ⟨.nil, fun key => ⟨fun member => absurd member List.not_mem_nil, ?_⟩⟩
  rw [twoFiles_stored]
  rintro ⟨rfl | rfl, below⟩
  · exact absurd below (by decide)
  · exact absurd below (by decide)

/-- The second file is not looked at. -/
theorem main_blocked_by_unreadable :
    ¬ Prog.Always (Works headerLibrary fun _ => []) (fun _ _ => True)
      (fun _ t => ∀ name content, Waiting .defaults twoFiles name content → Readable headerLibrary content →
        Processed headerLibrary (fun _ => []) .defaults t name content)
      (main headerLibrary .defaults ⟨5, 10⟩ 1) twoFiles.started := by
  intro all
  have names : LandingZone.defaults.batchNames ["legal_inbox/a.csv", "legal_inbox/b.csv"] =
    ["a.csv", "b.csv"] := by decide +kernel
  have first := all.2 (.ok ["legal_inbox/a.csv", "legal_inbox/b.csv"]) _ (.listed twoFiles_inbox)
  simp only [Prog.ofExcept, Prog.bind_eq, Prog.bind_ok, Prog.pure_eq, names] at first
  have second := first.2 (.ok []) _ (.listed twoFiles_processed)
  have third := second.2 (0 : ℕ) _ (.producer .deliveredCount)
  have fourth := third.2 (.ok (headerLibrary.csvReader [0xFF])) _ (.opened rfl)
  have fifth := fourth.2 (0 : ℕ) _ (.producer (.flushed (.refl _) (.refl _) (List.nil_subset _)))
  have processed := fifth "b.csv" (encode "user_id,writer_id,requested_at\r\n")
    ⟨by decide, ⟨['b'], 'c', 's', 'v', rfl, .inl rfl, .inl rfl, .inl rfl⟩, rfl, rfl⟩
    (congrArg RowStream.ending (if_neg (by decide +kernel)))
  exact nomatch processed.moved

end Tikblog.Legal
