import Tikblog.Program.Sessions
import Tikblog.Legal.Main

/-!
# The world of Legal ingestion

The bucket, the producer with what became of its messages, and two facts kept for the
statements: which batch is being ingested, and how often each file was opened. A session is
one run of `main`, which may stop at any point; between runs and at any call of a run,
Legal may upload files into the inbox, but does not overwrite the batch being ingested. A
storage call that fails may have taken effect.
-/

namespace Tikblog.Legal

open Python Contracts Kafka Program Storage

structure World where
  objects : Objects
  ingesting : Option String
  opened : String → Nat
  kafka : ProducerState Origin

/-- The answer of an opened file: all its records, or a part of them and an error. -/
def Yields (whole stream : RowStream) : Prop :=
  stream = whole ∨ stream.rows <+: whole.rows ∧ stream.ending ≠ none

/-- What each call answers and does on its own. -/
inductive Answer (lib : Library) (avro : UnsubscribeEvent → Bytes) : Exec Op Ans World where
  | listed {p s keys} : Lists s.objects p keys → Answer lib avro (.listKeys p) s (.ok keys) s
  | notListed {p s e} : Answer lib avro (.listKeys p) s (.error e) s
  | opened {key s content stream} : s.objects key = some content → Yields (lib.csvReader content) stream →
      Answer lib avro (.openStream key) s (.ok stream)
        { s with ingesting := some key, opened := Function.update s.opened key (s.opened key + 1) }
  | notOpened {key s e} : Answer lib avro (.openStream key) s (.error e) s
  | written {key data s r} : Answer lib avro (.write key data) s r
      { s with objects := Function.update s.objects key (some data) }
  | notWritten {key data s e} : Answer lib avro (.write key data) s (.error e) s
  | copied {key target s content r} : s.objects key = some content →
      Answer lib avro (.copyObject key target) s r
        { s with objects := Function.update s.objects target (some content) }
  | notCopied {key target s e} : Answer lib avro (.copyObject key target) s (.error e) s
  | deleted {key s r} : Answer lib avro (.deleteObject key) s r
      { s with objects := Function.update s.objects key none, ingesting := none }
  | notDeleted {key s e} : Answer lib avro (.deleteObject key) s (.error e) s
  | uuid4 {s id} : Answer lib avro .uuid4 s id s
  | producer {o s a k} : ProducerExec avro o s.kafka a k →
      Answer lib avro (.producer o) s a { s with kafka := k }

/-- An inbox key that uploads may change. -/
def Uploadable (zone : LandingZone) (s : World) (key : String) : Prop :=
  ∃ name, SlashFree name ∧ key = zone.inboxKey name ∧ s.ingesting ≠ some key

/-- Uploads into the inbox. -/
structure Uploaded (zone : LandingZone) (s t : World) : Prop where
  objects : ∀ key, Uploadable zone s key ∨ t.objects key = s.objects key
  ingesting : t.ingesting = s.ingesting
  opened : t.opened = s.opened
  kafka : t.kafka = s.kafka

/-- A call, with the uploads before the next one. -/
def exec (lib : Library) (avro : UnsubscribeEvent → Bytes) (zone : LandingZone) : Exec Op Ans World :=
  fun o s a t => ∃ u, Answer lib avro o s a u ∧ Uploaded zone u t

/-- Runs of `main` one after another, starting with no processed file. -/
def ingestion (lib : Library) (avro : UnsubscribeEvent → Bytes) (zone : LandingZone)
    (settings : ProducerSettings) : System Nat Op Ans PyException Report World where
  init s := (∀ name, SlashFree name → s.objects (zone.processedKey name) = none) ∧
    s.opened = (fun _ => 0) ∧ s.kafka = .fresh
  begins _ s t := ∃ written, s.kafka.MayWrite written ∧
    Uploaded zone { s with ingesting := none, kafka := s.kafka.restarted written } t
  program := main lib zone settings
  exec _ := exec lib avro zone

/-! ## What a call leaves alone -/

/-- No key below the processed or rejects prefix changes, nor the batch being ingested, and
no acknowledgement is lost. -/
structure Frame (zone : LandingZone) (s t : World) : Prop where
  objects : ∀ key, Uploadable zone s key ∨ t.objects key = s.objects key
  ingesting : t.ingesting = s.ingesting
  opened : t.opened = s.opened
  acked : s.kafka.acked ⊆ t.kafka.acked

section

variable {lib : Library} {avro : UnsubscribeEvent → Bytes} {zone : LandingZone} {s t u : World}
  {name : String}

theorem Frame.refl (s : World) : Frame zone s s :=
  ⟨fun _ => .inr rfl, rfl, rfl, fun _ h => h⟩

theorem Frame.trans (h : Frame zone s t) (h' : Frame zone t u) : Frame zone s u where
  objects key := by
    rcases h.objects key with changed | same
    · exact .inl changed
    · rcases h'.objects key with ⟨name, free, rfl, other⟩ | same'
      · exact .inl ⟨name, free, rfl, h.ingesting ▸ other⟩
      · exact .inr (same'.trans same)
  ingesting := h'.ingesting.trans h.ingesting
  opened := h'.opened.trans h.opened
  acked := List.Subset.trans h.acked h'.acked

theorem Uploaded.frame (h : Uploaded zone s t) : Frame zone s t :=
  ⟨h.objects, h.ingesting, h.opened, by rw [h.kafka]; exact fun _ h => h⟩

theorem Frame.processed (h : Frame zone s t) (free : SlashFree name) :
    t.objects (zone.processedKey name) = s.objects (zone.processedKey name) := by
  rcases h.objects (zone.processedKey name) with ⟨m, hm, same, -⟩ | same
  · exact absurd same.symm (LandingZone.inboxKey_ne_processedKey hm free)
  · exact same

theorem Frame.rejects (h : Frame zone s t) (free : SlashFree name) :
    t.objects (zone.rejectsKey name) = s.objects (zone.rejectsKey name) := by
  rcases h.objects (zone.rejectsKey name) with ⟨m, hm, same, -⟩ | same
  · exact absurd same.symm (LandingZone.inboxKey_ne_rejectsKey hm free)
  · exact same

theorem Frame.inbox (h : Frame zone s t) (ingesting : s.ingesting = some (zone.inboxKey name)) :
    t.objects (zone.inboxKey name) = s.objects (zone.inboxKey name) := by
  rcases h.objects (zone.inboxKey name) with ⟨m, -, -, other⟩ | same
  · exact absurd ingesting other
  · exact same

/-- A call on the producer is a call of the producer's own semantics. -/
theorem exec_producer (o : ProducerOp Origin) (s : World) (a : ProducerAns o) (t : World)
    (h : exec lib avro zone (.producer o) s a t) :
    ProducerExec avro o s.kafka a t.kafka ∧ Frame zone s t := by
  obtain ⟨u, answer, uploaded⟩ := h
  cases answer with
  | producer step =>
    rw [uploaded.kafka]
    refine ⟨step, ?_⟩
    have frame := uploaded.frame
    exact ⟨frame.objects, frame.ingesting, frame.opened, List.Subset.trans step.acked_grows frame.acked⟩

/-- What is proved of a program of the producer holds of it here. -/
theorem onProducer_always {α : Type} {G : ProducerOp Origin → ProducerState Origin → Prop}
    {Q : Except PyException α → ProducerState Origin → Prop} {p : ProducerM Origin α}
    (h : Prog.Always (ProducerExec avro) G Q p s.kafka) :
    Prog.Always (exec lib avro zone) (fun o' t => ∃ o, o' = .producer o ∧ G o t.kafka ∧ Frame zone s t)
      (fun r t => Q r t.kafka ∧ Frame zone s t) (onProducer p) s :=
  Prog.Always.embed Op.producer (fun _ a => a) World.kafka (Frame zone) Frame.refl
    (fun _ _ _ => Frame.trans) exec_producer h

/-- The calls that touch neither the producer nor an object. -/
def ReadOnly : Op → Prop
  | .listKeys _ | .uuid4 => True
  | _ => False

theorem exec_readOnly {o : Op} {a : Ans o} (h : exec lib avro zone o s a t) (readOnly : ReadOnly o) :
    Frame zone s t ∧ t.kafka = s.kafka := by
  obtain ⟨u, answer, uploaded⟩ := h
  cases answer with
  | listed | notListed | uuid4 => exact ⟨uploaded.frame, uploaded.kafka⟩
  | _ => exact readOnly.elim

end

end Tikblog.Legal
