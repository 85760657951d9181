import Tikblog.Program.Simulation
import Tikblog.Legal.Moves
import Tikblog.Legal.Runs

/-!
# What becomes of an upload

Legal may upload any content under any name of the inbox at any moment, also under the name of
the file a run is ingesting. What the run then copies and deletes need not be what it has read.
As long as every object it deletes is the one it opened, a run cannot tell such uploads from
uploads that wait until it is done (`Tracks`), and no upload is lost.
-/

namespace Tikblog.Legal

open Python Contracts Kafka Program Storage

/-- An upload stands in the inbox, a later one took its place there, or a run deleted it. -/
inductive Fate where
  | standing
  | overwritten
  | deleted
  deriving DecidableEq, Repr

structure Upload where
  key : String
  content : Bytes
  fate : Fate
  deriving DecidableEq, Repr

/-- What happens to the object of a key happens to the upload that stands there. -/
def Upload.settle (key : String) (fate : Fate) (u : Upload) : Upload :=
  if u.key = key ∧ u.fate = .standing then { u with fate := fate } else u

/-- The world of the ingestion with its uploads, and with what was opened, the latest first. -/
structure Inbox where
  world : World
  uploads : List Upload
  reads : List (String × Bytes)

def Inbox.upload (s : Inbox) (key : String) (content : Bytes) : Inbox where
  world := { s.world with objects := Function.update s.world.objects key (some content) }
  uploads := s.uploads.map (Upload.settle key .overwritten) ++ [⟨key, content, .standing⟩]
  reads := s.reads

theorem Inbox.upload_self {s : Inbox} {key : String} {content : Bytes} :
    (s.upload key content).world.objects key = some content := Function.update_self ..

theorem Inbox.upload_of_ne {s : Inbox} {key other : String} {content : Bytes} (apart : other ≠ key) :
    (s.upload key content).world.objects other = s.world.objects other := Function.update_of_ne apart ..

/-- Any uploads directly inside the inbox. -/
inductive Uploads (zone : LandingZone) (s : Inbox) : Inbox → Prop where
  | none : Uploads zone s s
  | more {t : Inbox} {name : String} {content : Bytes} : Uploads zone s t → SlashFree name →
      Uploads zone s (t.upload (zone.inboxKey name) content)

/-- The histories after a call that left the world `w`. -/
def Inbox.after (s : Inbox) (w : World) : Op → Inbox
  | .openStream key =>
    if s.world.opened key < w.opened key then
      ⟨w, s.uploads, (s.world.objects key).toList.map (fun content => (key, content)) ++ s.reads⟩
    else ⟨w, s.uploads, s.reads⟩
  | .deleteObject key =>
    if w.objects key = none then ⟨w, s.uploads.map (Upload.settle key .deleted), s.reads⟩
    else ⟨w, s.uploads, s.reads⟩
  | _ => ⟨w, s.uploads, s.reads⟩

/-- A call, with the uploads before the next one. -/
def inboxExec (lib : Library) (avro : UnsubscribeEvent → Bytes) (zone : LandingZone) : Exec Op Ans Inbox :=
  fun o s a t => ∃ w, Answer lib avro o s.world a w ∧ Uploads zone (s.after w o) t

/-- Runs of `main` one after another, starting with an empty inbox and no processed file. -/
def landing (lib : Library) (avro : UnsubscribeEvent → Bytes) (zone : LandingZone)
    (settings : ProducerSettings) : System Nat Op Ans PyException Report Inbox where
  init s := (ingestion lib avro zone settings).init s.world ∧ s.world.ingesting = none ∧ s.uploads = [] ∧
    s.reads = []
  begins _ s t := ∃ written, s.world.kafka.MayWrite written ∧
    Uploads zone { s with
      world := { s.world with ingesting := none, kafka := s.world.kafka.restarted written } } t
  program := main lib zone settings
  exec _ := inboxExec lib avro zone

/-- What is deleted is what was opened last under the key. -/
def DeletesOpened : Exec Op Ans Inbox := fun o s _ _ => match o with
  | .deleteObject key => s.world.objects key = s.reads.lookup key
  | _ => True

/-- The runs that delete what they have opened. -/
def steadyLanding (lib : Library) (avro : UnsubscribeEvent → Bytes) (zone : LandingZone)
    (settings : ProducerSettings) : System Nat Op Ans PyException Report Inbox :=
  (landing lib avro zone settings).restrict fun _ => DeletesOpened

/-- The content was read from the inbox, and each of its data rows is acknowledged as one
event or listed in the reject object. -/
def Ingested (lib : Library) (zone : LandingZone) (s : Inbox) (u : Upload) : Prop :=
  ∃ name, SlashFree name ∧ u.key = zone.inboxKey name ∧ (u.key, u.content) ∈ s.reads ∧
    Accounted lib zone s.world name u.content

/-! ## The run does not notice -/

/-- The world as the run takes it to be: the file it has opened stays as it was, and a copy of
it is among the processed. -/
structure Tracks (zone : LandingZone) (s : Inbox) (v : World) : Prop where
  ingesting : v.ingesting = s.world.ingesting
  opened : v.opened = s.world.opened
  kafka : v.kafka = s.world.kafka
  present : ∀ key, (v.objects key).isSome = (s.world.objects key).isSome
  same : ∀ key, v.ingesting ≠ some key → (∀ name, SlashFree name → key ≠ zone.processedKey name) →
    v.objects key = s.world.objects key
  reading : ∀ key, v.ingesting = some key → (∃ name, SlashFree name ∧ key = zone.inboxKey name) ∧
    ∃ content, v.objects key = some content ∧ s.reads.lookup key = some content
  inbox : ∀ u ∈ s.uploads, ∃ name, SlashFree name ∧ u.key = zone.inboxKey name
  standing : ∀ u ∈ s.uploads, u.fate = .standing → s.world.objects u.key = some u.content
  deleted : ∀ u ∈ s.uploads, u.fate = .deleted → ∃ name, SlashFree name ∧ u.key = zone.inboxKey name ∧
    (u.key, u.content) ∈ s.reads ∧ v.objects (zone.processedKey name) = some u.content

section

variable {lib : Library} {avro : UnsubscribeEvent → Bytes} {zone : LandingZone}
  {settings : ProducerSettings} {s t : Inbox} {v w : World} {name : String}

theorem mem_settled {uploads : List Upload} {key : String} {fate : Fate} {u : Upload}
    (member : u ∈ uploads.map (Upload.settle key fate)) :
    (u ∈ uploads ∧ ¬ (u.key = key ∧ u.fate = .standing)) ∨
      ∃ old ∈ uploads, old.key = key ∧ old.fate = .standing ∧ u = { old with fate := fate } := by
  obtain ⟨old, old_in, rfl⟩ := List.mem_map.1 member
  unfold Upload.settle
  split
  · rename_i settled
    exact .inr ⟨old, old_in, settled.1, settled.2, rfl⟩
  · rename_i other
    exact .inl ⟨old_in, other⟩

theorem isSome_update {objects objects' : Objects}
    (present : ∀ key, (objects key).isSome = (objects' key).isSome)
    (key : String) {value value' : Option Bytes} (both : value.isSome = value'.isSome) (other : String) :
    (Function.update objects key value other).isSome = (Function.update objects' key value' other).isSome := by
  by_cases same : other = key
  · subst same
    rw [Function.update_self, Function.update_self, both]
  · rw [Function.update_of_ne same, Function.update_of_ne same, present]

theorem Uploaded.trans {a b c : World} (h : Uploaded zone a b) (h' : Uploaded zone b c) :
    Uploaded zone a c where
  objects := (h.frame.trans h'.frame).objects
  ingesting := h'.ingesting.trans h.ingesting
  opened := h'.opened.trans h.opened
  kafka := h'.kafka.trans h.kafka

theorem Tracks.inbox_upload (h : Tracks zone s v) (free : SlashFree name) (content : Bytes) :
    ∀ u ∈ (s.upload (zone.inboxKey name) content).uploads, ∃ name, SlashFree name ∧ u.key = zone.inboxKey name := by
  intro u member
  obtain old | new := List.mem_append.1 member
  · obtain ⟨old, -⟩ | ⟨first, first_in, -, -, rfl⟩ := mem_settled old
    · exact h.inbox u old
    · exact h.inbox first first_in
  · obtain rfl := List.mem_singleton.1 new
    exact ⟨name, free, rfl⟩

theorem Tracks.standing_upload (h : Tracks zone s v) (key : String) (content : Bytes) :
    ∀ u ∈ (s.upload key content).uploads, u.fate = .standing →
      (s.upload key content).world.objects u.key = some u.content := by
  intro u member stands
  obtain old | new := List.mem_append.1 member
  · obtain ⟨old, other⟩ | ⟨first, -, -, -, rfl⟩ := mem_settled old
    · have apart : u.key ≠ key := fun same => other ⟨same, stands⟩
      exact (Inbox.upload_of_ne apart).trans (h.standing u old stands)
    · cases stands
  · obtain rfl := List.mem_singleton.1 new
    exact Inbox.upload_self

/-- An upload deletes nothing. -/
theorem mem_of_deleted {key : String} {content : Bytes} {u : Upload}
    (member : u ∈ (s.upload key content).uploads)
    (gone : u.fate = .deleted) : u ∈ s.uploads := by
  obtain old | new := List.mem_append.1 member
  · obtain ⟨old, -⟩ | ⟨first, -, -, -, rfl⟩ := mem_settled old
    · exact old
    · cases gone
  · obtain rfl := List.mem_singleton.1 new
    cases gone

/-- An upload under the name of the file that is being ingested is not seen. -/
theorem Tracks.upload_unseen (h : Tracks zone s v) (free : SlashFree name) (content : Bytes)
    (here : v.ingesting = some (zone.inboxKey name)) : Tracks zone (s.upload (zone.inboxKey name) content) v where
  ingesting := h.ingesting
  opened := h.opened
  kafka := h.kafka
  present key := by
    obtain ⟨-, read, held, -⟩ := h.reading _ here
    by_cases same : key = zone.inboxKey name
    · subst same
      rw [held, Inbox.upload_self]
      rfl
    · rw [h.present, Inbox.upload_of_ne same]
  same key elsewhere unprocessed := by
    have apart : key ≠ zone.inboxKey name := by
      rintro rfl
      exact elsewhere here
    exact (h.same key elsewhere unprocessed).trans (Inbox.upload_of_ne apart).symm
  reading := h.reading
  inbox := h.inbox_upload free content
  standing := h.standing_upload _ content
  deleted u member gone := h.deleted u (mem_of_deleted member gone) gone

/-- Any other upload is made on both sides. -/
theorem Tracks.upload_seen (h : Tracks zone s v) (free : SlashFree name) (content : Bytes)
    (elsewhere : v.ingesting ≠ some (zone.inboxKey name)) :
    Tracks zone (s.upload (zone.inboxKey name) content)
      { v with objects := Function.update v.objects (zone.inboxKey name) (some content) } where
  ingesting := h.ingesting
  opened := h.opened
  kafka := h.kafka
  present := isSome_update h.present _ rfl
  same key apart unprocessed := by
    by_cases same : key = zone.inboxKey name
    · subst same
      exact (Function.update_self ..).trans Inbox.upload_self.symm
    · rw [Inbox.upload_of_ne same, ← h.same key apart unprocessed]
      exact Function.update_of_ne same ..
  reading key here := by
    have apart : key ≠ zone.inboxKey name := by
      rintro rfl
      exact elsewhere here
    obtain ⟨is_inbox, read, held, last⟩ := h.reading key here
    exact ⟨is_inbox, read, (Function.update_of_ne apart ..).trans held, last⟩
  inbox := h.inbox_upload free content
  standing := h.standing_upload _ content
  deleted u member gone := by
    obtain ⟨n, n_free, key, read, held⟩ := h.deleted u (mem_of_deleted member gone) gone
    have apart : zone.processedKey n ≠ zone.inboxKey name :=
      (LandingZone.inboxKey_ne_processedKey free n_free).symm
    exact ⟨n, n_free, key, read, (Function.update_of_ne apart ..).trans held⟩

theorem Tracks.upload (h : Tracks zone s v) (free : SlashFree name) (content : Bytes) :
    ∃ u, Uploaded zone v u ∧ Tracks zone (s.upload (zone.inboxKey name) content) u := by
  by_cases here : v.ingesting = some (zone.inboxKey name)
  · exact ⟨v, uploaded_refl v, h.upload_unseen free content here⟩
  · refine ⟨{ v with objects := Function.update v.objects (zone.inboxKey name) (some content) }, ?_,
      h.upload_seen free content here⟩
    refine ⟨?_, rfl, rfl, rfl⟩
    intro key
    by_cases same : key = zone.inboxKey name
    · exact .inl ⟨name, free, same, same ▸ here⟩
    · exact .inr (Function.update_of_ne same ..)

theorem Tracks.uploads (h : Tracks zone s v) (uploads : Uploads zone s t) :
    ∃ u, Uploaded zone v u ∧ Tracks zone t u := by
  induction uploads with
  | none => exact ⟨v, uploaded_refl v, h⟩
  | more _ free ih =>
    obtain ⟨u, uploaded, tracks⟩ := ih
    obtain ⟨u', uploaded', tracks⟩ := tracks.upload free _
    exact ⟨u', uploaded.trans uploaded', tracks⟩

/-! ## Call by call -/

/-- An object outside the inbox takes a new value on both sides. -/
theorem Tracks.put (h : Tracks zone s v) {key : String} {value value' : Option Bytes}
    (outside : ∀ name, SlashFree name → zone.inboxKey name ≠ key) (both : value.isSome = value'.isSome)
    (agree : (∀ name, SlashFree name → key ≠ zone.processedKey name) → value = value')
    (free : ∀ name, SlashFree name → key = zone.processedKey name → v.objects key = none) :
    Tracks zone { s with world := { s.world with objects := Function.update s.world.objects key value' } }
      { v with objects := Function.update v.objects key value } where
  ingesting := h.ingesting
  opened := h.opened
  kafka := h.kafka
  present := isSome_update h.present key both
  same other elsewhere unprocessed := by
    change Function.update v.objects key value other = Function.update s.world.objects key value' other
    by_cases same : other = key
    · subst same
      rw [Function.update_self, Function.update_self, agree unprocessed]
    · rw [Function.update_of_ne same, Function.update_of_ne same, h.same other elsewhere unprocessed]
  reading other here := by
    obtain ⟨⟨name, name_free, rfl⟩, read, held, last⟩ := h.reading other here
    exact ⟨⟨name, name_free, rfl⟩, read, (Function.update_of_ne (outside name name_free) ..).trans held, last⟩
  inbox := h.inbox
  standing u member stands := by
    obtain ⟨name, name_free, is_inbox⟩ := h.inbox u member
    have apart : u.key ≠ key := is_inbox ▸ outside name name_free
    exact (Function.update_of_ne apart ..).trans (h.standing u member stands)
  deleted u member gone := by
    obtain ⟨name, name_free, is_inbox, read, held⟩ := h.deleted u member gone
    have apart : zone.processedKey name ≠ key := by
      rintro rfl
      rw [free name name_free rfl] at held
      cases held
    exact ⟨name, name_free, is_inbox, read, (Function.update_of_ne apart ..).trans held⟩

/-- A file is opened. -/
theorem Tracks.open (h : Tracks zone s v) {content : Bytes} (free : SlashFree name)
    (held : v.objects (zone.inboxKey name) = some content) (idle : v.ingesting = none) :
    Tracks zone
      { world := { s.world with
          ingesting := some (zone.inboxKey name)
          opened := Function.update s.world.opened (zone.inboxKey name)
            (s.world.opened (zone.inboxKey name) + 1) }
        uploads := s.uploads
        reads := (zone.inboxKey name, content) :: s.reads }
      { v with
        ingesting := some (zone.inboxKey name)
        opened := Function.update v.opened (zone.inboxKey name) (v.opened (zone.inboxKey name) + 1) } where
  ingesting := rfl
  opened := by rw [h.opened]
  kafka := h.kafka
  present := h.present
  same other _ unprocessed := h.same other (by rw [idle]; exact nofun) unprocessed
  reading other here := by
    obtain rfl := Option.some.inj here
    exact ⟨⟨name, free, rfl⟩, content, held, List.lookup_cons_self⟩
  inbox := h.inbox
  standing := h.standing
  deleted u member gone := by
    obtain ⟨n, n_free, is_inbox, read, moved⟩ := h.deleted u member gone
    exact ⟨n, n_free, is_inbox, List.mem_cons_of_mem _ read, moved⟩

/-- The file that was opened is deleted, after it was copied. -/
theorem Tracks.delete (h : Tracks zone s v) (free : SlashFree name)
    (here : v.ingesting = some (zone.inboxKey name))
    (moved : v.objects (zone.processedKey name) = v.objects (zone.inboxKey name))
    (steady : s.world.objects (zone.inboxKey name) = s.reads.lookup (zone.inboxKey name)) :
    Tracks zone
      { world := { s.world with
          objects := Function.update s.world.objects (zone.inboxKey name) none, ingesting := none }
        uploads := s.uploads.map (Upload.settle (zone.inboxKey name) .deleted)
        reads := s.reads }
      { v with objects := Function.update v.objects (zone.inboxKey name) none, ingesting := none } where
  ingesting := rfl
  opened := h.opened
  kafka := h.kafka
  present := isSome_update h.present _ rfl
  same other _ unprocessed := by
    change Function.update v.objects (zone.inboxKey name) none other =
      Function.update s.world.objects (zone.inboxKey name) none other
    by_cases same : other = zone.inboxKey name
    · subst same
      rw [Function.update_self, Function.update_self]
    · have elsewhere : v.ingesting ≠ some other := by
        rw [here]
        exact fun same' => same (Option.some.inj same').symm
      rw [Function.update_of_ne same, Function.update_of_ne same, h.same other elsewhere unprocessed]
  reading _ here := by cases here
  inbox u member := by
    obtain ⟨old, -⟩ | ⟨first, first_in, -, -, rfl⟩ := mem_settled member
    · exact h.inbox u old
    · exact h.inbox first first_in
  standing u member stands := by
    obtain ⟨old, other⟩ | ⟨first, -, -, -, rfl⟩ := mem_settled member
    · have apart : u.key ≠ zone.inboxKey name := fun same => other ⟨same, stands⟩
      exact (Function.update_of_ne apart ..).trans (h.standing u old stands)
    · cases stands
  deleted u member gone := by
    have apart (n : String) (n_free : SlashFree n) : zone.processedKey n ≠ zone.inboxKey name :=
      (LandingZone.inboxKey_ne_processedKey free n_free).symm
    obtain ⟨old, -⟩ | ⟨first, first_in, is_here, stands, rfl⟩ := mem_settled member
    · obtain ⟨n, n_free, is_inbox, read, held⟩ := h.deleted u old gone
      exact ⟨n, n_free, is_inbox, read, (Function.update_of_ne (apart n n_free) ..).trans held⟩
    · -- what stood there is what was opened, and what was copied
      obtain ⟨-, content, held, last⟩ := h.reading _ here
      have stood := h.standing first first_in stands
      rw [is_here, steady, last] at stood
      obtain rfl := Option.some.inj stood
      obtain ⟨later, earlier, reads, -⟩ := List.lookup_eq_some_iff.1 last
      refine ⟨name, free, is_here, ?_, ?_⟩
      · rw [is_here, reads]
        exact List.mem_append_right _ List.mem_cons_self
      · exact (Function.update_of_ne (apart name free) ..).trans (moved.trans held)

/-- **A call of the run.** What it answers with the uploads it answers without them. -/
theorem Tracks.call {o : Op} {a : Ans o} (h : Tracks zone s v) (guard : Guard lib avro zone o v)
    (moves : Moves zone o v) (steady : DeletesOpened o s a t) (answered : Answer lib avro o s.world a w) :
    ∃ u, Answer lib avro o v a u ∧ Tracks zone (s.after w o) u := by
  cases answered with
  | listed lists =>
    refine ⟨v, .listed ⟨lists.1, ?_⟩, h⟩
    intro key
    rw [lists.2, h.present]
  | notListed => exact ⟨v, .notListed, h⟩
  | @opened key _ content stream found yields =>
    obtain ⟨name, free, rfl, -⟩ := guard.opens key rfl
    have idle : v.ingesting = none := moves
    have held : v.objects (zone.inboxKey name) = some content := by
      rw [h.same _ (by rw [idle]; exact nofun) fun n n_free => LandingZone.inboxKey_ne_processedKey free n_free]
      exact found
    refine ⟨_, .opened held yields, ?_⟩
    have counted : s.world.opened (zone.inboxKey name) < Function.update s.world.opened (zone.inboxKey name)
        (s.world.opened (zone.inboxKey name) + 1) (zone.inboxKey name) := by
      rw [Function.update_self]
      exact Nat.lt_succ_self _
    simp only [Inbox.after, if_pos counted, found]
    exact h.open free held idle
  | notOpened =>
    refine ⟨v, .notOpened, ?_⟩
    simp only [Inbox.after, if_neg (Nat.lt_irrefl _)]
    exact h
  | written =>
    obtain ⟨name, free, rfl, -⟩ := moves
    refine ⟨_, .written, h.put ?_ rfl (fun _ => rfl) ?_⟩
    · exact fun n n_free => LandingZone.inboxKey_ne_rejectsKey n_free free
    · exact fun n n_free same => absurd same.symm (LandingZone.processedKey_ne_rejectsKey n_free free)
  | notWritten => exact ⟨v, .notWritten, h⟩
  | copied found =>
    obtain ⟨name, free, rfl, rfl, here, absent⟩ := moves
    obtain ⟨-, content, held, -⟩ := h.reading _ here
    refine ⟨_, .copied held, h.put ?_ rfl ?_ fun _ _ _ => absent⟩
    · exact fun n n_free => LandingZone.inboxKey_ne_processedKey n_free free
    · exact fun unprocessed => absurd rfl (unprocessed name free)
  | notCopied => exact ⟨v, .notCopied, h⟩
  | deleted =>
    obtain ⟨name, free, rfl, here, moved⟩ := moves
    refine ⟨_, .deleted, ?_⟩
    simp only [Inbox.after, Function.update_self, if_true]
    exact h.delete free here moved steady
  | @notDeleted key =>
    obtain ⟨name, free, rfl, here, -⟩ := moves
    refine ⟨v, .notDeleted, ?_⟩
    have there : s.world.objects (zone.inboxKey name) ≠ none := by
      obtain ⟨-, content, held, -⟩ := h.reading _ here
      rw [Option.ne_none_iff_isSome, ← h.present, held]
      rfl
    simp only [Inbox.after, if_neg there]
    exact h
  | uuid4 => exact ⟨v, .uuid4, h⟩
  | producer step =>
    rw [← h.kafka] at step
    refine ⟨_, .producer step, ?_⟩
    exact { h with kafka := rfl }

/-- A run begins: what was uploaded under the name of the last one's file is seen now. -/
theorem Tracks.restart (h : Tracks zone s v) (written : List (Outgoing Origin)) :
    Tracks zone
      { s with world := { s.world with ingesting := none, kafka := s.world.kafka.restarted written } }
      { v with
        objects := fun key => if v.ingesting = some key then s.world.objects key else v.objects key
        ingesting := none
        kafka := v.kafka.restarted written } where
  ingesting := rfl
  opened := h.opened
  kafka := by rw [h.kafka]
  present key := by
    by_cases here : v.ingesting = some key
    · exact congrArg Option.isSome (if_pos here)
    · exact (congrArg Option.isSome (if_neg here)).trans (h.present key)
  same key _ unprocessed := by
    by_cases here : v.ingesting = some key
    · exact if_pos here
    · exact (if_neg here).trans (h.same key here unprocessed)
  reading := nofun
  inbox := h.inbox
  standing := h.standing
  deleted u member gone := by
    obtain ⟨name, free, is_inbox, read, held⟩ := h.deleted u member gone
    refine ⟨name, free, is_inbox, read, (if_neg ?_).trans held⟩
    intro here
    obtain ⟨⟨n, n_free, same⟩, -⟩ := h.reading _ here
    exact LandingZone.inboxKey_ne_processedKey n_free free same.symm

theorem Tracks.begins (h : Tracks zone s v) {written : List (Outgoing Origin)}
    (uploads : Uploads zone
      { s with world := { s.world with ingesting := none, kafka := s.world.kafka.restarted written } } t) :
    ∃ u, Uploaded zone { v with ingesting := none, kafka := v.kafka.restarted written } u ∧ Tracks zone t u := by
  obtain ⟨u, uploaded, tracks⟩ := (h.restart written).uploads uploads
  have shown : Uploaded zone { v with ingesting := none, kafka := v.kafka.restarted written }
      { v with
        objects := fun key => if v.ingesting = some key then s.world.objects key else v.objects key
        ingesting := none
        kafka := v.kafka.restarted written } := by
    refine ⟨?_, rfl, rfl, rfl⟩
    intro key
    by_cases here : v.ingesting = some key
    · obtain ⟨⟨name, free, rfl⟩, -⟩ := h.reading key here
      exact .inl ⟨name, free, rfl, nofun⟩
    · exact .inr (if_neg here)
  exact ⟨u, shown.trans uploaded, tracks⟩

theorem tracks_start (idle : s.world.ingesting = none) (uploads : s.uploads = []) :
    Tracks zone s s.world where
  ingesting := rfl
  opened := rfl
  kafka := rfl
  present _ := rfl
  same _ _ _ := rfl
  reading key here := by rw [idle] at here; cases here
  inbox := by rw [uploads]; exact nofun
  standing := by rw [uploads]; exact nofun
  deleted := by rw [uploads]; exact nofun

/-- The steady runs are runs of the ingestion. -/
theorem simulates_steadyLanding : (ingestion lib avro zone settings).Simulates
    (steadyLanding lib avro zone settings) (fun _ o v => Guard lib avro zone o v ∧ Moves zone o v)
    (Tracks zone) where
  program := rfl
  init s start := ⟨s.world, start.1, tracks_start start.2.1 start.2.2.1⟩
  begins _ s v s₀ h begins := by
    obtain ⟨written, may, uploads⟩ := begins
    obtain ⟨u, uploaded, tracks⟩ := h.begins uploads
    exact ⟨u, ⟨written, by rw [h.kafka]; exact may, uploaded⟩, tracks⟩
  guard k v o next t reachable session :=
    ⟨Prog.Always.guard_of_run (session_spec reachable session) .refl, session_moves session⟩
  step k o s v a t h guard performed := by
    obtain ⟨⟨w, answered, uploads⟩, steady⟩ := performed
    obtain ⟨u, answered', tracks⟩ := h.call guard.1 guard.2 steady answered
    obtain ⟨u', uploaded, tracks⟩ := tracks.uploads uploads
    exact ⟨u', ⟨u, answered', uploaded⟩, tracks⟩

/-- **No upload is lost.** Where every object a run deletes is the one it opened, every upload
that no later one took the place of is in the inbox still, or was read and each of its data
rows sent or rejected. -/
theorem no_upload_lost (lib : Library) (avro : UnsubscribeEvent → Bytes) (zone : LandingZone)
    (settings : ProducerSettings) {s : Inbox} (h : (steadyLanding lib avro zone settings).Reachable s) :
    ∀ u ∈ s.uploads, u.fate ≠ .overwritten →
      s.world.objects u.key = some u.content ∨ Ingested lib zone s u := by
  obtain ⟨v, reachable, tracks⟩ := simulates_steadyLanding.reachable h
  intro u member kept
  cases fate : u.fate with
  | standing => exact .inl (tracks.standing u member fate)
  | overwritten => exact absurd fate kept
  | deleted =>
    obtain ⟨name, free, is_inbox, read, held⟩ := tracks.deleted u member fate
    have accounted := (reachable_inv reachable).accounted name u.content free held
    have rejects : s.world.objects (zone.rejectsKey name) = v.objects (zone.rejectsKey name) := by
      apply (tracks.same _ ?_ ?_).symm
      · intro here
        obtain ⟨⟨n, n_free, same⟩, -⟩ := tracks.reading _ here
        exact LandingZone.inboxKey_ne_rejectsKey n_free free same.symm
      · exact fun n n_free same => LandingZone.processedKey_ne_rejectsKey n_free free same.symm
    exact .inr ⟨name, free, is_inbox, read, accounted.keep (by rw [tracks.kafka]; exact fun _ h => h) rejects⟩

end

/-! ## A file and its revision -/

/-- A revision of the file of the demo. -/
def demoRevision : Bytes :=
  encode "user_id,writer_id,requested_at\r\nreader-3,writer-1,2026-01-01T00:00:00+00:00\r\n"

/-- The library functions on the texts of both. -/
def revisedLibrary : Library where
  fromisoformat := demoLibrary.fromisoformat
  repr := demoLibrary.repr
  csvReader content :=
    if content = demoRevision then
      { rows :=
          [["user_id", "writer_id", "requested_at"], ["reader-3", "writer-1", "2026-01-01T00:00:00+00:00"]]
        ending := none }
    else demoLibrary.csvReader content

/-- Before any run. -/
def demoEmpty : Inbox where
  world := { objects := fun _ => none, ingesting := none, opened := fun _ => 0, kafka := .fresh }
  uploads := []
  reads := []

/-- The start of the first run, with the file uploaded. -/
def demoBegun : Inbox :=
  Inbox.upload { demoEmpty with world := { demoEmpty.world with kafka := demoEmpty.world.kafka.restarted [] } }
    (LandingZone.defaults.inboxKey "batch.csv") demoContent

/-- A bucket that works, where files are deleted only as they were opened. -/
def steadyCalls : (o : Op) → Inbox → Option (Ans o × Inbox)
  | .deleteObject key, s =>
    if s.world.objects key = s.reads.lookup key then
      some ((demoCalls (.deleteObject key) s.world).1,
        s.after (demoCalls (.deleteObject key) s.world).2 (.deleteObject key))
    else none
  | o, s => some ((demoCalls o s.world).1, s.after (demoCalls o s.world).2 o)

/-- A bucket that works, where the revision is uploaded after the file was opened. -/
def revisedCalls : (o : Op) → Inbox → Option (Ans o × Inbox)
  | .openStream key, s =>
    if s.world.objects key = some demoRevision then none
    else
      some ((demoCalls (.openStream key) s.world).1,
        (s.after (demoCalls (.openStream key) s.world).2 (.openStream key)).upload
          (LandingZone.defaults.inboxKey "batch.csv") demoRevision)
  | o, s => some ((demoCalls o s.world).1, s.after (demoCalls o s.world).2 o)

def demoProgram (lib : Library) : LegalM Report := main lib .defaults demoSettings 1

def demoKept : Inbox := (Prog.play steadyCalls 40 (demoProgram demoLibrary, demoBegun)).2

def demoLost : Inbox := (Prog.play revisedCalls 40 (demoProgram revisedLibrary, demoBegun)).2

theorem Answer.of_reader {lib lib' : Library} {avro : UnsubscribeEvent → Bytes} {o : Op}
    {s w : World} {a : Ans o}
    (h : Answer lib avro o s a w) (same : ∀ key content, o = .openStream key → s.objects key = some content →
      lib'.csvReader content = lib.csvReader content) : Answer lib' avro o s a w := by
  cases h with
  | listed lists => exact .listed lists
  | notListed => exact .notListed
  | opened found yields => exact .opened found (by rw [same _ _ rfl found]; exact yields)
  | notOpened => exact .notOpened
  | written => exact .written
  | notWritten => exact .notWritten
  | copied found => exact .copied found
  | notCopied => exact .notCopied
  | deleted => exact .deleted
  | notDeleted => exact .notDeleted
  | uuid4 => exact .uuid4
  | producer step => exact .producer step

theorem Inbox.after_world (s : Inbox) (w : World) (o : Op) : (s.after w o).world = w := by
  unfold Inbox.after
  split
  · split <;> rfl
  · split <;> rfl
  · rfl

theorem steadyCalls_sound (o : Op) (s : Inbox) (a : Ans o) (t : Inbox) (h : DemoInv s.world)
    (answered : steadyCalls o s = some (a, t)) :
    (steadyLanding demoLibrary (toBytes 1) .defaults demoSettings).exec 1 o s a t ∧ DemoInv t.world := by
  obtain ⟨answer, kept⟩ := demoCalls_answer o s.world h
  unfold steadyCalls at answered
  split at answered
  · split at answered
    · rename_i opened
      obtain ⟨rfl, rfl⟩ := Prod.mk.inj (Option.some.inj answered)
      rw [Inbox.after_world]
      exact ⟨⟨⟨_, answer, .none⟩, opened⟩, kept⟩
    · cases answered
  · rename_i other
    obtain ⟨rfl, rfl⟩ := Prod.mk.inj (Option.some.inj answered)
    rw [Inbox.after_world]
    refine ⟨⟨⟨_, answer, .none⟩, ?_⟩, kept⟩
    cases o with
    | deleteObject key => exact (other key rfl).elim
    | _ => trivial

theorem revisedCalls_sound (o : Op) (s : Inbox) (a : Ans o) (t : Inbox) (h : DemoInv s.world)
    (answered : revisedCalls o s = some (a, t)) :
    (landing revisedLibrary (toBytes 1) .defaults demoSettings).exec 1 o s a t ∧ DemoInv t.world := by
  obtain ⟨answer, kept⟩ := demoCalls_answer o s.world h
  have file : SlashFree "batch.csv" := by decide
  unfold revisedCalls at answered
  split at answered
  · split at answered
    · cases answered
    · rename_i original
      obtain ⟨rfl, rfl⟩ := Prod.mk.inj (Option.some.inj answered)
      refine ⟨⟨_, answer.of_reader ?_, .more .none file⟩, ?_⟩
      · intro key content same found
        obtain rfl := Op.openStream.inj same
        refine if_neg ?_
        rintro rfl
        exact original found
      · unfold Inbox.upload
        rw [Inbox.after_world]
        exact kept.update (by decide) _
  · rename_i other
    obtain ⟨rfl, rfl⟩ := Prod.mk.inj (Option.some.inj answered)
    rw [Inbox.after_world]
    refine ⟨⟨_, answer.of_reader ?_, .none⟩, kept⟩
    intro key content same
    exact (other key same).elim

theorem demoBegun_inv : DemoInv demoBegun.world where
  keys key found := by
    by_cases same : key = LandingZone.defaults.inboxKey "batch.csv"
    · subst same
      decide
    · rw [demoBegun, Inbox.upload_of_ne same] at found
      cases found
  queued := List.Subperm.refl _

theorem no_upload_lost_demo :
    demoKept.world.objects "legal_inbox/batch.csv" = none ∧
      ∃ u ∈ demoKept.uploads, u.content = demoContent ∧ Ingested demoLibrary .defaults demoKept u := by
  have file : SlashFree "batch.csv" := by decide
  have start : (steadyLanding demoLibrary (toBytes 1) .defaults demoSettings).Reachable demoEmpty :=
    .init ⟨⟨fun _ _ => rfl, rfl, rfl⟩, rfl, rfl, rfl⟩
  have begins : (steadyLanding demoLibrary (toBytes 1) .defaults demoSettings).begins 1 demoEmpty demoBegun :=
    ⟨[], List.Subperm.refl _, .more .none file⟩
  have reachable : (steadyLanding demoLibrary (toBytes 1) .defaults demoSettings).Reachable demoKept :=
    start.play_keeps begins steadyCalls_sound demoBegun_inv 40
  obtain ⟨gone, uploaded⟩ : demoKept.world.objects "legal_inbox/batch.csv" = none ∧
      ⟨"legal_inbox/batch.csv", demoContent, .deleted⟩ ∈ demoKept.uploads := by decide +kernel
  refine ⟨gone, _, uploaded, rfl, ?_⟩
  obtain present | ingested :=
    no_upload_lost demoLibrary (toBytes 1) .defaults demoSettings reachable _ uploaded (by decide)
  · rw [gone] at present
    cases present
  · exact ingested

/-- **An upload is lost.** The revision takes the place of the file that was opened, and is
moved in its stead: it is not in the inbox, was never read, and nothing was sent for its row. -/
theorem revision_lost :
    ∃ s u, (landing revisedLibrary (toBytes 1) .defaults demoSettings).Reachable s ∧ u ∈ s.uploads ∧
      u.content = demoRevision ∧ u.fate ≠ .overwritten ∧
      ¬ (s.world.objects u.key = some u.content ∨ Ingested revisedLibrary .defaults s u) ∧
      ∀ m ∈ s.world.kafka.produced, m.tag.event.userId ≠ "reader-3" := by
  have file : SlashFree "batch.csv" := by decide
  have start : (landing revisedLibrary (toBytes 1) .defaults demoSettings).Reachable demoEmpty :=
    .init ⟨⟨fun _ _ => rfl, rfl, rfl⟩, rfl, rfl, rfl⟩
  have begins : (landing revisedLibrary (toBytes 1) .defaults demoSettings).begins 1 demoEmpty demoBegun :=
    ⟨[], List.Subperm.refl _, .more .none file⟩
  have reachable : (landing revisedLibrary (toBytes 1) .defaults demoSettings).Reachable demoLost :=
    start.play_keeps begins revisedCalls_sound demoBegun_inv 40
  obtain ⟨uploaded, gone, unread, unsent⟩ :
      ⟨"legal_inbox/batch.csv", demoRevision, .deleted⟩ ∈ demoLost.uploads ∧
        demoLost.world.objects "legal_inbox/batch.csv" = none ∧
        ("legal_inbox/batch.csv", demoRevision) ∉ demoLost.reads ∧
        ∀ m ∈ demoLost.world.kafka.produced, m.tag.event.userId ≠ "reader-3" := by decide +kernel
  refine ⟨demoLost, _, reachable, uploaded, rfl, by decide, ?_, unsent⟩
  rintro (present | ⟨name, -, -, read, -⟩)
  · rw [gone] at present
    cases present
  · exact unread read

end Tikblog.Legal
