import Mathlib.Data.List.Lattice
import Tikblog.Contracts.Avro
import Tikblog.Program.Interleaving
import Tikblog.Program.Interpret
import Tikblog.EventProducers.Main

/-!
# The generator of the demo events

`EventGenerator.next_batch` over the random numbers, `uuid4` and the clock, and the processes
that `main` makes with it, any number of them at the same time; a process that was killed and
the one that takes its place are two of them. An event id names one event of one process: a
technical duplicate is its event again, and a meaningless event, made of one that is not sent,
has an id of its own (`generated_ids`). Log records are left out.
-/

namespace Tikblog.EventProducers

open Python Contracts Kafka Program

/-- The settings the generator reads, with what `Settings` checks of the role and the pools. -/
structure GeneratorSettings where
  role : UnsubscribeSource
  userPoolSize : Nat
  writerPoolSize : Nat
  technicalDuplicateProbability : ℚ
  meaninglessEventProbability : ℚ
  garbageBytesProbability : ℚ
  notLegal : role ≠ .legal
  users : 0 < userPoolSize
  writers : 0 < writerPoolSize

/-- The calls on `random.Random`, `uuid4` and the clock. -/
inductive GeneratorOp where
  | choice (n : Nat)
  | random
  | randrange (n : Nat)
  | randbytes (n : Nat)
  | uuid4
  | now

abbrev GeneratorAns : GeneratorOp → Type
  | .choice n => Fin n
  | .random => ℚ
  | .randrange n => Fin n
  | .randbytes _ => Bytes
  | .uuid4 => String
  | .now => Int

inductive ProcessOp where
  | main (o : Op)
  | generator (o : GeneratorOp)

abbrev ProcessAns : ProcessOp → Type
  | .main o => Ans o
  | .generator o => GeneratorAns o

abbrev ProcessM := Prog ProcessOp ProcessAns PyException

abbrev draw (o : GeneratorOp) : ProcessM (GeneratorAns o) := Prog.perform (ProcessOp.generator o)

section Code

variable (settings : GeneratorSettings)

def users : List String := (List.range settings.userPoolSize).map fun number => "user-" ++ zeroPad 4 number

def writers : List String := (List.range settings.writerPoolSize).map fun number => "writer-" ++ zeroPad 3 number

def csAgents : List String := (List.range 3).map fun number => "agent-" ++ zeroPad 2 number

/-- `FUTURE_SHIFT`, in microseconds. -/
def futureShift : Int := 365 * microsPerDay

/-- `MEANINGLESS_FLAVOURS`. -/
inductive Flavour where
  | emptyUserId
  | requestedAtInFuture
  | unknownWriterId
  deriving DecidableEq, Repr

def meaninglessFlavours : List Flavour := [.emptyUserId, .requestedAtInFuture, .unknownWriterId]

/-- `random.choice`. -/
def choose {α : Type} (xs : List α) : ProcessM α := do
  return xs.get (← draw (.choice xs.length))

/-- `_happens`: nothing is drawn for an option that is off. -/
def happens (probability : ℚ) : ProcessM Bool :=
  if probability > 0 then do
    return decide ((← draw .random) < probability)
  else
    return false

def makeEvent (userId writerId : String) (source : UnsubscribeSource) : ProcessM UnsubscribeEvent := do
  let eventId ← draw .uuid4
  let wall ← draw .now
  let requestId ← draw .uuid4
  let csAgentId ← (if source = .customerSuccess then some <$> choose csAgents else pure none : ProcessM _)
  Prog.ofExcept (UnsubscribeEvent.new eventId userId writerId source ⟨wall, some 0⟩ requestId csAgentId none)

/-- `event.requested_at + shift`, the time zone being kept. -/
def shifted (event : UnsubscribeEvent) (shift : Int) : UnsubscribeEvent :=
  { event with
    requestedAt := ⟨event.requestedAt.wall + shift, event.requestedAt.utcoffset⟩
    aware := event.aware }

def makeMeaninglessEvent (userId writerId : String) : ProcessM UnsubscribeEvent := do
  let event ← makeEvent userId writerId settings.role
  match ← choose meaninglessFlavours with
  | .emptyUserId => return { event with userId := "" }
  | .requestedAtInFuture => return shifted event futureShift
  | .unknownWriterId =>
    return { event with writerId := "writer-outside-pool-" ++ toString (← draw (.randrange 1000)).val }

def makeGarbage : ProcessM Bytes := do
  return encode "not-avro:" ++ (← draw (.randbytes 16))

/-- What `if self._happens(probability)` adds. -/
def optionally {α : Type} (probability : ℚ) (more : ProcessM α) : ProcessM (List α) := do
  if ← happens probability then
    return [← more]
  else
    return []

def nextBatch : ProcessM GeneratedBatch := do
  let userId ← choose (users settings)
  let writerId ← choose (writers settings)
  let event ← makeEvent userId writerId settings.role
  let duplicates ← optionally settings.technicalDuplicateProbability (pure event)
  let meaningless ← optionally settings.meaninglessEventProbability (makeMeaninglessEvent settings userId writerId)
  let garbage ← optionally settings.garbageBytesProbability makeGarbage
  return ⟨[event] ++ duplicates ++ meaningless, garbage⟩

/-- A call of `main`: the generator is a part of the process. -/
def processCall : (o : Op) → ProcessM (Ans o)
  | .nextBatch => nextBatch settings
  | o => Prog.perform (ProcessOp.main o)

/-- `main` with its generator. -/
def process (producers : Settings) (rounds passes : Nat) : ProcessM Nat :=
  (main producers rounds passes).interpret (processCall settings)

end Code

/-! ## The processes -/

/-- The producer of each process, and the ids that were ever drawn, each with the process
that drew it. -/
structure Processes (ι : Type) where
  ledger : ι → Ledger Unit
  drawn : List (ι × String)

/-- What a process is started with. -/
structure Start where
  generator : GeneratorSettings
  producers : Settings
  rounds : Nat
  passes : Nat

section System

variable {ι : Type} [DecidableEq ι]

def Processes.fresh : Processes ι := ⟨fun _ => .fresh, []⟩

def Processes.put (s : Processes ι) (i : ι) (ledger : Ledger Unit) : Processes ι :=
  { s with ledger := Function.update s.ledger i ledger }

def Processes.draws (s : Processes ι) (i : ι) (id : String) : Processes ι :=
  { s with drawn := s.drawn ++ [(i, id)] }

theorem Processes.put_self (s : Processes ι) (i : ι) (ledger : Ledger Unit) : (s.put i ledger).ledger i = ledger :=
  Function.update_self ..

theorem Processes.put_ledger (s : Processes ι) (i : ι) : s.put i (s.ledger i) = s := by
  rw [Processes.put, Function.update_eq_self]

/-- The calls of the process `i`. `uuid4` does not repeat what was drawn, by whatever process. -/
inductive ProcessExec (avro : UnsubscribeEvent → Bytes) (i : ι) :
    Program.Exec ProcessOp ProcessAns (Processes ι) where
  | main {o s a ledger} : Exec avro o (s.ledger i) a ledger → ProcessExec avro i (.main o) s a (s.put i ledger)
  | choice {n s} {k : Fin n} : ProcessExec avro i (.generator (.choice n)) s k s
  | random {s x} : 0 ≤ x → x < 1 → ProcessExec avro i (.generator .random) s x s
  | randrange {n s} {k : Fin n} : ProcessExec avro i (.generator (.randrange n)) s k s
  | randbytes {n s noise} : noise.length = n → ProcessExec avro i (.generator (.randbytes n)) s noise s
  | uuid4 {s id} : (∀ j, (j, id) ∉ s.drawn) → ProcessExec avro i (.generator .uuid4) s id (s.draws i id)
  | now {s wall} : ProcessExec avro i (.generator .now) s wall s

/-- Processes that run at the same time. -/
def traffic (avro : UnsubscribeEvent → Bytes) (start : ι → Start) :
    Interleaving ι ProcessOp ProcessAns PyException Nat (Processes ι) where
  init s := s = .fresh
  program i := process (start i).generator (start i).producers (start i).rounds (start i).passes
  exec := ProcessExec avro

/-- An id was drawn by one process. -/
def Owned (s : Processes ι) : Prop := ∀ i j id, (i, id) ∈ s.drawn → (j, id) ∈ s.drawn → i = j

/-- What the others, and the generator of `i`, do to what `i` knows. -/
structure Apart (i : ι) (s t : Processes ι) : Prop where
  drawn : s.drawn ⊆ t.drawn
  ledger : t.ledger i = s.ledger i

/-- The calls of `i`, the others having moved on before each. -/
abbrev Amid (avro : UnsubscribeEvent → Bytes) (i : ι) : Program.Exec ProcessOp ProcessAns (Processes ι) :=
  meanwhile Owned (Apart i) (ProcessExec avro i)

end System

/-! ## One batch -/

/-- Bytes that `_make_garbage` makes. -/
def IsGarbage (payload : Bytes) : Prop := ∃ noise : Bytes, noise.length = 16 ∧ payload = encode "not-avro:" ++ noise

section Batch

variable {ι : Type} {i : ι} {s t u : Processes ι}

/-- `i` drew the id between the two states. -/
def New (i : ι) (s t : Processes ι) (id : String) : Prop := (i, id) ∈ t.drawn ∧ ∀ j, (j, id) ∉ s.drawn

/-- What `next_batch` returns: its events have new ids, and equal ones only for the same event. -/
structure Generated (settings : GeneratorSettings) (i : ι) (s : Processes ι) (batch : GeneratedBatch)
    (t : Processes ι) : Prop where
  new : ∀ e ∈ batch.events, New i s t e.eventId
  source : ∀ e ∈ batch.events, e.source = settings.role
  named : ∀ e ∈ batch.events, ∀ e' ∈ batch.events, e.eventId = e'.eventId → e = e'
  garbage : ∀ payload ∈ batch.garbage, IsGarbage payload

theorem Apart.refl (i : ι) (s : Processes ι) : Apart i s s := ⟨List.Subset.refl _, rfl⟩

theorem Apart.trans (first : Apart i s t) (second : Apart i t u) : Apart i s u :=
  ⟨List.Subset.trans first.drawn second.drawn, second.ledger.trans first.ledger⟩

theorem New.later {id : String} (new : New i s t id) (apart : Apart i t u) : New i s u id :=
  ⟨apart.drawn new.1, new.2⟩

theorem New.since {id : String} (new : New i t u id) (apart : Apart i s t) : New i s u id :=
  ⟨new.1, fun j old => new.2 j (apart.drawn old)⟩

/-- What was there before is not new. -/
theorem New.ne {id id' : String} (new : New i s t id) (new' : New i t u id') : id ≠ id' :=
  fun same => new'.2 i (same ▸ new.1)

variable [DecidableEq ι] {avro : UnsubscribeEvent → Bytes} {settings : GeneratorSettings} {userId writerId : String}
  {α : Type}

/-- A program of the generator leaves the producer alone, and returns what `P` says. -/
abbrev Draws (avro : UnsubscribeEvent → Bytes) (i : ι) (s : Processes ι) (P : α → Processes ι → Prop)
    (p : ProcessM α) : Prop :=
  Prog.Always (Amid avro i) (fun _ t => Apart i s t) (fun r t => Apart i s t ∧ ∃ a, r = .ok a ∧ P a t) p s

/-- Sequencing. -/
theorem Draws.bind {β : Type} {P : α → Processes ι → Prop} {P' : β → Processes ι → Prop} {p : ProcessM α}
    {f : α → ProcessM β} (first : Draws avro i s P p)
    (next : ∀ a t, Apart i s t → P a t → Draws avro i t P' (f a)) : Draws avro i s P' (p.bind f) := by
  apply Prog.Always.seq first
  rintro r t ⟨before, a, rfl, holds⟩
  refine (next a t before holds).mono (fun _ u after => before.trans after) ?_
  rintro r u ⟨after, result⟩
  exact ⟨before.trans after, result⟩

theorem Draws.pure {P : α → Processes ι → Prop} {a : α} (holds : P a s) : Draws avro i s P (Pure.pure a) :=
  ⟨.refl i s, a, rfl, holds⟩

theorem draws_op {o : GeneratorOp} {P : GeneratorAns o → Processes ι → Prop}
    (step : ∀ s' a t, Apart i s s' → ProcessExec avro i (.generator o) s' a t → Apart i s' t ∧ P a t) :
    Draws avro i s P (draw o) := by
  refine ⟨.refl i s, fun a t performed => ?_⟩
  obtain ⟨s', -, before, performed⟩ := performed
  obtain ⟨after, holds⟩ := step s' a t before performed
  exact ⟨before.trans after, a, rfl, holds⟩

/-- Only `uuid4` draws an id. -/
theorem draws_quiet {o : GeneratorOp} (quiet : o ≠ .uuid4) : Draws avro i s (fun _ _ => True) (draw o) := by
  refine draws_op fun s' a t _ step => ?_
  cases step with
  | uuid4 => exact absurd rfl quiet
  | _ => exact ⟨.refl i s', trivial⟩

theorem draws_uuid4 : Draws avro i s (fun id t => New i s t id) (draw .uuid4) := by
  refine draws_op fun s' id t before step => ?_
  cases step with
  | uuid4 new =>
    refine ⟨⟨List.subset_append_left _ _, rfl⟩, ?_, fun j old => new j (before.drawn old)⟩
    exact List.mem_append_right _ (List.mem_singleton_self _)

theorem draws_choose (xs : List α) : Draws avro i s (fun _ _ => True) (choose xs) :=
  Draws.bind (draws_quiet (o := .choice xs.length) nofun) fun _ _ _ _ => Draws.pure trivial

theorem draws_happens (probability : ℚ) : Draws avro i s (fun _ _ => True) (happens probability) := by
  unfold happens
  split
  · exact Draws.bind (draws_quiet (o := .random) nofun) fun _ _ _ _ => Draws.pure trivial
  · exact Draws.pure trivial

/-- The id of an event is drawn before that of the request. -/
theorem draws_makeEvent (source : UnsubscribeSource) :
    Draws avro i s (fun e t => New i s t e.eventId ∧ e.source = source) (makeEvent userId writerId source) := by
  apply Draws.bind draws_uuid4
  intro eventId t _ new
  apply Draws.bind (draws_quiet (o := .now) nofun)
  intro wall u clock _
  apply Draws.bind draws_uuid4
  intro requestId v request _
  have agent : Draws avro i v (fun _ _ => True)
      (if source = .customerSuccess then some <$> choose csAgents else pure none : ProcessM _) := by
    split
    · exact Draws.bind (draws_choose csAgents) fun _ _ _ _ => Draws.pure trivial
    · exact Draws.pure trivial
  apply Draws.bind agent
  intro csAgentId w last _
  exact ⟨.refl i w, _, rfl, new.later ((clock.trans request).trans last), rfl⟩

/-- Each flavour changes another field of the event, and none of them its id. -/
theorem draws_makeMeaninglessEvent :
    Draws avro i s (fun e t => New i s t e.eventId ∧ e.source = settings.role)
      (makeMeaninglessEvent settings userId writerId) := by
  apply Draws.bind (draws_makeEvent settings.role)
  rintro event t - ⟨new, source⟩
  apply Draws.bind (draws_choose meaninglessFlavours)
  intro flavour u chosen _
  cases flavour with
  | emptyUserId => exact Draws.pure ⟨new.later chosen, source⟩
  | requestedAtInFuture => exact Draws.pure ⟨new.later chosen, source⟩
  | unknownWriterId =>
    apply Draws.bind (draws_quiet (o := .randrange 1000) nofun)
    intro number v last _
    exact Draws.pure ⟨new.later (chosen.trans last), source⟩

theorem draws_makeGarbage : Draws avro i s (fun payload _ => IsGarbage payload) makeGarbage := by
  have noise : Draws avro i s (fun noise _ => noise.length = 16) (draw (.randbytes 16)) := by
    refine draws_op fun s' noise t _ step => ?_
    cases step with
    | randbytes length => exact ⟨.refl i s', length⟩
  apply Draws.bind noise
  intro noise t _ length
  exact Draws.pure ⟨noise, length, rfl⟩

/-- What is added is one result at most. -/
theorem draws_optionally {P : α → Processes ι → Prop} {more : ProcessM α} (probability : ℚ)
    (draws : ∀ t, Apart i s t → Draws avro i t P more) :
    Draws avro i s (fun added t => added = [] ∨ ∃ a, added = [a] ∧ P a t) (optionally probability more) := by
  apply Draws.bind (draws_happens probability)
  intro chosen t before _
  cases chosen with
  | false => exact Draws.pure (.inl rfl)
  | true =>
    apply Draws.bind (draws t before)
    intro a u _ holds
    exact Draws.pure (.inr ⟨a, rfl, holds⟩)

theorem draws_nextBatch (settings : GeneratorSettings) :
    Draws avro i s (Generated settings i s) (nextBatch settings) := by
  apply Draws.bind (draws_choose (users settings))
  intro userId s₁ reader _
  apply Draws.bind (draws_choose (writers settings))
  intro writerId s₂ writer _
  have begun := reader.trans writer
  apply Draws.bind (draws_makeEvent settings.role)
  rintro event s₃ made ⟨new, source⟩
  apply Draws.bind (draws_optionally (P := fun e _ => e = event) settings.technicalDuplicateProbability
    fun _ _ => Draws.pure rfl)
  intro duplicates s₄ again duplicate
  apply Draws.bind (draws_optionally (P := fun e t => New i s₄ t e.eventId ∧ e.source = settings.role)
    settings.meaninglessEventProbability fun t before => draws_makeMeaninglessEvent.mono (fun _ _ apart => apart) ?_)
  swap
  · rintro r u ⟨apart, e, rfl, new, source⟩
    exact ⟨apart, e, rfl, new.since before, source⟩
  intro meaningless s₅ third bad
  apply Draws.bind (draws_optionally settings.garbageBytesProbability fun _ _ => draws_makeGarbage)
  intro garbage s₆ last noise
  have same : ∀ e ∈ [event] ++ duplicates, e = event := by
    intro e member
    obtain first | second := List.mem_append.1 member
    · exact List.mem_singleton.1 first
    · obtain rfl | ⟨copy, rfl, rfl⟩ := duplicate
      · cases second
      · exact List.mem_singleton.1 second
  have other : ∀ e ∈ meaningless, New i s₄ s₅ e.eventId ∧ e.source = settings.role := by
    intro e member
    obtain rfl | ⟨a, rfl, holds⟩ := bad
    · cases member
    · rwa [List.mem_singleton.1 member]
  -- the id of the meaningless event is drawn after that of the event
  have apart : ∀ e ∈ [event] ++ duplicates, ∀ e' ∈ meaningless, e.eventId ≠ e'.eventId := by
    intro e member e' member'
    rw [same e member]
    exact (new.later again).ne (other e' member').1
  refine Draws.pure ⟨?_, ?_, ?_, ?_⟩
  · intro e member
    obtain first | second := List.mem_append.1 member
    · rw [same e first]
      exact (new.since begun).later (again.trans (third.trans last))
    · have before : Apart i s s₄ := begun.trans (made.trans again)
      exact ((other e second).1.since before).later last
  · intro e member
    obtain first | second := List.mem_append.1 member
    · rw [same e first]
      exact source
    · exact (other e second).2
  · intro e member e' member' ids
    obtain first | second := List.mem_append.1 member <;> obtain first' | second' := List.mem_append.1 member'
    · rw [same e first, same e' first']
    · exact absurd ids (apart e first e' second')
    · exact absurd ids.symm (apart e' first' e second)
    · obtain rfl | ⟨a, rfl, -⟩ := bad
      · cases second
      · rw [List.mem_singleton.1 second, List.mem_singleton.1 second']
  · intro payload member
    obtain rfl | ⟨a, rfl, holds⟩ := noise
    · cases member
    · rwa [List.mem_singleton.1 member]

end Batch

/-! ## The run of a process -/

/-- A message of one of these events, or garbage. -/
def MadeOf (avro : UnsubscribeEvent → Bytes) (made : List UnsubscribeEvent) (m : Outgoing Unit) : Prop :=
  (∃ e ∈ made, m = eventMessage avro e ()) ∨ ∃ payload, IsGarbage payload ∧ m = ⟨encode "garbage", payload, ()⟩

/-- What `i` has sent: garbage and the messages of events whose ids it drew, each for one event. -/
structure Traced {ι : Type} (avro : UnsubscribeEvent → Bytes) (i : ι) (made : List UnsubscribeEvent)
    (s : Processes ι) : Prop where
  drawn : ∀ e ∈ made, (i, e.eventId) ∈ s.drawn
  source : ∀ e ∈ made, e.source ≠ .legal
  named : ∀ e ∈ made, ∀ e' ∈ made, e.eventId = e'.eventId → e = e'
  produced : ∀ m ∈ (s.ledger i).client.produced, MadeOf avro made m

section Run

variable {ι : Type} [DecidableEq ι] {avro : UnsubscribeEvent → Bytes} {settings : GeneratorSettings} {i : ι}
  {made : List UnsubscribeEvent} {s t : Processes ι} {α : Type}

/-- The calls of `main` of `i`, the others having moved on before each; a batch is what the
generator may return. -/
inductive MainExec (avro : UnsubscribeEvent → Bytes) (settings : GeneratorSettings) (i : ι) :
    Program.Exec Op Ans (Processes ι) where
  | nextBatch {s batch t} : Apart i s t → Generated settings i s batch t → MainExec avro settings i .nextBatch s batch t
  | other {o s t a ledger} : o ≠ .nextBatch → Apart i s t → Exec avro o (t.ledger i) a ledger →
      MainExec avro settings i o s a (t.put i ledger)

theorem MadeOf.grow {m : Outgoing Unit} (h : MadeOf avro made m) (more : List UnsubscribeEvent) :
    MadeOf avro (made ++ more) m := by
  obtain ⟨e, member, rfl⟩ | garbage := h
  · exact .inl ⟨e, List.mem_append_left _ member, rfl⟩
  · exact .inr garbage

omit [DecidableEq ι] in
theorem traced_fresh (i : ι) : Traced avro i [] .fresh where
  drawn _ member := by cases member
  source _ member := by cases member
  named _ member := by cases member
  produced _ member := by cases member

omit [DecidableEq ι] in
theorem Traced.frame (h : Traced avro i made s) (apart : Apart i s t) : Traced avro i made t where
  drawn e member := apart.drawn (h.drawn e member)
  source := h.source
  named := h.named
  produced := by
    rw [apart.ledger]
    exact h.produced

omit [DecidableEq ι] in
/-- A batch brings new ids. -/
theorem Traced.extend (h : Traced avro i made s) {batch : GeneratedBatch} (apart : Apart i s t)
    (generated : Generated settings i s batch t) : Traced avro i (made ++ batch.events) t where
  drawn e member := by
    obtain old | new := List.mem_append.1 member
    · exact apart.drawn (h.drawn e old)
    · exact (generated.new e new).1
  source e member := by
    obtain old | new := List.mem_append.1 member
    · exact h.source e old
    · rw [generated.source e new]
      exact settings.notLegal
  named e member e' member' ids := by
    obtain old | new := List.mem_append.1 member <;> obtain old' | new' := List.mem_append.1 member'
    · exact h.named e old e' old' ids
    · exact absurd (ids ▸ h.drawn e old) ((generated.new e' new').2 i)
    · exact absurd (ids ▸ h.drawn e' old') ((generated.new e new).2 i)
    · exact generated.named e new e' new' ids
  produced m member := ((h.frame apart).produced m member).grow _

/-- One call of the producer. -/
theorem Traced.step (h : Traced avro i made s) {o : ProducerOp Unit} {a : ProducerAns o} {ledger : Ledger Unit}
    (step : LedgerExec avro o (s.ledger i) a ledger) (offered : ∀ m, o = .produce m → MadeOf avro made m) :
    Traced avro i made (s.put i ledger) where
  drawn := h.drawn
  source := h.source
  named := h.named
  produced m member := by
    rw [Processes.put_self] at member
    obtain same | ⟨m', rfl, added⟩ := step.client.produced_eq
    · exact h.produced m (same ▸ member)
    · rw [added] at member
      obtain old | new := List.mem_append.1 member
      · exact h.produced m old
      · rw [List.mem_singleton.1 new]
        exact offered m' rfl

/-- The messages are traced throughout, at the end to these events. -/
abbrev Offers (avro : UnsubscribeEvent → Bytes) (settings : GeneratorSettings) (i : ι) (made : List UnsubscribeEvent)
    (p : ProducersM α) (s : Processes ι) : Prop :=
  Prog.Always (MainExec avro settings i) (fun _ t => ∃ made, Traced avro i made t) (fun _ t => Traced avro i made t) p s

theorem offers_of_uses : ∀ {p : ProducerM Unit α} {s : Processes ι},
    p.Uses (fun o => ∀ m, o = .produce m → MadeOf avro made m) → Traced avro i made s →
      Offers avro settings i made (onProducer p) s
  | .done _, _, _, h => h
  | .op o k, s, uses, h => by
    refine ⟨⟨made, h⟩, fun a t step => ?_⟩
    cases step with
    | other _ apart step =>
      cases step with
      | producer step => exact offers_of_uses (uses.2 a) ((h.frame apart).step step uses.1)

theorem offers_enqueue {producers : ProducerSettings} {rounds : Nat} {m : Outgoing Unit} (offered : MadeOf avro made m)
    (h : Traced avro i made s) : Offers avro settings i made (onProducer (enqueue producers rounds m)) s := by
  refine offers_of_uses ((enqueue_offers producers rounds m).mono fun o only m' produces => ?_) h
  rw [only m' produces]
  exact offered

theorem offers_send {producers : ProducerSettings} {rounds : Nat} {event : UnsubscribeEvent} (member : event ∈ made)
    (h : Traced avro i made s) : Offers avro settings i made (onProducer (send producers rounds event ())) s := by
  refine ⟨⟨made, h⟩, fun a t step => ?_⟩
  cases step with
  | other _ apart step =>
    cases step with
    | producer step =>
      have next := (h.frame apart).step step nofun
      cases step with
      | quiet _ step =>
        cases step with
        | notEncoded => exact next
        | encoded => exact offers_enqueue (.inl ⟨event, member, rfl⟩) next

theorem offers_sendRaw {producers : ProducerSettings} {rounds : Nat} {payload : Bytes} (garbage : IsGarbage payload)
    (h : Traced avro i made s) : Offers avro settings i made (onProducer (sendRaw producers rounds payload ())) s :=
  offers_enqueue (.inr ⟨payload, garbage, rfl⟩) h

/-- The messages are traced throughout. -/
abbrev Traces (avro : UnsubscribeEvent → Bytes) (settings : GeneratorSettings) (i : ι) (p : ProducersM α)
    (s : Processes ι) : Prop :=
  Prog.Always (MainExec avro settings i) (fun _ t => ∃ made, Traced avro i made t)
    (fun _ t => ∃ made, Traced avro i made t) p s

/-- A call that is not one of the producer. -/
theorem traces_quiet {o : Op} {k : Ans o → ProducersM α} (one : o ≠ .nextBatch)
    (quiet : ∀ ledger a ledger', Exec avro o ledger a ledger' → ledger' = ledger) (h : Traced avro i made s)
    (next : ∀ a t, Traced avro i made t → Traces avro settings i (k a) t) : Traces avro settings i (.op o k) s := by
  refine ⟨⟨made, h⟩, fun a t step => ?_⟩
  cases step with
  | nextBatch => exact absurd rfl one
  | other _ apart step =>
    apply next a
    cases quiet _ _ _ step
    rw [Processes.put_ledger]
    exact h.frame apart

theorem produceUntilStopped_traces (producers : Settings) (rounds passes : Nat) (h : Traced avro i made s) :
    Traces avro settings i (produceUntilStopped producers rounds passes) s := by
  induction passes generalizing made s with
  | zero => exact ⟨made, h⟩
  | succ passes ih =>
    refine traces_quiet (o := .stopped) nofun (fun _ _ _ step => by cases step; rfl) h fun flag s h => ?_
    cases flag with
    | true => exact ⟨made, h⟩
    | false =>
      refine ⟨⟨made, h⟩, fun batch t step => ?_⟩
      cases step with
      | other one => exact absurd rfl one
      | nextBatch apart generated =>
        have begun := h.extend apart generated
        apply Prog.Always.seq (Prog.Always.mapEach_of_mem (I := Traced avro i (made ++ batch.events))
          (fun event member t sending => offers_send (List.mem_append_right _ member) sending) begun)
        intro r u sent
        cases r with
        | error e => exact ⟨_, sent⟩
        | ok _ =>
          apply Prog.Always.seq (Prog.Always.mapEach_of_mem (I := Traced avro i (made ++ batch.events))
            (fun payload member t sending => offers_sendRaw (generated.garbage payload member) sending) sent)
          intro r v sent
          cases r with
          | error e => exact ⟨_, sent⟩
          | ok _ =>
            refine traces_quiet (o := .wait _) nofun (fun _ _ _ step => by cases step; rfl) sent ?_
            exact fun _ _ waited => ih waited

theorem main_traces (producers : Settings) (rounds passes : Nat) (h : Traced avro i made s) :
    Traces avro settings i (main producers rounds passes) s := by
  refine Prog.Always.bind (Prog.Always.attempt ?_)
  apply (produceUntilStopped_traces producers rounds passes h).mono (fun _ _ traced => traced)
  rintro produced t ⟨made, h⟩
  refine ⟨⟨made, h⟩, fun stillQueued u step => ?_⟩
  cases step with
  | other _ apart step =>
    cases step with
    | producer step =>
      have next := (h.frame apart).step step nofun
      cases produced with
      | error e => exact ⟨made, next⟩
      | ok _ =>
        refine traces_quiet (o := .failedCount) nofun (fun _ _ _ step => by cases step; rfl) next fun failed v h => ?_
        simp only [Prog.bind_ok]
        split
        · exact ⟨made, h⟩
        · exact ⟨made, h⟩

/-- `next_batch` takes several steps of the system, which only draw ids. -/
theorem processCall_implements (o : Op) (h : ∃ made, Traced avro i made s) :
    Prog.Implements (MainExec avro settings i) (Amid avro i) (fun _ t => ∃ made, Traced avro i made t) o
      (processCall settings o) s := by
  obtain ⟨made, h⟩ := h
  by_cases batch : o = .nextBatch
  · subst batch
    refine Prog.Always.mono (fun _ t apart => ⟨made, h.frame apart⟩) ?_ (draws_nextBatch settings)
    rintro r t ⟨apart, batch, rfl, generated⟩
    exact ⟨batch, rfl, .nextBatch apart generated⟩
  · have one : processCall settings o = Prog.perform (ProcessOp.main o) := by
      cases o with
      | nextBatch => exact absurd rfl batch
      | _ => rfl
    rw [one]
    refine ⟨⟨made, h⟩, fun a t step => ?_⟩
    obtain ⟨u, -, apart, step⟩ := step
    cases step with
    | main step => exact ⟨a, rfl, .other batch apart step⟩

theorem process_traces (producers : Settings) (rounds passes : Nat) (h : Traced avro i made s) :
    Prog.Always (Amid avro i) (fun _ t => ∃ made, Traced avro i made t) (fun _ t => ∃ made, Traced avro i made t)
      (process settings producers rounds passes) s :=
  Prog.Always.interpret (fun o _ traced => processCall_implements o traced) (main_traces producers rounds passes h)

end Run

/-! ## All processes -/

section

variable {ι : Type} [DecidableEq ι] {avro : UnsubscribeEvent → Bytes} {start : ι → Start} {s : Processes ι}
  {threads : ι → ProcessM Nat}

omit [DecidableEq ι] in
theorem owned_draws {i : ι} {id : String} (h : Owned s) (new : ∀ j, (j, id) ∉ s.drawn) : Owned (s.draws i id) := by
  intro j k id' first second
  obtain old | last := List.mem_append.1 first <;> obtain old' | last' := List.mem_append.1 second
  · exact h j k id' old old'
  · cases List.mem_singleton.1 last'
    exact absurd old (new j)
  · cases List.mem_singleton.1 last
    exact absurd old' (new k)
  · cases List.mem_singleton.1 last
    cases List.mem_singleton.1 last'
    rfl

theorem traffic_cooperates (avro : UnsubscribeEvent → Bytes) (start : ι → Start) :
    (traffic avro start).Cooperation Owned Apart (fun i _ t => ∃ made, Traced avro i made t)
      fun i _ t => ∃ made, Traced avro i made t where
  refl := Apart.refl
  trans _ _ _ _ first second := first.trans second
  init _ fresh i j id member := by
    cases fresh
    cases member
  program i s fresh := by
    cases fresh
    exact process_traces _ _ _ (traced_fresh i)
  stable _ _ _ _ traced apart := traced.imp fun _ h => h.frame apart
  keeps i o s a t owned _ step := by
    cases step with
    | uuid4 new => exact owned_draws owned new
    | _ => exact owned
  guarantee i j o s a t other _ _ step := by
    cases step with
    | main step => exact ⟨List.Subset.refl _, Function.update_of_ne other.symm ..⟩
    | uuid4 => exact ⟨List.subset_append_left _ _, rfl⟩
    | _ => exact .refl j s

theorem traced_of_reachable (reached : (traffic avro start).Reachable threads s) (i : ι) :
    ∃ made, Traced avro i made s := by
  obtain ⟨before, since, now⟩ := ((traffic_cooperates avro start).outline reached).2 i
  cases at_i : threads i with
  | done r =>
    rw [at_i] at now
    exact now.imp fun _ h => h.frame since
  | op o k =>
    rw [at_i] at now
    exact now.1.imp fun _ h => h.frame since

end

/-- **Generated ids name events.** Whatever processes run, with whatever settings and in
whatever order of their steps, and wherever they are killed: every message that one of them
ever produced is garbage or that of an event it made, not one of Legal, and two events with
one id are the same event of the same process. -/
theorem generated_ids {ι : Type} [DecidableEq ι] {avro : UnsubscribeEvent → Bytes} {start : ι → Start}
    {threads : ι → ProcessM Nat} {s : Processes ι} (reached : (traffic avro start).Reachable threads s) :
    ∃ made : ι → List UnsubscribeEvent,
      (∀ i, ∀ m ∈ (s.ledger i).client.produced, MadeOf avro (made i) m) ∧
      (∀ i, ∀ e ∈ made i, e.source ≠ .legal) ∧
      ∀ i j, ∀ e ∈ made i, ∀ e' ∈ made j, e.eventId = e'.eventId → e = e' ∧ i = j := by
  choose made traced using traced_of_reachable reached
  refine ⟨made, fun i => (traced i).produced, fun i => (traced i).source, ?_⟩
  intro i j e member e' member' ids
  have owned := (traffic_cooperates avro start).invariant reached
  cases owned i j e.eventId ((traced i).drawn e member) (ids ▸ (traced j).drawn e' member')
  exact ⟨(traced i).named e member e' member' ids, rfl⟩

def demoRole : Bool → UnsubscribeSource
  | true => .ui
  | false => .customerSuccess

theorem demoRole_ne (ui : Bool) : demoRole ui ≠ .legal := by cases ui <;> exact nofun

/-- A producer of each role, which sends every event twice. -/
def demoStart (ui : Bool) : Start where
  generator := ⟨demoRole ui, 1, 1, 1, 0, 0, demoRole_ne ui, Nat.one_pos, Nat.one_pos⟩
  producers := ⟨100, 10, 10⟩
  rounds := 1
  passes := 1

/-- A broker that reports nothing, and ids that count what was drawn. -/
def demoAnswer (i : Bool) : (o : ProcessOp) → Processes Bool → Option (ProcessAns o × Processes Bool)
  | .main .stopped, s => some (false, s)
  | .main (.producer (.toBytes event)), s => some (.ok (toBytes 1 event), s)
  | .main (.producer .monotonic), s => some (0, s)
  | .main (.producer (.produce m)), s => some (.ok (), s.put i ((s.ledger i).enqueue m))
  | .main (.producer (.count c)), s => some ((), s.put i ((s.ledger i).count c))
  | .main (.producer (.poll _)), s =>
    if (s.ledger i).client.topic = [] then
      some ((), s.put i ((s.ledger i).settled [] [] (s.ledger i).client.queue []))
    else none
  | .generator (.choice (_ + 1)), s => some (0, s)
  | .generator .random, s => some (0, s)
  | .generator .uuid4, s =>
    if ∀ drawn ∈ s.drawn, drawn.2 ≠ toString s.drawn.length then
      some (toString s.drawn.length, s.draws i (toString s.drawn.length))
    else none
  | .generator .now, s => some (0, s)
  | _, _ => none

theorem demoAnswer_sound (i : Bool) (o : ProcessOp) (s : Processes Bool) (a : ProcessAns o) (t : Processes Bool)
    (answer : demoAnswer i o s = some (a, t)) : ProcessExec (toBytes 1) i o s a t := by
  have same (o : Op) (a : Ans o) (step : Exec (toBytes 1) o (s.ledger i) a (s.ledger i)) :
      ProcessExec (toBytes 1) i (.main o) s a s := by
    have step := ProcessExec.main (s := s) step
    rwa [Processes.put_ledger] at step
  unfold demoAnswer at answer
  split at answer
  · cases answer
    exact same _ _ .stopped
  · cases answer
    exact same _ _ (.producer (.quiet id .encoded))
  · cases answer
    exact same _ _ (.producer (.quiet id .monotonic))
  · cases answer
    exact .main (.producer (.quiet id .produced))
  · cases answer
    exact .main (.producer (.quiet id .counted))
  · split at answer
    · next empty =>
      cases answer
      refine .main (.producer (.polled ⟨?_, ?_, List.nil_subset _⟩))
      · rw [List.nil_append, List.nil_append]
      · rw [ProducerState.MayWrite, empty]
        exact List.nil_subperm
    · cases answer
  · cases answer
    exact .choice
  · cases answer
    exact .random (le_refl _) one_pos
  · split at answer
    · next new =>
      cases answer
      exact .uuid4 fun j old => new _ old rfl
    · cases answer
  · cases answer
    exact .now
  · cases answer

def demoSchedule : List Bool := (List.replicate 16 [true, false]).flatten

def demoProcesses : Processes Bool :=
  (Interleaving.play demoAnswer demoSchedule ((traffic (toBytes 1) demoStart).program, .fresh)).2

theorem generated_ids_demo :
    (∀ i, (demoProcesses.ledger i).client.produced.length = 2) ∧
      ∃ made : Bool → List UnsubscribeEvent,
        (∀ i, ∀ m ∈ (demoProcesses.ledger i).client.produced, MadeOf (toBytes 1) (made i) m) ∧
        ∀ e ∈ made true, ∀ e' ∈ made false, e.eventId ≠ e'.eventId := by
  have reached : (traffic (toBytes 1) demoStart).Reachable _ demoProcesses :=
    Interleaving.Reachable.play demoAnswer_sound demoSchedule ⟨.fresh, rfl, .refl⟩
  obtain ⟨made, sent, -, named⟩ := generated_ids reached
  refine ⟨by decide +kernel, made, sent, ?_⟩
  intro e member e' member' ids
  cases (named _ _ e member e' member' ids).2

end Tikblog.EventProducers
