import Tikblog.Legal.World

/-!
# Where a run touches the bucket

A run opens a file while it ingests none, writes the rejects of a file that is not processed,
copies the file it has opened into its place among the processed, and deletes what it has
copied. `Moves` says so call by call; a run makes no other call that changes an object.
-/

namespace Tikblog.Legal

open Python Contracts Kafka Program Storage

/-- What a call that opens or changes an object finds. -/
def Moves (zone : LandingZone) : Op → World → Prop
  | .openStream _, s => s.ingesting = none
  | .write key _, s =>
    ∃ name, SlashFree name ∧ key = zone.rejectsKey name ∧ s.objects (zone.processedKey name) = none
  | .copyObject key target, s =>
    ∃ name, SlashFree name ∧ key = zone.inboxKey name ∧ target = zone.processedKey name ∧
      s.ingesting = some key ∧ s.objects target = none
  | .deleteObject key, s =>
    ∃ name, SlashFree name ∧ key = zone.inboxKey name ∧ s.ingesting = some key ∧
      s.objects (zone.processedKey name) = s.objects key
  | _, _ => True

/-- The calls that change no object and open none. -/
def Bystander : Op → Prop
  | .listKeys _ | .uuid4 | .producer _ => True
  | _ => False

/-- The file is opened and not processed. -/
structure Reading (zone : LandingZone) (name : String) (s : World) : Prop where
  ingesting : s.ingesting = some (zone.inboxKey name)
  absent : s.objects (zone.processedKey name) = none

/-- The calls of `p` are moves, and `R` holds of what it returns. -/
abbrev MovesTo (lib : Library) (avro : UnsubscribeEvent → Bytes) (zone : LandingZone) {α : Type}
    (R : α → World → Prop) (p : LegalM α) (s : World) : Prop :=
  Prog.Always (exec lib avro zone) (Moves zone) (fun r t => ∀ a, r = .ok a → R a t) p s

section

variable {lib : Library} {avro : UnsubscribeEvent → Bytes} {zone : LandingZone}
  {settings : ProducerSettings} {s t : World} {name : String} {α β : Type}

theorem moves_of_bystander {o : Op} (h : Bystander o) (s : World) : Moves zone o s := by
  cases o with
  | listKeys | uuid4 | producer => trivial
  | _ => exact h.elim

theorem exec_bystander {o : Op} {a : Ans o} (h : exec lib avro zone o s a t) (bystander : Bystander o) :
    Frame zone s t := by
  cases o with
  | listKeys p => exact (exec_readOnly h trivial).1
  | uuid4 => exact (exec_readOnly h trivial).1
  | producer o => exact (exec_producer o s a t h).2
  | _ => exact bystander.elim

theorem Frame.reading (frame : Frame zone s t) (free : SlashFree name) (h : Reading zone name s) :
    Reading zone name t :=
  ⟨frame.ingesting.trans h.ingesting, (frame.processed free).trans h.absent⟩

theorem Frame.idle (frame : Frame zone s t) (h : s.ingesting = none) : t.ingesting = none :=
  frame.ingesting.trans h

theorem MovesTo.bind {R : α → World → Prop} {S : β → World → Prop} {p : LegalM α} {f : α → LegalM β}
    (h : MovesTo lib avro zone R p s) (next : ∀ a t, R a t → MovesTo lib avro zone S (f a) t) :
    MovesTo lib avro zone S (p.bind f) s := by
  apply Prog.Always.seq h
  intro r t ended
  cases r with
  | error e => exact fun _ returned => by cases returned
  | ok a => exact next a t (ended a rfl)

/-- A part that only stands by, then the rest. -/
theorem MovesTo.by {I : World → Prop} {S : β → World → Prop} {p : LegalM α} {f : α → LegalM β}
    (uses : p.Uses Bystander) (stable : ∀ s t, Frame zone s t → I s → I t) (h : I s)
    (next : ∀ a t, I t → MovesTo lib avro zone S (f a) t) : MovesTo lib avro zone S (p.bind f) s := by
  have kept : Prog.Always (exec lib avro zone) (Moves zone) (fun _ => I) p s := by
    apply Prog.Always.of_uses _ _ uses h
    · exact fun o bystander s a t hs performed => stable s t (exec_bystander performed bystander) hs
    · exact fun o bystander s _ => moves_of_bystander bystander s
  exact MovesTo.bind (kept.mono (fun _ _ guard => guard) fun _ _ ht _ _ => ht) next

/-! ## The rows of a file -/

theorem uses_onProducer (p : ProducerM Origin α) : (onProducer p).Uses Bystander :=
  Prog.Uses.embed (fun _ => trivial) p

theorem uses_ofExcept {P : Op → Prop} (r : Except PyException α) :
    (Prog.ofExcept r : LegalM α).Uses P := trivial

theorem uses_ingestRow (rounds line : Nat) (row : List String) :
    (ingestRow lib settings rounds name line row).Uses Bystander := by
  unfold ingestRow
  apply Prog.Uses.tryCatch
  · apply Prog.Uses.bind
    · unfold buildEvent
      apply (uses_ofExcept _).bind
      rintro ⟨userId, writerId, parsedAt⟩
      exact ⟨trivial, fun _ => ⟨trivial, fun _ => trivial⟩⟩
    · intro event
      exact (uses_onProducer _).bind fun _ => trivial
  · intro error
    cases error <;> exact trivial

theorem uses_ingestRows (rounds : Nat) (rows : List (List String)) (rowsRead : Nat)
    (rejects : List Reject) :
    (ingestRows lib settings rounds name rows rowsRead rejects).Uses Bystander := by
  induction rows generalizing rowsRead rejects with
  | nil => exact trivial
  | cons row rows ih => exact (uses_ingestRow ..).bind fun reject => ih _ _

theorem processBatch_moves (free : SlashFree name) (idle : s.ingesting = none)
    (absent : s.objects (zone.processedKey name) = none) (rounds : Nat) :
    MovesTo lib avro zone (fun _ => Reading zone name) (processBatch lib zone settings rounds name) s := by
  refine ⟨idle, ?_⟩
  rintro answer t ⟨u, answered, uploaded⟩
  cases answered with
  | notOpened => exact fun _ returned => by cases returned
  | opened =>
    have reading : Reading zone name t :=
      ⟨uploaded.ingesting, (uploaded.frame.processed free).trans absent⟩
    apply MovesTo.by (uses_ingestRows ..) (fun _ _ frame => frame.reading free) reading
    intro result u reading
    split
    · exact fun _ returned => by cases returned
    · exact fun _ _ => reading

/-! ## One file -/

theorem writeRejects_moves (free : SlashFree name) (h : Reading zone name s) (rejects : List Reject) :
    MovesTo lib avro zone (fun _ => Reading zone name) (writeRejects zone name rejects) s := by
  refine ⟨⟨name, free, rfl, h.absent⟩, ?_⟩
  rintro answer t ⟨u, answered, uploaded⟩ _ _
  have apart : zone.processedKey name ≠ zone.rejectsKey name :=
    LandingZone.processedKey_ne_rejectsKey free free
  cases answered with
  | notWritten => exact uploaded.frame.reading free h
  | written =>
    apply uploaded.frame.reading free
    exact ⟨h.ingesting, (Function.update_of_ne apart ..).trans h.absent⟩

theorem markProcessed_moves (free : SlashFree name) (h : Reading zone name s) :
    MovesTo lib avro zone (fun _ t => t.ingesting = none) (markProcessed zone name) s := by
  refine ⟨⟨name, free, rfl, rfl, h.ingesting, h.absent⟩, ?_⟩
  rintro answer t ⟨u, answered, uploaded⟩
  cases answer with
  | error e => exact fun _ returned => by cases returned
  | ok _ =>
  cases answered with
  | copied found =>
    have moved : t.objects (zone.processedKey name) = t.objects (zone.inboxKey name) := by
      have apart : zone.inboxKey name ≠ zone.processedKey name :=
        LandingZone.inboxKey_ne_processedKey free free
      rw [uploaded.frame.processed free, uploaded.frame.inbox h.ingesting]
      exact (Function.update_self ..).trans ((Function.update_of_ne apart ..).trans found).symm
    refine ⟨⟨name, free, rfl, uploaded.ingesting.trans h.ingesting, moved⟩, ?_⟩
    rintro answer v ⟨w, answered, uploaded⟩ _ returned
    cases answered with
    | notDeleted => cases returned
    | deleted => exact uploaded.ingesting

theorem ingestBatch_moves (free : SlashFree name) (idle : s.ingesting = none)
    (absent : s.objects (zone.processedKey name) = none) (rounds deliveredBefore : Nat) (report : Report) :
    MovesTo lib avro zone (fun _ t => t.ingesting = none)
      (ingestBatch lib zone settings rounds name deliveredBefore report) s := by
  apply MovesTo.bind (processBatch_moves free idle absent rounds)
  rintro ⟨fileRows, rejects⟩ t reading
  apply MovesTo.by (uses_onProducer _) (fun _ _ frame => frame.reading free) reading
  intro stillQueued t reading
  apply MovesTo.by (uses_onProducer _) (fun _ _ frame => frame.reading free) reading
  intro delivered t reading
  dsimp only
  split
  · exact fun _ returned => by cases returned
  · have finish (u : World) (reading : Reading zone name u) (report : Report) :
        MovesTo lib avro zone (fun _ t => t.ingesting = none)
          ((markProcessed zone name).bind fun _ => pure report) u :=
      MovesTo.bind (markProcessed_moves free reading) fun _ _ idle _ _ => idle
    split
    · exact MovesTo.bind (writeRejects_moves free reading rejects) fun _ u reading => finish u reading _
    · exact finish t reading _

theorem alreadyProcessed_moves (free : SlashFree name) (idle : s.ingesting = none) :
    MovesTo lib avro zone (fun processed t => t.ingesting = none ∧
      (processed = false → t.objects (zone.processedKey name) = none)) (alreadyProcessed zone name) s := by
  refine ⟨trivial, ?_⟩
  rintro answer t performed
  have frame := exec_bystander performed trivial
  obtain ⟨u, answered, uploaded⟩ := performed
  cases answered with
  | notListed => exact fun _ returned => by cases returned
  | @listed _ _ keys lists =>
    intro processed returned
    refine ⟨frame.idle idle, ?_⟩
    rintro rfl
    have unlisted : zone.processedKey name ∉ keys := of_decide_eq_false (Except.ok.inj returned)
    rw [lists.2, not_and, frame.processed free |>.symm] at unlisted
    exact Option.not_isSome_iff_eq_none.1 fun present => unlisted present List.prefix_rfl

theorem ingestFile_moves (free : SlashFree name) (idle : s.ingesting = none) (rounds : Nat)
    (report : Report) :
    MovesTo lib avro zone (fun _ t => t.ingesting = none)
      (ingestFile lib zone settings rounds name report) s := by
  apply MovesTo.bind (alreadyProcessed_moves free idle)
  rintro processed t ⟨idle, absent⟩
  cases processed with
  | true => exact fun _ _ => idle
  | false =>
    apply MovesTo.by (I := fun u => u.ingesting = none ∧ u.objects (zone.processedKey name) = none)
      (uses_onProducer _) _ ⟨idle, absent rfl⟩
    · rintro deliveredBefore t ⟨idle, absent⟩
      apply Prog.Always.tryCatch
      apply (ingestBatch_moves free idle absent rounds deliveredBefore report).mono (fun _ _ guard => guard)
      intro r u ended
      cases r with
      | ok report => exact ended
      | error e => exact ⟨trivial, fun _ _ _ _ returned => by cases returned⟩
    · exact fun _ _ frame h => ⟨frame.idle h.1, (frame.processed free).trans h.2⟩

theorem ingestFiles_moves (rounds : Nat) (names : List String) (free : ∀ name ∈ names, SlashFree name)
    (idle : s.ingesting = none) (report : Report) :
    MovesTo lib avro zone (fun _ t => t.ingesting = none)
      (ingestFiles lib zone settings rounds names report) s := by
  induction names generalizing s report with
  | nil => exact fun _ _ => idle
  | cons name names ih =>
    rw [List.forall_mem_cons] at free
    exact MovesTo.bind (ingestFile_moves free.1 idle rounds report) fun report t idle => ih free.2 idle report

/-- **The moves of a run.** -/
theorem main_moves (idle : s.ingesting = none) (rounds : Nat) :
    MovesTo lib avro zone (fun _ t => t.ingesting = none) (main lib zone settings rounds) s := by
  refine ⟨trivial, ?_⟩
  intro answer t performed
  have idle := (exec_bystander performed trivial).idle idle
  cases answer with
  | error e => exact fun _ returned => by cases returned
  | ok keys =>
    exact ingestFiles_moves rounds _ (fun _ member => LandingZone.slashFree_of_mem_batchNames member) idle _

/-- At every call of every run. -/
theorem session_moves {rounds : Nat} {o : Op} {next : Ans o → LegalM Report}
    (session : (ingestion lib avro zone settings).Session rounds s (.op o next) t) : Moves zone o t := by
  obtain ⟨s₀, ⟨written, -, uploaded⟩, run⟩ := session
  exact (main_moves uploaded.ingesting rounds).guard_of_run run

end

end Tikblog.Legal
