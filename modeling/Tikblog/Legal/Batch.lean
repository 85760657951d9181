import Tikblog.Legal.Accounting

/-!
# One file of a run

`main` takes a file through reading, the acceptance test, the reject file, the copy and the
delete. Each storage step keeps the invariant on its own, also when the call fails after it
took effect: the reject file is written while the file is not processed yet, and the copy
happens only once every row is acknowledged or rejected.
-/

namespace Tikblog.Legal

open Python Contracts Kafka Program Storage

variable {lib : Library} {avro : UnsubscribeEvent → Bytes} {zone : LandingZone}
  {settings : ProducerSettings} {s t : World} {name : String} {content : Bytes} {before : Nat}
  {sent : List (Outgoing Origin)} {rejects : List Reject}

/-- Between two files: nothing is queued. -/
structure Idle (lib : Library) (avro : UnsubscribeEvent → Bytes) (zone : LandingZone) (s : World) : Prop where
  inv : Inv lib avro zone s
  queue : s.kafka.queue = []

theorem Idle.still (h : Idle lib avro zone s) (frame : Frame zone s t) (kafka : t.kafka = s.kafka) :
    Idle lib avro zone t where
  inv := h.inv.still frame (by rw [kafka])
  queue := by rw [kafka]; exact h.queue

theorem Sending.open {u : World} (h : Inv lib avro zone s) (queue : s.kafka.queue = [])
    (absent : s.objects (zone.processedKey name) = none) (free : SlashFree name)
    (found : s.objects (zone.inboxKey name) = some content)
    (uploaded : Uploaded zone { s with
      ingesting := some (zone.inboxKey name)
      opened := Function.update s.opened (zone.inboxKey name) (s.opened (zone.inboxKey name) + 1) } u) :
    Sending lib avro zone name content s.kafka.deliveredCount [] [] [] u := by
  have frame := uploaded.frame
  have kafka := uploaded.kafka
  have counted : ∀ other line, u.sentFor other line = s.sentFor other line := by
    intro other line
    unfold World.sentFor
    rw [kafka]
  have opened := uploaded.opened
  exact
    { inv :=
        { accounted := by
            intro other c hother processed
            rw [frame.processed hother] at processed
            have old := h.accounted other c hother processed
            exact old.keep frame.acked (frame.rejects hother)
          counted := by
            intro other line
            rw [counted, opened]
            have old := h.counted other line
            by_cases same : zone.inboxKey other = zone.inboxKey name
            · rw [same] at old
              simp only [same, Function.update_self]
              omega
            · simp only [Function.update_of_ne same]
              exact old
          tagged := by rw [kafka]; exact h.tagged }
      absent := (frame.processed free).trans absent
      inbox := (frame.inbox rfl).trans found
      ingesting := uploaded.ingesting
      balanced := by rw [kafka]; exact balanced_start queue
      split := .nil
      room := by
        intro line _
        rw [counted, opened]
        simp only [Function.update_self]
        have old := h.counted name line
        omega }

theorem processBatch_spec (h : Idle lib avro zone s) (free : SlashFree name)
    (absent : s.objects (zone.processedKey name) = none) (rounds : Nat) :
    Prog.Always (exec lib avro zone) (Guard lib avro zone)
      (fun r t => match r with
        | .ok (fileRows, rejects) => ∃ content sent, fileRows = (dataRows lib content).length ∧
            (lib.csvReader content).ending = none ∧
            Sending lib avro zone name content s.kafka.deliveredCount (dataRows lib content) sent rejects t
        | .error _ => Inv lib avro zone t)
      (processBatch lib zone settings rounds name) s := by
  have guard : Guard lib avro zone (.openStream (zone.inboxKey name)) s :=
    ⟨h.inv, fun key same => ⟨name, free, (Op.openStream.inj same).symm, absent⟩, by simp, by simp⟩
  refine ⟨guard, ?_⟩
  intro answer t stepped
  obtain ⟨u, step, uploaded⟩ := stepped
  cases step with
  | notOpened => exact h.inv.still uploaded.frame (by rw [uploaded.kafka])
  | @opened _ _ content stream found yields =>
    have sending := Sending.open h.inv h.queue absent free found uploaded
    have rest := @ingestRows_spec lib avro zone settings _ _ _ _ _ _ _ sending free rounds
      (stream.rows.drop 1)
    rw [List.nil_append] at rest
    simp only [Prog.ofExcept, Prog.bind_eq, Prog.bind_ok]
    apply Prog.Always.seq rest
    intro r v post
    cases r with
    | error e => exact post
    | ok read =>
      obtain ⟨length, sent, sending⟩ := post
      cases ending : stream.ending with
      | some e => exact sending.inv
      | none =>
        rcases yields with rfl | ⟨-, broken⟩
        · exact ⟨content, sent, length, ending, sending⟩
        · exact absurd ending broken

/-- Every message sent for the batch is acknowledged. -/
structure Confirmed (lib : Library) (avro : UnsubscribeEvent → Bytes) (zone : LandingZone)
    (name : String) (content : Bytes) (rejects : List Reject) (s : World) : Prop where
  inv : Inv lib avro zone s
  absent : s.objects (zone.processedKey name) = none
  inbox : s.objects (zone.inboxKey name) = some content
  ingesting : s.ingesting = some (zone.inboxKey name)
  queue : s.kafka.queue = []
  readable : (lib.csvReader content).ending = none
  covered : ∀ (i : Nat) (row : List String), (dataRows lib content)[i]? = some row →
    (∃ m ∈ s.kafka.acked, m.tag.line = i + 2 ∧ BuiltFrom lib name row m.tag.event) ∨
      ∃ reason, checkRow lib row = .error (.rowError reason) ∧ ⟨i + 2, row, reason⟩ ∈ rejects

theorem Sending.confirmed (h : Sending lib avro zone name content before (dataRows lib content) sent rejects s)
    (readable : (lib.csvReader content).ending = none) (queue : s.kafka.queue = [])
    (all : s.kafka.deliveredCount = before + sent.length) :
    Confirmed lib avro zone name content rejects s where
  inv := h.inv
  absent := h.absent
  inbox := h.inbox
  ingesting := h.ingesting
  queue := queue
  readable := readable
  covered i row found := by
    rcases h.split.covers found with ⟨o, member, line, built⟩ | reject
    · obtain ⟨m, sent_m, rfl⟩ := List.mem_map.1 member
      exact .inl ⟨m, h.balanced.all_acked queue all sent_m, line, built⟩
    · exact .inr reject

theorem Inv.writeRejects (h : Inv lib avro zone s) (free : SlashFree name)
    (absent : s.objects (zone.processedKey name) = none) (data : Bytes) :
    Inv lib avro zone { s with objects := Function.update s.objects (zone.rejectsKey name) (some data) } where
  accounted other c hother processed := by
    have apart : zone.processedKey other ≠ zone.rejectsKey name :=
      LandingZone.processedKey_ne_rejectsKey hother free
    simp only [Function.update_of_ne apart] at processed
    have differs : other ≠ name := by
      rintro rfl
      simp [absent] at processed
    have apart : zone.rejectsKey other ≠ zone.rejectsKey name := fun same =>
      differs (LandingZone.rejectsKey_inj hother free same)
    exact (h.accounted other c hother processed).keep (List.Subset.refl _) (Function.update_of_ne apart ..)
  counted := h.counted
  tagged := h.tagged

theorem Inv.copy (h : Inv lib avro zone s) (free : SlashFree name)
    (accounted : Accounted lib zone s name content) :
    Inv lib avro zone { s with objects := Function.update s.objects (zone.processedKey name) (some content) } where
  accounted other c hother processed := by
    have old : Accounted lib zone s other c := by
      by_cases same : other = name
      · subst same
        simp only [Function.update_self, Option.some.injEq] at processed
        exact processed ▸ accounted
      · have apart : zone.processedKey other ≠ zone.processedKey name := fun keys =>
          same (LandingZone.processedKey_inj hother free keys)
        simp only [Function.update_of_ne apart] at processed
        exact h.accounted other c hother processed
    have apart : zone.rejectsKey other ≠ zone.processedKey name :=
      (LandingZone.processedKey_ne_rejectsKey free hother).symm
    exact old.keep (List.Subset.refl _) (Function.update_of_ne apart ..)
  counted := h.counted
  tagged := h.tagged

theorem Inv.delete (h : Inv lib avro zone s) (free : SlashFree name) :
    Inv lib avro zone { s with
      objects := Function.update s.objects (zone.inboxKey name) none
      ingesting := none } where
  accounted other c hother processed := by
    have apart : zone.processedKey other ≠ zone.inboxKey name :=
      (LandingZone.inboxKey_ne_processedKey free hother).symm
    simp only [Function.update_of_ne apart] at processed
    have apart : zone.rejectsKey other ≠ zone.inboxKey name :=
      (LandingZone.inboxKey_ne_rejectsKey free hother).symm
    exact (h.accounted other c hother processed).keep (List.Subset.refl _) (Function.update_of_ne apart ..)
  counted := h.counted
  tagged := h.tagged

/-- The reject file is in place, if there are rejects. -/
def RejectsWritten (zone : LandingZone) (name : String) (rejects : List Reject) (s : World) : Prop :=
  rejects = [] ∨ s.objects (zone.rejectsKey name) = some (LandingZone.renderRejects name rejects)

theorem Confirmed.accounted (h : Confirmed lib avro zone name content rejects s)
    (written : RejectsWritten zone name rejects s) : Accounted lib zone s name content := by
  refine ⟨h.readable, ?_⟩
  intro i row found
  rcases h.covered i row found with acked | ⟨reason, invalid, listed⟩
  · exact .inl acked
  · rcases written with empty | written
    · rw [empty] at listed
      cases listed
    · exact .inr ⟨reason, _, invalid, written, (isRejectFile name rejects).lists listed⟩

theorem Confirmed.still (h : Confirmed lib avro zone name content rejects s) (free : SlashFree name)
    (uploaded : Uploaded zone s t) : Confirmed lib avro zone name content rejects t := by
  have frame := uploaded.frame
  exact
    { inv := h.inv.still frame (by rw [uploaded.kafka])
      absent := (frame.processed free).trans h.absent
      inbox := (frame.inbox h.ingesting).trans h.inbox
      ingesting := uploaded.ingesting.trans h.ingesting
      queue := by rw [uploaded.kafka]; exact h.queue
      readable := h.readable
      covered := by rw [uploaded.kafka]; exact h.covered }

/-- A storage call other than reading; only deletes are restricted. -/
theorem guard_storage {o : Op} (h : Inv lib avro zone s) (opens : ∀ key, o ≠ .openStream key)
    (produces : ∀ o', o ≠ .producer o')
    (deletes : ∀ key, o = .deleteObject key → ∃ name, SlashFree name ∧ key = zone.inboxKey name) :
    Guard lib avro zone o s where
  inv := h
  opens key same := absurd same (opens key)
  produces _ same := absurd same (produces _)
  deletes := deletes

theorem writeRejects_spec (h : Confirmed lib avro zone name content rejects s) (free : SlashFree name) :
    Prog.Always (exec lib avro zone) (Guard lib avro zone)
      (fun r t => match r with
        | .ok _ => Confirmed lib avro zone name content rejects t ∧ RejectsWritten zone name rejects t
        | .error _ => Inv lib avro zone t)
      (writeRejects zone name rejects) s := by
  refine ⟨guard_storage h.inv (by simp) (by simp) (by simp), ?_⟩
  intro answer t stepped
  obtain ⟨u, step, uploaded⟩ := stepped
  cases step with
  | notWritten => exact h.inv.still uploaded.frame (by rw [uploaded.kafka])
  | written =>
    have inv := h.inv.writeRejects free h.absent (LandingZone.renderRejects name rejects)
    cases answer with
    | error e => exact inv.still uploaded.frame (by rw [uploaded.kafka])
    | ok _ =>
      have apart : zone.processedKey name ≠ zone.rejectsKey name :=
        LandingZone.processedKey_ne_rejectsKey free free
      have apart' : zone.inboxKey name ≠ zone.rejectsKey name :=
        LandingZone.inboxKey_ne_rejectsKey free free
      refine ⟨Confirmed.still ?_ free uploaded, .inr ?_⟩
      · exact
          { inv := inv
            absent := by simpa only [Function.update_of_ne apart] using h.absent
            inbox := by simpa only [Function.update_of_ne apart'] using h.inbox
            ingesting := h.ingesting
            queue := h.queue
            readable := h.readable
            covered := h.covered }
      · rw [uploaded.frame.rejects free]
        exact Function.update_self _ _ _

theorem markProcessed_spec (h : Confirmed lib avro zone name content rejects s)
    (written : RejectsWritten zone name rejects s) (free : SlashFree name) :
    Prog.Always (exec lib avro zone) (Guard lib avro zone)
      (fun r t => match r with
        | .ok _ => Idle lib avro zone t
        | .error _ => Inv lib avro zone t)
      (markProcessed zone name) s := by
  refine ⟨guard_storage h.inv (by simp) (by simp) (by simp), ?_⟩
  intro answer t stepped
  obtain ⟨u, step, uploaded⟩ := stepped
  cases step with
  | notCopied => exact h.inv.still uploaded.frame (by rw [uploaded.kafka])
  | @copied _ _ _ found_content _ found =>
    have same : found_content = content := Option.some.inj (found.symm.trans h.inbox)
    subst same
    have inv : Inv lib avro zone t :=
      (h.inv.copy free (h.accounted written)).still uploaded.frame (by rw [uploaded.kafka])
    cases answer with
    | error e => exact inv
    | ok _ =>
      have queue : t.kafka.queue = [] := by rw [uploaded.kafka]; exact h.queue
      refine ⟨guard_storage inv (by simp) (by simp) ?_, ?_⟩
      · exact fun key same => ⟨name, free, (Op.deleteObject.inj same).symm⟩
      intro answer v stepped
      obtain ⟨w, step, uploaded'⟩ := stepped
      cases step with
      | notDeleted => exact inv.still uploaded'.frame (by rw [uploaded'.kafka])
      | deleted =>
        have inv := (inv.delete free).still uploaded'.frame (by rw [uploaded'.kafka])
        cases answer with
        | error e => exact inv
        | ok _ => exact ⟨inv, by rw [uploaded'.kafka]; exact queue⟩

/-- The totals of a run agree. -/
def Report.Adds (report : Report) : Prop :=
  (report.rowsRead : Int) = report.eventsSent + report.rowsRejected

/-- What a pass over files keeps: nothing queued and agreeing totals where it returns, and
the invariant where it raises. -/
abbrev Passes (lib : Library) (avro : UnsubscribeEvent → Bytes) (zone : LandingZone)
    (p : LegalM Report) (s : World) : Prop :=
  Prog.Always (exec lib avro zone) (Guard lib avro zone)
    (fun r t => match r with
      | .ok report => Idle lib avro zone t ∧ report.Adds
      | .error _ => Inv lib avro zone t) p s

/-- The file moves, and its report is added. -/
theorem finish_spec (h : Confirmed lib avro zone name content rejects s)
    (written : RejectsWritten zone name rejects s) (free : SlashFree name) {report : Report}
    (adds : report.Adds) :
    Passes lib avro zone (markProcessed zone name >>= fun _ => pure report) s := by
  apply Prog.Always.seq (markProcessed_spec h written free)
  intro r t post
  cases r with
  | error e => exact post
  | ok _ => exact ⟨post, adds⟩

theorem Sending.flushed {rows : List (List String)} {timeout : ℚ} {stillQueued : Nat}
    (h : Sending lib avro zone name content before rows sent rejects s) (free : SlashFree name)
    (step : exec lib avro zone (.producer (.flush timeout)) s stillQueued t) :
    stillQueued = t.kafka.queue.length ∧ Sending lib avro zone name content before rows sent rejects t := by
  obtain ⟨step, frame⟩ := exec_producer _ _ _ _ step
  have produced : t.kafka.produced = s.kafka.produced := step.produced_of_ne (by simp)
  generalize hk : t.kafka = k at step produced
  cases step with
  | flushed settles =>
    have balanced := h.balanced.settle settles
    rw [← hk] at balanced produced
    exact ⟨rfl, h.moved free frame produced balanced⟩

theorem exec_deliveredCount {count : Nat} (step : exec lib avro zone (.producer .deliveredCount) s count t) :
    count = s.kafka.deliveredCount ∧ t.kafka = s.kafka ∧ Frame zone s t := by
  obtain ⟨step, frame⟩ := exec_producer _ _ _ _ step
  generalize hk : t.kafka = k at step
  cases step with
  | deliveredCount => exact ⟨rfl, rfl, frame⟩

theorem ingestBatch_spec (h : Idle lib avro zone s) (free : SlashFree name)
    (absent : s.objects (zone.processedKey name) = none) (rounds : Nat) {report : Report}
    (adds : report.Adds) :
    Passes lib avro zone
      (ingestBatch lib zone settings rounds name s.kafka.deliveredCount report) s := by
  apply Prog.Always.seq (processBatch_spec h free absent rounds)
  intro r t post
  cases r with
  | error e => exact post
  | ok result =>
  obtain ⟨fileRows, rejects⟩ := result
  obtain ⟨content, sent, rfl, readable, sending⟩ := post
  have split := sending.split.length
  rw [List.length_map] at split
  refine ⟨guard_producer sending.inv (by simp), ?_⟩
  intro stillQueued t₁ h₁
  obtain ⟨queued, sending⟩ := sending.flushed free h₁
  refine ⟨guard_producer sending.inv (by simp), ?_⟩
  intro delivered t₂ h₂
  obtain ⟨counted, kafka, frame⟩ := exec_deliveredCount h₂
  have sending := sending.still free frame kafka
  simp only [Prog.embed_done, Prog.bind_ok]
  split
  · exact sending.inv
  · next accepted =>
    rw [not_or, not_not] at accepted
    have queue : t₂.kafka.queue = [] := by
      rw [kafka]
      exact List.length_eq_zero_iff.1 (by omega)
    have all : t₂.kafka.deliveredCount = s.kafka.deliveredCount + sent.length := by
      have := accepted.2
      rw [kafka, ← counted]
      omega
    have confirmed := sending.confirmed readable queue all
    have total : Report.Adds
        { filesProcessed := report.filesProcessed + 1
          rowsRead := report.rowsRead + (dataRows lib content).length
          eventsSent := report.eventsSent + ((delivered : Int) - s.kafka.deliveredCount)
          rowsRejected := report.rowsRejected + rejects.length } := by
      have := accepted.2
      unfold Report.Adds at adds ⊢
      push_cast
      omega
    split
    · apply Prog.Always.seq (writeRejects_spec confirmed free)
      intro r u post
      cases r with
      | error e => exact post
      | ok _ => exact finish_spec post.1 post.2 free total
    · next none_rejected => exact finish_spec confirmed (.inl (not_not.1 none_rejected)) free total

/-- `already_processed` looks for the exact key. -/
theorem alreadyProcessed_spec (h : Idle lib avro zone s) (free : SlashFree name) :
    Prog.Always (exec lib avro zone) (Guard lib avro zone)
      (fun r t => Idle lib avro zone t ∧ ∀ processed : Bool, r = .ok processed →
        (processed ↔ (t.objects (zone.processedKey name)).isSome))
      (alreadyProcessed zone name) s := by
  refine ⟨guard_of_inv h.inv trivial, ?_⟩
  intro answer t ht
  obtain ⟨frame, kafka⟩ := exec_readOnly ht trivial
  have idle := h.still frame kafka
  obtain ⟨u, step, -⟩ := ht
  cases step with
  | notListed => exact ⟨idle, by intro _ impossible; cases impossible⟩
  | @listed _ _ keys lists =>
    refine ⟨idle, ?_⟩
    intro processed same
    have found : processed = decide (zone.processedKey name ∈ keys) := (Except.ok.inj same).symm
    rw [found, decide_eq_true_iff, lists.2, frame.processed free]
    exact and_iff_left List.prefix_rfl

/-- **One file.** -/
theorem ingestFile_spec (h : Idle lib avro zone s) (free : SlashFree name) (rounds : Nat) {report : Report}
    (adds : report.Adds) :
    Passes lib avro zone (ingestFile lib zone settings rounds name report) s := by
  apply Prog.Always.seq (alreadyProcessed_spec h free)
  intro r t post
  obtain ⟨h, spec⟩ := post
  cases r with
  | error e => exact h.inv
  | ok processed =>
    cases processed with
    | true => exact ⟨h, adds⟩
    | false =>
    have absent : t.objects (zone.processedKey name) = none := by simpa using spec false rfl
    refine ⟨guard_producer h.inv (by simp), ?_⟩
    intro deliveredBefore t₁ h₁
    obtain ⟨counted, kafka, frame⟩ := exec_deliveredCount h₁
    have h := h.still frame kafka
    have absent := (frame.processed free).trans absent
    rw [← kafka] at counted
    subst counted
    refine Prog.Always.tryCatch ((ingestBatch_spec h free absent rounds adds).mono (fun _ _ g => g) ?_)
    intro r u post
    cases r with
    | ok report => exact post
    | error e =>
      refine ⟨guard_producer post (by simp), ?_⟩
      intro _ v hv
      obtain ⟨step, frame⟩ := exec_producer _ _ _ _ hv
      exact post.still frame (step.produced_of_ne (by simp))

theorem ingestFiles_spec (rounds : Nat) (names : List String) (free : ∀ name ∈ names, SlashFree name)
    (h : Idle lib avro zone s) {report : Report} (adds : report.Adds) :
    Passes lib avro zone (ingestFiles lib zone settings rounds names report) s := by
  induction names generalizing s report with
  | nil => exact ⟨h, adds⟩
  | cons name names ih =>
    rw [List.forall_mem_cons] at free
    apply Prog.Always.seq (ingestFile_spec h free.1 rounds adds)
    intro r t post
    cases r with
    | error e => exact post
    | ok report => exact ih free.2 post.1 post.2

/-- **One run.** -/
theorem main_spec (h : Idle lib avro zone s) (rounds : Nat) :
    Passes lib avro zone (main lib zone settings rounds) s := by
  refine ⟨guard_of_inv h.inv trivial, ?_⟩
  intro answer t ht
  obtain ⟨frame, kafka⟩ := exec_readOnly ht trivial
  have h := h.still frame kafka
  cases answer with
  | error e => exact h.inv
  | ok keys =>
    exact ingestFiles_spec rounds _ (fun _ member => LandingZone.slashFree_of_mem_batchNames member) h
      (by unfold Report.Adds; rfl)

end Tikblog.Legal
