import Mathlib.Data.List.Perm.Subperm
import Tikblog.Contracts.Avro
import Tikblog.Legal.Batch

/-!
# Runs of the ingestion

What holds over any number of runs, each of which may stop at any point: a processed file is
fully accounted for (`processed_file_accounted`), and what is on the topic was produced.
-/

namespace Tikblog.Legal

open Python Contracts Kafka Program Storage

variable {lib : Library} {avro : UnsubscribeEvent → Bytes} {zone : LandingZone}
  {settings : ProducerSettings} {s t : World} {name : String}

theorem Inv.restart (h : Inv lib avro zone s) {written : List (Outgoing Origin)}
    (uploaded : Uploaded zone { s with ingesting := none, kafka := s.kafka.restarted written } t) :
    Idle lib avro zone t := by
  have restarted : Inv lib avro zone
      { s with ingesting := none, kafka := s.kafka.restarted written } :=
    { accounted := by
        intro other content free processed
        have old := h.accounted other content free processed
        exact ⟨old.readable, old.rows⟩
      counted := h.counted
      tagged := h.tagged }
  exact ⟨restarted.still uploaded.frame (by rw [uploaded.kafka]), by rw [uploaded.kafka]; rfl⟩

/-- The invariant holds in every reachable state. -/
theorem reachable_inv (h : (ingestion lib avro zone settings).Reachable s) : Inv lib avro zone s := by
  apply h.invariant
  · intro s start
    obtain ⟨none_processed, opened, kafka⟩ := start
    refine ⟨?_, ?_, ?_⟩
    · intro name content free processed
      rw [none_processed name free] at processed
      cases processed
    · intro name line
      unfold World.sentFor
      simp [kafka, ProducerState.fresh]
    · simp [kafka, ProducerState.fresh]
  · intro rounds s t inv begins
    obtain ⟨written, -, uploaded⟩ := begins
    apply (main_spec (inv.restart uploaded) rounds).mono (fun _ _ guard => guard.inv)
    intro r u post
    cases r with
    | error e => exact post
    | ok report => exact post.1.inv

/-- The run of a session, from its start. -/
theorem session_spec (h : (ingestion lib avro zone settings).Reachable s) {rounds : Nat}
    {p : LegalM Report} (run : (ingestion lib avro zone settings).Session rounds s p t) :
    Passes lib avro zone p t := by
  obtain ⟨s₀, ⟨written, -, uploaded⟩, run⟩ := run
  have start : Passes lib avro zone (main lib zone settings rounds) s₀ :=
    main_spec ((reachable_inv h).restart uploaded) rounds
  exact Prog.Always.run start run

/-- No call of a run removes a processed file. -/
theorem processed_stays {o : Op} {a : Ans o} (guard : Guard lib avro zone o s) (free : SlashFree name)
    (h : (s.objects (zone.processedKey name)).isSome) (step : exec lib avro zone o s a t) :
    (t.objects (zone.processedKey name)).isSome := by
  obtain ⟨u, answer, uploaded⟩ := step
  rw [uploaded.frame.processed free]
  cases answer with
  | @written key | @copied _ key =>
    by_cases same : zone.processedKey name = key
    · simp [same]
    · simpa [Function.update_of_ne same] using h
  | @deleted key =>
    obtain ⟨other, hother, rfl⟩ := guard.deletes key rfl
    have apart : zone.processedKey name ≠ zone.inboxKey other :=
      (LandingZone.inboxKey_ne_processedKey hother free).symm
    simpa [Function.update_of_ne apart] using h
  | _ => exact h

/-- **A processed file is accounted for.** In every reachable state each data row of a
processed file is acknowledged or rejected; once a file is processed, the rest of a run
queues no message of it; and the totals of a run that finishes agree. -/
theorem processed_file_accounted (lib : Library) (avro : UnsubscribeEvent → Bytes) (zone : LandingZone)
    (settings : ProducerSettings) {s : World} (h : (ingestion lib avro zone settings).Reachable s) :
    (∀ name content, SlashFree name → s.objects (zone.processedKey name) = some content →
      Accounted lib zone s name content) ∧
    (∀ rounds p t, (ingestion lib avro zone settings).Session rounds s p t →
      ∀ name, SlashFree name → (t.objects (zone.processedKey name)).isSome →
      ∀ m k u, Prog.Run (exec lib avro zone) (p, t) (.op (.producer (.produce m)) k, u) →
        m.tag.event.legalBatchId ≠ some name) ∧
    ∀ rounds report t, (ingestion lib avro zone settings).Session rounds s (.done (.ok report)) t →
      (report.rowsRead : Int) = report.eventsSent + report.rowsRejected := by
  refine ⟨(reachable_inv h).accounted, ?_, ?_⟩
  · intro rounds p t session name free processed m k u run batch
    have passes := session_spec h session
    have still := passes.keeps_of_run (c := (p, t))
      (fun o s a t guard hs step => processed_stays guard free hs step) run processed
    obtain ⟨other, batch', absent⟩ := (passes.guard_of_run run).produces m rfl
    have same : other = name := Option.some.inj (batch'.symm.trans batch)
    rw [same] at absent
    simp [absent] at still
  · intro rounds report t session
    exact (session_spec h session).2

/-- What is on the topic was produced. -/
theorem reachable_topic (h : (ingestion lib avro zone settings).Reachable s) :
    s.kafka.topic.Subperm s.kafka.produced := by
  refine System.Reachable.invariant_of_ops (I := fun s => s.kafka.topic.Subperm s.kafka.produced)
    h ?_ ?_ ?_
  · intro s start
    obtain ⟨-, -, kafka⟩ := start
    simp [kafka, ProducerState.fresh]
  · intro rounds s t _ begins
    obtain ⟨written, may, uploaded⟩ := begins
    rw [uploaded.kafka]
    exact may
  · intro rounds o s a t topic step
    obtain ⟨u, answer, uploaded⟩ := step
    rw [uploaded.kafka]
    cases answer with
    | producer step => exact step.topic_subperm topic
    | _ => exact topic

/-- What was acknowledged is on the topic. -/
theorem reachable_acked (h : (ingestion lib avro zone settings).Reachable s) : s.kafka.acked ⊆ s.kafka.topic := by
  refine System.Reachable.invariant_of_ops (I := fun s => s.kafka.acked ⊆ s.kafka.topic) h ?_ ?_ ?_
  · intro s start
    obtain ⟨-, -, kafka⟩ := start
    simp [kafka, ProducerState.fresh]
  · intro rounds s t acked begins
    obtain ⟨written, -, uploaded⟩ := begins
    rw [uploaded.kafka]
    exact List.Subset.trans acked (List.subset_append_left _ _)
  · intro rounds o s a t acked step
    obtain ⟨u, answer, uploaded⟩ := step
    rw [uploaded.kafka]
    cases answer with
    | producer step => exact step.acked_written acked
    | _ => exact acked

/-! ## A run over one file -/

/-- A file with a header, one good row and one row without a date. -/
def demoContent : Bytes :=
  encode "user_id,writer_id,requested_at\r\nreader-1,writer-1,2026-01-01T00:00:00+00:00\r\nreader-2,writer-1,\r\n"

/-- The library functions on the texts of `demoContent`. -/
def demoLibrary : Library where
  fromisoformat text := if text = "2026-01-01T00:00:00+00:00" then some ⟨1767225600000000, some 0⟩ else none
  repr text := "'" ++ text ++ "'"
  csvReader _ :=
    { rows :=
        [["user_id", "writer_id", "requested_at"], ["reader-1", "writer-1", "2026-01-01T00:00:00+00:00"],
          ["reader-2", "writer-1", ""]]
      ending := none }

def demoSettings : ProducerSettings := ⟨30, 30⟩

def demoKeys : List String :=
  ["legal_inbox/batch.csv", "legal_processed/batch.csv", "legal_rejects/batch.csv.rejects.csv"]

/-- The bucket with the file in the inbox, before any run. -/
def demoStart : World where
  objects key := if key = "legal_inbox/batch.csv" then some demoContent else none
  ingesting := none
  opened _ := 0
  kafka := .fresh

/-- A client that confirms everything at the next poll. -/
def demoKafka : (o : ProducerOp Origin) → ProducerState Origin → ProducerAns o × ProducerState Origin
  | .toBytes event, k => (.ok (toBytes 1 event), k)
  | .monotonic, k => (0, k)
  | .produce m, k => (.ok (), k.enqueue m)
  | .poll _, k => ((), k.settled k.queue [] [] k.queue)
  | .flush _, k => (0, k.settled k.queue [] [] k.queue)
  | .deliveredCount, k => (k.deliveredCount, k)
  | .count c, k => ((), k.count c)

/-- A bucket that works; ids are numbered by the openings of the file. -/
def demoCalls : (o : Op) → World → Ans o × World
  | .listKeys p, s =>
    (.ok (demoKeys.filter fun key => (s.objects key).isSome && p.toList.isPrefixOf key.toList), s)
  | .openStream key, s =>
    match s.objects key with
    | some content =>
      (.ok (demoLibrary.csvReader content),
        { s with ingesting := some key, opened := Function.update s.opened key (s.opened key + 1) })
    | none => (.error (.storageError "NoSuchKey"), s)
  | .write key data, s =>
    if key ∈ demoKeys then (.ok (), { s with objects := Function.update s.objects key (some data) })
    else (.error (.storageError "AccessDenied"), s)
  | .copyObject key target, s =>
    match s.objects key with
    | some content =>
      if target ∈ demoKeys then
        (.ok (), { s with objects := Function.update s.objects target (some content) })
      else (.error (.storageError "AccessDenied"), s)
    | none => (.error (.storageError "NoSuchKey"), s)
  | .deleteObject key, s =>
    (.ok (), { s with objects := Function.update s.objects key none, ingesting := none })
  | .uuid4, s => (toString (s.opened "legal_inbox/batch.csv"), s)
  | .producer o, s => ((demoKafka o s.kafka).1, { s with kafka := (demoKafka o s.kafka).2 })

/-- Only the three keys hold objects, and what is queued is not on the topic yet. -/
structure DemoInv (s : World) : Prop where
  keys : ∀ key, (s.objects key).isSome → key ∈ demoKeys
  queued : (s.kafka.topic ++ s.kafka.queue).Subperm s.kafka.produced

theorem demoKafka_sound (o : ProducerOp Origin) (k : ProducerState Origin)
    (h : (k.topic ++ k.queue).Subperm k.produced) :
    ProducerExec (toBytes 1) o k (demoKafka o k).1 (demoKafka o k).2 ∧
      ((demoKafka o k).2.topic ++ (demoKafka o k).2.queue).Subperm (demoKafka o k).2.produced := by
  have settles : k.Settles (k.settled k.queue [] [] k.queue) :=
    ⟨k.queue, [], [], k.queue, by simp, h, List.subset_append_right _ _, rfl⟩
  cases o with
  | toBytes event => exact ⟨.encoded, h⟩
  | monotonic => exact ⟨.monotonic, h⟩
  | produce m =>
    refine ⟨.produced, ?_⟩
    have more := (List.subperm_append_right [m]).2 h
    simpa [demoKafka, ProducerState.enqueue] using more
  | poll t => exact ⟨.polled settles, by simpa [demoKafka, ProducerState.settled] using h⟩
  | flush t => exact ⟨.flushed settles, by simpa [demoKafka, ProducerState.settled] using h⟩
  | deliveredCount => exact ⟨.deliveredCount, h⟩
  | count c => exact ⟨.counted, by cases c <;> exact h⟩

theorem uploaded_refl (s : World) : Uploaded zone s s := ⟨fun _ => .inr rfl, rfl, rfl, rfl⟩

theorem demoKeys_lists (s : World) (h : DemoInv s) (p : String) :
    Lists s.objects p
      (demoKeys.filter fun key => (s.objects key).isSome && p.toList.isPrefixOf key.toList) := by
  have sorted : demoKeys.Pairwise (· < ·) := by decide
  refine ⟨sorted.filter _, ?_⟩
  intro key
  rw [List.mem_filter, Bool.and_eq_true, List.isPrefixOf_iff_prefix]
  exact ⟨fun found => found.2, fun found => ⟨h.keys key found.1, found⟩⟩

theorem DemoInv.update {s : World} (h : DemoInv s) {key : String} (member : key ∈ demoKeys)
    (value : Option Bytes) :
    DemoInv { s with objects := Function.update s.objects key value } where
  keys other found := by
    by_cases same : other = key
    · exact same ▸ member
    · exact h.keys other (by simpa [Function.update_of_ne same] using found)
  queued := h.queued

theorem demoCalls_answer (o : Op) (s : World) (h : DemoInv s) :
    Answer demoLibrary (toBytes 1) o s (demoCalls o s).1 (demoCalls o s).2 ∧ DemoInv (demoCalls o s).2 := by
  cases o with
  | listKeys p => exact ⟨.listed (demoKeys_lists s h p), h⟩
  | openStream key =>
    cases found : s.objects key with
    | none =>
      simp only [demoCalls, found]
      exact ⟨.notOpened, h⟩
    | some content =>
      simp only [demoCalls, found]
      exact ⟨.opened found (.inl rfl), ⟨h.keys, h.queued⟩⟩
  | write key data =>
    by_cases member : key ∈ demoKeys
    · simp only [demoCalls, if_pos member]
      exact ⟨.written, h.update member _⟩
    · simp only [demoCalls, if_neg member]
      exact ⟨.notWritten, h⟩
  | copyObject key target =>
    cases found : s.objects key with
    | none =>
      simp only [demoCalls, found]
      exact ⟨.notCopied, h⟩
    | some content =>
      by_cases member : target ∈ demoKeys
      · simp only [demoCalls, found, if_pos member]
        exact ⟨.copied found, h.update member _⟩
      · simp only [demoCalls, found, if_neg member]
        exact ⟨.notCopied, h⟩
  | deleteObject key =>
    refine ⟨.deleted, ⟨?_, h.queued⟩⟩
    intro other found
    by_cases same : other = key
    · simp [demoCalls, same] at found
    · exact h.keys other (by simpa [demoCalls, Function.update_of_ne same] using found)
  | uuid4 => exact ⟨.uuid4, h⟩
  | producer o =>
    have sound := demoKafka_sound o s.kafka h.queued
    exact ⟨.producer sound.1, ⟨h.keys, sound.2⟩⟩

theorem demoCalls_sound (o : Op) (s : World) (h : DemoInv s) :
    exec demoLibrary (toBytes 1) .defaults o s (demoCalls o s).1 (demoCalls o s).2 ∧
      DemoInv (demoCalls o s).2 := by
  obtain ⟨answer, kept⟩ := demoCalls_answer o s h
  exact ⟨⟨_, answer, uploaded_refl _⟩, kept⟩

/-- The state after `n` calls of a run from `s`. -/
def demoRun (n : Nat) (s : World) : World :=
  (Prog.evalSteps demoCalls n (main demoLibrary .defaults demoSettings 1,
    { s with ingesting := none, kafka := s.kafka.restarted [] })).2

abbrev demo : System Nat Op Ans PyException Report World :=
  ingestion demoLibrary (toBytes 1) .defaults demoSettings

theorem demoStart_reachable : demo.Reachable demoStart := by
  refine .init ⟨?_, rfl, rfl⟩
  intro name free
  have file : SlashFree "batch.csv" := by decide
  have inbox : LandingZone.defaults.inboxKey "batch.csv" = "legal_inbox/batch.csv" := by decide
  have apart : LandingZone.defaults.inboxKey "batch.csv" ≠ LandingZone.defaults.processedKey name :=
    LandingZone.inboxKey_ne_processedKey file free
  simp [demoStart, ← inbox, apart.symm]

theorem demoStart_inv : DemoInv demoStart where
  keys key found := by
    by_cases same : key = "legal_inbox/batch.csv"
    · subst same
      decide
    · simp [demoStart, same] at found
  queued := by simp [demoStart, ProducerState.fresh]

theorem demoRun_reachable (h : demo.Reachable s) (hs : DemoInv s) (n : Nat) :
    demo.Reachable (demoRun n s) ∧ DemoInv (demoRun n s) := by
  have topic : (s.kafka.topic ++ []).Subperm s.kafka.produced := by
    rw [List.append_nil]
    exact reachable_topic h
  refine h.evalSteps (k := 1) ⟨[], topic, uploaded_refl _⟩ demoCalls_sound ⟨hs.keys, ?_⟩ n
  simpa [ProducerState.restarted, ProducerState.fresh] using topic

/-- One run to its end. -/
def demoDone : World := demoRun 30 demoStart

theorem processed_file_accounted_demo :
    Accounted demoLibrary .defaults demoDone "batch.csv" demoContent :=
  (processed_file_accounted demoLibrary (toBytes 1) .defaults demoSettings
    (demoRun_reachable demoStart_reachable demoStart_inv 30).1).1 "batch.csv" demoContent (by decide) rfl

end Tikblog.Legal
