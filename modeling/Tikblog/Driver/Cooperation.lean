import Tikblog.Driver.Interference

/-!
# The programs of the driver keep its invariant

Each program is followed through, with the moves of the other threads between its
operations. A query of Kafka and a critical section are at a point of their own run at every
operation (`Always.traced`); the second stage commits a batch after the critical section that
has settled its rows; a backfill checks the Bronze rows that it has read.
-/

namespace Tikblog.Driver

open Python Program Analytics

variable {w : Platform} {s t u : State w} {c : Channel} {i : Thread} {α β : Type}

/-- The operations of a thread, each after moves of the others. -/
abbrev Meanwhile (w : Platform) (i : Thread) : Program.Exec Op Ans (State w) :=
  meanwhile (Staging w) (Rely w i) (Exec w i)

/-- The program knows what it must at every operation. -/
abbrev Safe (w : Platform) (i : Thread) (Q : Except PyException α → State w → Prop) (p : DriverM α) (s : State w) :
    Prop :=
  Prog.Always (Meanwhile w i) (Guard w i) Q p s

theorem keeps_of_meanwhile {o : Op} {a : Ans o} (guard : Guard w i o s) (performed : Meanwhile w i o s a t) :
    ∃ u, Rely w i s u ∧ Staging w u ∧ Exec w i o u a t ∧ Keeps i u t := by
  obtain ⟨u, staging, rely, performed⟩ := performed
  exact ⟨u, rely, staging, performed, keeps_of_exec staging (guard.rely rely) performed⟩

theorem grows_of_meanwhile {o : Op} {a : Ans o} (guard : Guard w i o s) (moved : Meanwhile w i o s a t) : Grows s t := by
  obtain ⟨u, rely, -, -, kept⟩ := keeps_of_meanwhile guard moved
  exact rely.grows.trans kept.grows

/-! ## Programs that need to know nothing -/

inductive Free : Op → Prop where
  | outside {o} : Free (.outside o)
  | optimize {table} : Free (.optimize table)
  | vacuum {table} : Free (.vacuum table)
  | deleteBronze {c days} : Free (.deleteBronze c days)
  | deleteMonitoring {table days} : Free (.deleteMonitoring table days)
  | random : Free .random
  | sleep {seconds} : Free (.sleep seconds)

theorem Free.guard {o : Op} (h : Free o) (i : Thread) (s : State w) : Guard w i o s := by
  cases h <;> trivial

theorem safe_of_free {p : DriverM α} (uses : p.Uses Free) (s : State w) : Safe w i (fun _ _ => True) p s :=
  Prog.Always.of_uses (I := fun _ => True) (fun _ _ _ _ _ _ _ => trivial) (fun _ free s _ => free.guard i s) uses
    trivial

theorem safe_bind {p : DriverM β} {f : β → DriverM α} {s : State w} (h : Safe w i (fun _ _ => True) p s)
    (next : ∀ b t, Safe w i (fun _ _ => True) (f b) t) : Safe w i (fun _ _ => True) (p.bind f) s := by
  apply Prog.Always.seq h
  intro r t _
  cases r with
  | error e => trivial
  | ok b => exact next b t

/-- A part that only computes. -/
theorem safe_computed {Q : Except PyException α → State w → Prop} {r : Except PyException β} {f : β → DriverM α}
    {s : State w} (fails : ∀ e, Q (.error e) s) (next : ∀ b, r = .ok b → Safe w i Q (f b) s) :
    Safe w i Q ((Prog.ofExcept r).bind f) s := by
  cases r with
  | error e => exact fails e
  | ok b => exact next b rfl

theorem safe_ofExcept {r : Except PyException β} {f : β → DriverM α} {s : State w}
    (next : ∀ b, r = .ok b → Safe w i (fun _ _ => True) (f b) s) :
    Safe w i (fun _ _ => True) ((Prog.ofExcept r).bind f) s :=
  safe_computed (fun _ => trivial) next

/-! ## A critical section -/

/-- Where a critical section of the thread has ended; where it has returned, the lake is as
its run has left it. -/
structure SectionEnded (i : Thread) (k : Call) (s : State w) (r : Except PyException Unit) (t : State w) : Prop where
  leaves : Leaves i s t
  staging : Staging w t
  running : i.life = t.life
  returned : r = .ok () → ∃ base v, (sections w).Reachable base ∧ (sections w).Session k base (.done (.ok ())) v ∧
    Mirrors v t

/-- What the thread sees of the lake while it has the lock. -/
structure Sees (i : Thread) (s : State w) (v : World) (t : State w) : Prop where
  running : i.life = t.life
  held : t.silverGoldLock = some i
  mirrors : Mirrors v t
  leaves : Leaves i s t

theorem Sees.rely {v : World} (h : Sees i s v t) (rely : Rely w i t u) (running : i.life = u.life) : Sees i s v u := by
  obtain ⟨held, hushed⟩ := rely.silverGoldLock h.running (running.symm.trans h.running) h.held
  exact ⟨running, held, h.mirrors.hushed hushed rely.grows, h.leaves.trans rely.toLeaves⟩

theorem sees_of_acquire {k : Call} {a : Unit} (allowed : Allowed w k) (performed : Meanwhile w i (.acquire k) s a t) :
    ∃ base v, (sections w).Reachable base ∧ (sections w).begins k base v ∧ Sees i s v t := by
  obtain ⟨u, rely, staging, performed, kept⟩ := keeps_of_meanwhile (o := .acquire k) allowed performed
  obtain ⟨base, reached, mirrors⟩ := staging.mirrored
  cases performed with
  | ran running performed =>
    cases performed with
    | @acquire _ _ begin free ticked =>
      refine ⟨base, base.at begin, reached, ⟨allowed, begin, mirrors.clock.trans_lt ticked, rfl⟩, running, rfl, ?_, ?_⟩
      · exact ⟨mirrors.silver, mirrors.gold, mirrors.inserted, mirrors.checkedAt, le_refl _, mirrors.quarantine⟩
      · exact rely.toLeaves.trans ⟨kept.grows, fun _ _ held => held, fun _ _ _ => rfl, fun _ _ _ => rfl⟩

section Inside

variable {k : Call} {base v₀ v : World}

theorem guard_inside (reached : (sections w).Reachable base) (begins : (sections w).begins k base v₀) {o : LakeOp}
    {next : o.Answer → LakeM Unit}
    (run : Prog.Run (LakeExec k.runId) (k.program w.config.env, v₀) (.op o next, v)) (sees : Sees i s v t) :
    Guard w i (.inside k o) t :=
  ⟨sees.running.le, fun _ => ⟨sees.held, base, v, next, reached, ⟨v₀, begins, run⟩, sees.mirrors⟩⟩

theorem sees_of_inside {o : LakeOp} {a : o.Answer} (guard : Guard w i (.inside k o) t) (sees : Sees i s v t)
    (performed : Meanwhile w i (.inside k o) t a u) : ∃ v', LakeExec k.runId o v a v' ∧ Sees i s v' u := by
  obtain ⟨x, rely, staging, performed, kept⟩ := keeps_of_meanwhile guard performed
  cases performed with
  | ran running performed =>
    have sees := sees.rely rely running
    cases performed with
    | inside held called =>
      obtain ⟨v', own, mirrors⟩ := sees.mirrors.performs staging.archives called
      refine ⟨v', own, running, held, mirrors, sees.leaves.trans ?_⟩
      exact ⟨kept.grows, fun _ _ held => held, fun _ _ _ => rfl, fun _ _ _ => rfl⟩

theorem ended_of_release {a : Unit} {r : Except PyException Unit} (reached : (sections w).Reachable base)
    (begins : (sections w).begins k base v₀)
    (run : Prog.Run (LakeExec k.runId) (k.program w.config.env, v₀) (.done r, v)) (sees : Sees i s v t)
    (performed : Meanwhile w i .release t a u) : SectionEnded i k s r u := by
  obtain ⟨x, rely, staging, performed, kept⟩ := keeps_of_meanwhile (o := .release) trivial performed
  cases performed with
  | ran running performed =>
    have sees := sees.rely rely running
    cases performed with
    | release held =>
      refine ⟨?_, kept.staging, running, ?_⟩
      · exact sees.leaves.trans ⟨kept.grows, fun _ _ held => held, fun _ _ _ => rfl, fun _ _ _ => rfl⟩
      · rintro rfl
        have hushed : Hushed x { x with silverGoldLock := none } := ⟨rfl, rfl, rfl, rfl⟩
        exact ⟨base, v, reached, ⟨v₀, begins, run⟩, sees.mirrors.hushed hushed kept.grows⟩

end Inside

/-- **A critical section** runs as the lake has it. -/
theorem safe_critical {k : Call} (allowed : Allowed w k) (s : State w) :
    Safe w i (SectionEnded i k s) (critical w.config k) s := by
  refine ⟨allowed, fun _ t performed => ?_⟩
  obtain ⟨base, v₀, reached, begins, start⟩ := sees_of_acquire allowed performed
  have section_run : Safe w i
      (fun r t => ∃ v, Prog.Run (LakeExec k.runId) (k.program w.config.env, v₀) (.done r, v) ∧ Sees i s v t)
      ((k.program w.config.env).embed (Op.inside k) fun _ a => a) t := by
    have step : ∀ o next v x a y, Prog.Run (LakeExec k.runId) (k.program w.config.env, v₀) (.op o next, v) →
        Sees i s v x → Meanwhile w i (.inside k o) x a y → ∃ v', LakeExec k.runId o v a v' ∧ Sees i s v' y :=
      fun o next v x a y run sees performed => sees_of_inside (guard_inside reached begins run sees) sees performed
    refine (Prog.Always.traced step .refl start).mono ?_ fun _ _ ended => ended
    · rintro _ x ⟨o, next, v, rfl, run, sees⟩
      exact guard_inside reached begins run sees
  apply section_run.closes
  rintro r x ⟨v, run, sees⟩
  exact ⟨trivial, fun _ y performed => ended_of_release reached begins run sees performed⟩

/-! ## The second stage -/

/-- After the critical section of a batch, its rows are settled. -/
theorem settled_of_section {schema : Schema} (h : BronzeSchema w schema) {rows : List BronzeRow}
    {runId pipeline : String} (sourced : ∀ row ∈ rows, Sourced w c row)
    (ended : SectionEnded i (.validate (bronzeFrame schema h.unique rows) runId pipeline) s (.ok ()) t) :
    ∀ row ∈ rows, Settled t row := by
  obtain ⟨base, v, reached, session, mirrors⟩ := ended.returned rfl
  obtain ⟨begin, allowed, -, -, completed⟩ := session_stage session
  intro row member
  obtain ⟨record, recorded, decodes⟩ := sourced row member
  have follows : Follows w.types (base.at begin).silver.schema := (sectionInvariant reached).follows
  obtain ⟨⟨now, passes⟩, r, held, same⟩ | ⟨q, held, key⟩ := settled_of_completed allowed follows (completed rfl) _
    (List.mem_map_of_mem member)
  · obtain ⟨e, publishes, shown, -⟩ := publishes_of_passes h decodes passes
    exact .inl ⟨e, ⟨c, record, recorded, decodes, publishes⟩, r, mirrors.silver ▸ held, same.trans shown.eventId⟩
  · obtain ⟨q', archived, same⟩ := mirrors.quarantine q held
    refine .inr ⟨q', archived, ?_⟩
    rw [same, key]
    exact coordinates_shown h

theorem sourced_of_batchRows (staging : Staging w s) {batchId : Nat} :
    ∀ row ∈ s.batchRows c batchId, Sourced w c row := by
  intro row member
  have listed := List.mem_of_mem_take (List.mem_of_mem_drop (List.mem_of_mem_filter member))
  exact (kept_of_staging staging c).sourced row listed

/-- The batch that a trigger is given. -/
theorem inHand_of_nextBatch {planned : Nat × Frame} (owns : Owns i s c .bronzeToSilver)
    (moved : Meanwhile w i (.nextBatch c) s planned t) :
    Staging w t ∧ Owns i t c .bronzeToSilver ∧ InHand c planned.1 t ∧
      ∃ schema, ∃ h : BronzeSchema w schema, planned.2 = bronzeFrame schema h.unique (t.batchRows c planned.1) := by
  have guard : Guard w i (.nextBatch c) s := ⟨owns.running.le, fun _ => owns⟩
  obtain ⟨u, rely, staging, performed, kept⟩ := keeps_of_meanwhile guard moved
  cases performed with
  | ran running performed =>
    have alive : u.life = s.life := running.symm.trans owns.running
    have owns := rely.owns alive owns
    have staged := staging.staged c
    cases performed with
    | replayed h uncommitted =>
      have planned : (t.progress c).offsets.length = (t.progress c).commits + 1 := Nat.le_antisymm staged.upper uncommitted
      exact ⟨staging, owns, ⟨rfl, planned, staged.within _ uncommitted⟩, _, h, rfl⟩
    | @planned _ _ stop schema h done ahead present =>
      have progress := progress_plan u c stop
      refine ⟨kept.staging, owns, ⟨?_, ?_, ?_⟩, schema, h, rfl⟩
      · rw [progress]
      · rw [progress, done]
        exact List.length_append
      · rw [progress, done, startOf_stop]
        exact present

/-- **A `bronze_to_silver` query** commits settled batches. -/
theorem safe_silverQuery (triggers : Nat) (owns : Owns i s c .bronzeToSilver) :
    Safe w i (fun _ _ => True) (silverQuery w.config c triggers) s := by
  induction triggers generalizing s with
  | zero => trivial
  | succ triggers ih =>
    refine ⟨⟨owns.running.le, fun _ => owns⟩, fun planned t moved => ?_⟩
    obtain ⟨batchId, batch⟩ := planned
    obtain ⟨staging, owns, hand, schema, h, batch_eq⟩ := inHand_of_nextBatch owns moved
    have sourced : ∀ row ∈ t.batchRows c batchId, Sourced w c row := sourced_of_batchRows staging
    replace batch_eq : batch = bronzeFrame schema h.unique (t.batchRows c batchId) := batch_eq
    subst batch_eq
    have allowed (runId pipeline : String) : Allowed w (.validate (bronzeFrame schema h.unique (t.batchRows c batchId))
        runId pipeline) := fromBronze_frame h sourced
    apply Prog.Always.seq (safe_critical (allowed _ _) t)
    intro r u ended
    cases r with
    | error e => trivial
    | ok _ =>
      have alive : u.life = t.life := ended.running.symm.trans owns.running
      obtain ⟨hand, rows⟩ := hand.grows ended.leaves.grows (ended.leaves.progress c alive owns)
      have settled := settled_of_section h sourced ended
      rw [← rows] at settled
      have owns := ended.leaves.owns alive owns
      have guard : Guard w i (.commitBatch c batchId) u := ⟨owns.running.le, fun _ => ⟨owns, hand, settled⟩⟩
      refine ⟨guard, fun _ v moved => ?_⟩
      obtain ⟨x, rely, -, performed, -⟩ := keeps_of_meanwhile guard moved
      cases performed with
      | ran running performed =>
        have owns := rely.owns (running.symm.trans owns.running) owns
        cases performed with
        | commitBatch => exact ih owns

/-! ## The first stage -/

/-- **A `kafka_to_bronze` query** runs as the Bronze table has it. -/
theorem safe_kafkaQuery (triggers : Nat) (staging : Staging w s) (owns : Owns i s c .kafkaToBronze) :
    Safe w i (fun _ _ => True) ((runQuery w.config.delta w.config.spark (w.config.checkpoint c .kafkaToBronze)
      triggers).embed (Op.ingest c) fun _ a => a) s := by
  have start : (ingestion w c).begins triggers (s.ingest c) (s.ingest c) := rfl
  have guard : ∀ {o next x}, Prog.Run (IngestCall w c) ((ingestion w c).program triggers, s.ingest c)
      (.op o next, x.ingest c) → Owns i x c .kafkaToBronze → Guard w i (.ingest c o) x :=
    fun run owns => ⟨owns.running.le, fun _ => ⟨owns, _, triggers, _, staging.ingests c, ⟨_, start, run⟩⟩⟩
  have step : ∀ o next x (t : State w) a u,
      Prog.Run (IngestCall w c) ((ingestion w c).program triggers, s.ingest c) (.op o next, x) →
      Owns i t c .kafkaToBronze ∧ x = t.ingest c → Meanwhile w i (.ingest c o) t a u →
      ∃ y, IngestCall w c o x a y ∧ Owns i u c .kafkaToBronze ∧ y = u.ingest c := by
    rintro o next _ t a u run ⟨owns, rfl⟩ moved
    obtain ⟨x, rely, -, performed, -⟩ := keeps_of_meanwhile (guard run owns) moved
    cases performed with
    | ran running performed =>
      have alive : x.life = t.life := running.symm.trans owns.running
      have same := rely.ingest c alive owns
      have owns := rely.owns alive owns
      cases performed with
      | @ingest _ _ _ _ y called =>
        rw [same] at called
        exact ⟨y, called, owns, (ingested_self x c y).symm⟩
  refine (Prog.Always.traced step .refl ⟨owns, rfl⟩).mono ?_ fun _ _ _ => trivial
  rintro _ t ⟨o, next, _, rfl, run, owns, rfl⟩
  exact guard run owns

/-- A query of a thread that owns it from its start. -/
theorem safe_query {layer : Layer} (triggers : Nat)
    (mine : ∀ u, Rely w i s u → i.life = u.life → Owns i u c layer) :
    Safe w i (fun _ _ => True) (query w.config c layer triggers) s := by
  refine ⟨trivial, fun _ t moved => ?_⟩
  obtain ⟨u, rely, staging, performed, -⟩ := keeps_of_meanwhile (o := .startQuery c layer) trivial moved
  cases performed with
  | ran running performed =>
    have owns := mine u rely running
    cases performed with
    | startQuery =>
      cases layer with
      | kafkaToBronze => exact safe_kafkaQuery triggers staging owns
      | bronzeToSilver => exact safe_silverQuery triggers owns

/-- The query stops where it is told to. -/
theorem safe_run {layer : Layer} (triggers : Nat)
    (mine : ∀ u, Rely w i s u → i.life = u.life → Owns i u c layer) :
    Safe w i (fun _ _ => True) (run w.config c layer triggers) s := by
  apply Prog.Always.interruptible (R := Rely w i) _ _ _ _ _ (safe_query triggers mine)
  · exact fun _ _ _ _ => trivial
  · intro s a t moved
    obtain ⟨u, rely, -, performed, -⟩ := keeps_of_meanwhile (o := .awaitTermination) trivial moved
    cases performed with
    | ran running performed =>
      cases performed with
      | awaitTermination => exact rely
  · exact fun _ _ _ guard rely => guard.rely rely
  · rintro o s t a u rely ⟨x, staging, before, performed⟩
    exact ⟨x, staging, rely.trans before, performed⟩
  · exact fun _ _ _ _ _ => trivial

/-! ## Maintenance -/

theorem free_call {o : Op} (free : Free o) : (call o).Uses Free := ⟨free, fun _ => trivial⟩

theorem safe_retryDelete {delete : DriverM (Except PyException Unit)} (free : delete.Uses Free) (s : State w) :
    Safe w i (fun _ _ => True) (retryDelete w.config delete) s := by
  have pauses : ∀ attempt, (pauseAfter w.config attempt).Uses Free :=
    fun attempt => ⟨.random, fun _ => ⟨.sleep, fun _ => trivial⟩⟩
  refine safe_bind ?_ fun _ _ => trivial
  apply always_retry (fun _ _ => True) (fun _ _ => True) _ _ trivial
  · intro n t _ _
    apply Prog.Always.seq (safe_of_free free t)
    rintro (e | (exc | value)) u _
    · exact ⟨trivial, trivial⟩
    · exact ⟨trivial, trivial⟩
    · trivial
  · intro n t _
    refine (safe_of_free (pauses n) t).mono (fun _ _ guard => guard) ?_
    rintro (exc | ⟨⟩) u _ <;> trivial

/-- A call that returns or raises. -/
theorem free_answer {o : Op} {r : Ans o → Except PyException Unit} (free : Free o) :
    ((call o).bind fun a => Prog.ofExcept (r a)).Uses Free := ⟨free, fun _ => trivial⟩

theorem safe_deletes {items : List β} {delete : β → DriverM (Except PyException Unit)}
    (free : ∀ x, (delete x).Uses Free) (s : State w) :
    Safe w i (fun _ _ => True) (Prog.mapEach items fun x => retryDelete w.config (delete x)) s :=
  Prog.Always.mapEach (I := fun _ => True) (fun x t _ => safe_retryDelete (free x) t) items s trivial

theorem safe_housekeeping (step : String) (s : State w) :
    Safe w i (fun _ _ => True) (housekeeping w.config step) s := by
  unfold housekeeping
  split
  · exact safe_of_free (free_answer .optimize) s
  split
  · exact safe_of_free (free_answer .optimize) s
  split
  · exact safe_bind (safe_deletes (fun _ => free_call .deleteBronze) s) fun _ _ => trivial
  split
  · have vacuums := Prog.Uses.mapEach (fun table => free_answer (r := fun a => a) (@Free.vacuum table))
      ["bronze.unsubscribe_priority", "bronze.unsubscribe_legal", "silver.unsubscribe_events", "gold.unsubscribe_daily"]
    exact safe_bind (safe_of_free vacuums s) fun _ _ => trivial
  split
  · exact safe_bind (safe_deletes (fun _ => free_call .deleteMonitoring) s) fun _ _ => trivial
  · trivial

/-! ### A backfill -/

/-- A read of Bronze answers with its rows. -/
def ReadsBronze (w : Platform) : Program.Exec JobOp JobOp.Answer (State w)
  | .readBronze _, _, .ok bronze, _ => FromBronze w bronze
  | _, _, _, _ => True

/-- A backfill checks Bronze rows. -/
def ChecksBronze (w : Platform) : JobOp → State w → Prop
  | .validateAndMerge batch _ _, _ => FromBronze w batch
  | _, _ => True

theorem always_jobCall {o : JobOp} {f : o.Result → JobM α} {s : State w} (checks : ChecksBronze w o s)
    (next : ∀ a t, ReadsBronze w o s (.ok a) t →
      Prog.Always (ReadsBronze w) (ChecksBronze w) (fun _ _ => True) (f a) t) :
    Prog.Always (ReadsBronze w) (ChecksBronze w) (fun _ _ => True) (o.call.bind f) s := by
  refine ⟨checks, fun a t performed => ?_⟩
  cases a with
  | error e => trivial
  | ok a => exact next a t performed

theorem always_backfill {layer : String} {start stop : Date} {runId : String} (s : State w) :
    Prog.Always (ReadsBronze w) (ChecksBronze w) (fun _ _ => True) (Maintenance.backfill layer start stop runId) s := by
  unfold Maintenance.backfill
  split
  · trivial
  have channels : Prog.Always (ReadsBronze w) (ChecksBronze w) (fun _ _ => True)
      (Prog.mapEach (backfillChannels layer) (backfillChannel start stop runId)) s := by
    apply Prog.Always.mapEach (I := fun _ => True) _ _ s trivial
    intro channel t _
    apply always_jobCall (o := .readBronze channel) trivial
    intro bronze u read
    have read : FromBronze w bronze := read
    exact ⟨read.filter _, fun a v _ => by cases a <;> trivial⟩
  apply channels.seq
  rintro (e | done) t _
  · trivial
  apply always_jobCall (o := .readSilver) trivial
  intro silver u _
  apply always_jobCall (o := .readGold) trivial
  intro gold v _
  exact ⟨trivial, fun a x _ => by cases a <;> trivial⟩

/-- Each call of a backfill answers so. -/
theorem implements_jobCall (o : JobOp) (s : State w) (checks : ChecksBronze w o s) :
    Prog.Implements (ReadsBronze w) (Meanwhile w i) (Guard w i) o (jobCall w.config o) s := by
  cases o with
  | readBronze c =>
    refine ⟨trivial, fun a t moved => ⟨a, rfl, ?_⟩⟩
    obtain ⟨u, rely, staging, performed, -⟩ := keeps_of_meanwhile (o := .readBronze c) trivial moved
    cases performed with
    | ran running performed =>
      cases performed with
      | unread => trivial
      | readBronze h =>
        refine fromBronze_frame (c := c) h fun row member => ?_
        exact (kept_of_staging staging c).sourced row (List.mem_of_mem_filter member)
  | readSilver => exact ⟨trivial, fun a t _ => ⟨a, rfl, trivial⟩⟩
  | readGold => exact ⟨trivial, fun a t _ => ⟨a, rfl, trivial⟩⟩
  | validateAndMerge batch runId pipeline =>
    have allowed : Allowed w (.validate batch runId pipeline) := checks
    exact ((safe_critical allowed s).mono (fun _ _ guard => guard) fun r t _ => ⟨r, rfl, trivial⟩).attempt
  | refresh dates runId =>
    have allowed : Allowed w (.refresh dates runId) := trivial
    exact ((safe_critical allowed s).mono (fun _ _ guard => guard) fun r t _ => ⟨r, rfl, trivial⟩).attempt

/-! ## Requests -/

/-- Calls on the lake without the lock. -/
theorem safe_outside (p : LakeM α) (s : State w) :
    Safe w i (fun _ _ => True) (p.embed Op.outside fun _ a => a) s :=
  safe_of_free (Prog.Uses.embed (fun _ => Free.outside) p) s

theorem safe_runBackfill (args : Args) (s : State w) : Safe w i (fun _ _ => True) (runBackfill w.config args) s := by
  unfold runBackfill
  apply safe_ofExcept
  intro layer _
  apply safe_ofExcept
  intro start _
  apply safe_ofExcept
  intro stop _
  apply safe_ofExcept
  intro runId _
  exact Prog.Always.interpret (fun o s checks => implements_jobCall o s checks) (always_backfill s)

theorem safe_touchedDates (args : Args) (s : State w) : Safe w i (fun _ _ => True) (touchedDates w.config args) s := by
  unfold touchedDates
  apply safe_ofExcept
  intro start _
  apply safe_ofExcept
  intro stop _
  exact safe_outside _ s

/-- **A request** that has `batch_lock`. -/
theorem safe_execute (triggers : Nat) (args : Args) (held : s.batchLock = some i) (running : i.life = s.life) :
    Safe w i (fun _ _ => True) (execute w.config triggers args) s := by
  unfold execute
  apply safe_ofExcept
  intro action _
  split
  · trivial
  split
  · apply safe_ofExcept
    intro layer _
    refine safe_bind (safe_run triggers fun u rely alive => ?_) fun _ _ => trivial
    exact rely.owns (c := .legal) (alive.symm.trans running) ⟨held, running⟩
  split
  · refine safe_bind (safe_touchedDates args s) fun dates t => ?_
    exact safe_ofExcept fun _ _ => trivial
  split
  · apply safe_ofExcept
    intro dates _
    apply safe_ofExcept
    intro runId _
    have refreshed := safe_critical (i := i) (k := .refresh dates runId) trivial s
    exact safe_bind (refreshed.mono (fun _ _ guard => guard) fun _ _ _ => trivial) fun _ _ => trivial
  split
  · apply safe_ofExcept
    intro runId _
    exact safe_bind (safe_outside _ s) fun _ _ => trivial
  split
  · apply safe_ofExcept
    intro step _
    split
    · exact safe_bind (safe_housekeeping _ s) fun _ _ => trivial
    · trivial
  split
  · exact safe_bind (safe_runBackfill args s) fun _ _ => trivial
  · trivial

/-- The thread takes `batch_lock`. -/
theorem held_of_lockBatch {a : Unit} (moved : Meanwhile w i .lockBatch s a t) :
    t.batchLock = some i ∧ i.life = t.life := by
  obtain ⟨_, -, -, performed, -⟩ := keeps_of_meanwhile (o := .lockBatch) trivial moved
  cases performed with
  | ran running performed =>
    cases performed with
    | lockBatch free => exact ⟨rfl, running⟩

theorem safe_request (triggers : Nat) (args : Args) (s : State w) :
    Safe w i (fun _ _ => True) (request w.config triggers args) s := by
  refine ⟨trivial, fun _ t moved => ?_⟩
  obtain ⟨held, running⟩ := held_of_lockBatch moved
  apply (safe_execute triggers args held running).closes
  intro r u _
  exact ⟨trivial, fun _ _ _ => trivial⟩

/-! ## All programs -/

theorem staging_init (h : (platform w).init s) : Staging w s := by
  obtain ⟨-, -, ingest, progress, removed, ⟨t, lake⟩, archive⟩ := h
  constructor
  · intro c
    exact .init (ingest c)
  · refine ⟨World.bootstrap t, .init ⟨t, rfl⟩, ?_⟩
    rw [← lake]
    refine ⟨rfl, rfl, rfl, rfl, le_refl _, fun q held => ?_⟩
    rw [lake] at held
    cases held
  · intro q held
    rw [lake] at held
    cases held
  · intro q held
    rw [archive] at held
    cases held
  · intro c
    have start := progress c
    constructor <;> rw [start]
    · exact le_refl _
    · exact Nat.zero_le _
    · intro i planned
      cases planned
    · intro i planned
      cases Nat.le_zero.1 planned
      exact Nat.zero_le _
    · intro p skipped
      cases skipped
    · intro row below
      cases below

theorem safe_program (i : Thread) (s : State w) : Safe w i (fun _ _ => True) ((platform w).program i) s := by
  cases i with
  | boot life => exact ⟨trivial, fun _ _ _ => trivial⟩
  | stream life layer =>
    refine safe_bind (safe_query _ fun u _ running => ?_) fun _ _ => trivial
    exact congrArg (fun l => Thread.stream l layer) running
  | request life n => exact safe_request _ _ s
  | reporter life n => exact safe_bind (safe_outside _ s) fun _ _ => trivial

/-- **The driver.** -/
theorem cooperation (w : Platform) : (platform w).Cooperation (Staging w) (Rely w) (Guard w) fun _ _ _ => True where
  refl := Rely.refl
  trans _ _ _ _ := Rely.trans
  init _ := staging_init
  program i s _ := safe_program i s
  stable _ _ _ _ := Guard.rely
  keeps _ _ _ _ _ staging guard performed := (keeps_of_exec staging guard performed).staging
  guarantee _ j _ _ _ _ other staging guard performed := (keeps_of_exec staging guard performed).rely j other

theorem staging_of_reachable {threads : Thread → DriverM Reply} (h : (platform w).Reachable threads s) :
    Staging w s := (cooperation w).invariant h

/-- What a run does to the tables. -/
theorem grows_of_run {threads threads' : Thread → DriverM Reply} (reached : (platform w).Reachable threads s)
    (run : (platform w).Run threads s threads' t) : Grows s t := by
  have here : (platform w).Reachable threads' t ∧ Grows s t := by
    induction run with
    | refl => exact ⟨reached, .refl s⟩
    | step _ at_i performed ih =>
      obtain ⟨here, grows⟩ := ih
      have keeps := keeps_of_exec (staging_of_reachable here) ((cooperation w).guard here at_i) performed
      exact ⟨here.run (.step .refl at_i performed), grows.trans keeps.grows⟩
  exact here.2

end Tikblog.Driver
