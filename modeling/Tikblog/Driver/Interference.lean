import Tikblog.Driver.Staging

/-!
# What the threads of the driver do to each other

A thread owns the query it runs, and the lake while it holds `silver_gold_lock`; of the rest
it knows that it grows. `Rely` is what the others leave of this to it, `Guard` what it must
know when it performs an operation, and in return every operation keeps `Staging` and what
the others rely on.
-/

namespace Tikblog.Driver

open Python Program Analytics

variable {w : Platform} {s t u : State w} {c : Channel} {i j : Thread}

/-- The thread runs the query: its own stream, or a Legal stage while it has `batch_lock`. -/
def Owns (i : Thread) (s : State w) : Channel → Layer → Prop
  | .priority, layer => i = .stream s.life layer
  | .legal, _ => s.batchLock = some i ∧ i.life = s.life

theorem Owns.running {layer : Layer} (owns : Owns i s c layer) : i.life = s.life := by
  cases c with
  | priority => exact congrArg Thread.life owns
  | legal => exact owns.2

theorem Owns.unique {layer : Layer} (owns : Owns i s c layer) (other : Owns j s c layer) : i = j := by
  cases c with
  | priority => exact owns.trans other.symm
  | legal => exact Option.some.inj (owns.1.symm.trans other.1)

/-- What is left to a thread of the running driver: its query, and `batch_lock`. -/
structure Leaves (i : Thread) (s t : State w) : Prop where
  grows : Grows s t
  batchLock : i.life = s.life → t.life = s.life → s.batchLock = some i → t.batchLock = some i
  ingest : ∀ c, t.life = s.life → Owns i s c .kafkaToBronze → t.ingest c = s.ingest c
  progress : ∀ c, t.life = s.life → Owns i s c .bronzeToSilver → t.progress c = s.progress c

theorem Leaves.refl (i : Thread) (s : State w) : Leaves i s s :=
  ⟨.refl s, fun _ _ held => held, fun _ _ _ => rfl, fun _ _ _ => rfl⟩

theorem Leaves.owns {layer : Layer} (h : Leaves i s t) (alive : t.life = s.life) (owns : Owns i s c layer) :
    Owns i t c layer := by
  cases c with
  | priority =>
    show i = .stream t.life layer
    rw [alive]
    exact owns
  | legal => exact ⟨h.batchLock owns.2 alive owns.1, owns.2.trans alive.symm⟩

/-- A driver that runs at the end ran in between. -/
theorem Grows.same_life (st : Grows s t) (tu : Grows t u) (alive : u.life = s.life) :
    t.life = s.life ∧ u.life = t.life := by
  have first := st.life
  have second := tu.life
  omega

theorem Leaves.trans (st : Leaves i s t) (tu : Leaves i t u) : Leaves i s u := by
  have between := st.grows.same_life tu.grows
  refine ⟨st.grows.trans tu.grows, ?_, ?_, ?_⟩
  · intro running alive held
    obtain ⟨first, second⟩ := between alive
    exact tu.batchLock (running.trans first.symm) second (st.batchLock running first held)
  · intro c alive owns
    obtain ⟨first, second⟩ := between alive
    exact (tu.ingest c second (st.owns first owns)).trans (st.ingest c first owns)
  · intro c alive owns
    obtain ⟨first, second⟩ := between alive
    exact (tu.progress c second (st.owns first owns)).trans (st.progress c first owns)

/-- What the other threads leave to a thread: also the tables, while it has
`silver_gold_lock`. -/
structure Rely (w : Platform) (i : Thread) (s t : State w) : Prop extends Leaves i s t where
  silverGoldLock : i.life = s.life → t.life = s.life → s.silverGoldLock = some i →
    t.silverGoldLock = some i ∧ Hushed s t

theorem Rely.refl (i : Thread) (s : State w) : Rely w i s s :=
  ⟨.refl i s, fun _ _ held => ⟨held, rfl, rfl, rfl, rfl⟩⟩

theorem Rely.trans (st : Rely w i s t) (tu : Rely w i t u) : Rely w i s u := by
  refine ⟨st.toLeaves.trans tu.toLeaves, ?_⟩
  intro running alive held
  obtain ⟨first, second⟩ := st.grows.same_life tu.grows alive
  obtain ⟨held, quiet⟩ := st.silverGoldLock running first held
  obtain ⟨held, still⟩ := tu.silverGoldLock (running.trans first.symm) second held
  exact ⟨held, still.silver.trans quiet.silver, still.gold.trans quiet.gold, still.inserted.trans quiet.inserted,
    still.checkedAt.trans quiet.checkedAt⟩

/-! ## What a thread knows -/

/-- Known while the driver of the thread runs. -/
structure Running (i : Thread) (s : State w) (P : Prop) : Prop where
  started : i.life ≤ s.life
  knows : i.life = s.life → P

/-- The thread is at the operation `o` of a query of Kafka. -/
def AtIngest (s : State w) (c : Channel) (o : IngestOp) : Prop :=
  ∃ base triggers k, (ingestion w c).Reachable base ∧ (ingestion w c).Session triggers base (.op o k) (s.ingest c)

/-- The thread is at the operation `o` of a critical section. -/
def AtSection (s : State w) (k : Call) (o : LakeOp) : Prop :=
  ∃ base v next, (sections w).Reachable base ∧ (sections w).Session k base (.op o next) v ∧ Mirrors v s

/-- What a thread must know to perform an operation. -/
def Guard (w : Platform) (i : Thread) : Op → State w → Prop
  | .ingest c o, s => Running i s (Owns i s c .kafkaToBronze ∧ AtIngest s c o)
  | .acquire k, _ => Allowed w k
  | .inside k o, s => Running i s (s.silverGoldLock = some i ∧ AtSection s k o)
  | .nextBatch c, s => Running i s (Owns i s c .bronzeToSilver)
  | .commitBatch c batchId, s => Running i s (Owns i s c .bronzeToSilver ∧ InHand c batchId s ∧
      ∀ row ∈ s.batchRows c batchId, Settled s row)
  | _, _ => True

theorem Running.rely {P Q : Prop} (h : Running i s P) (rely : Rely w i s t)
    (kept : i.life = s.life → t.life = s.life → P → Q) : Running i t Q := by
  refine ⟨h.started.trans rely.grows.life, fun running => ?_⟩
  have started := h.started
  have life := rely.grows.life
  have alive : t.life = s.life := by omega
  exact kept (running.trans alive) alive (h.knows (running.trans alive))

theorem AtSection.rely {k : Call} {o : LakeOp} (h : AtSection s k o) (hushed : Hushed s t) (grows : Grows s t) :
    AtSection t k o := by
  obtain ⟨base, v, next, reached, session, mirrors⟩ := h
  exact ⟨base, v, next, reached, session, mirrors.hushed hushed grows⟩

/-- The rows of a batch in hand stay its rows. -/
theorem InHand.grows {batchId : Nat} (h : InHand c batchId s) (grows : Grows s t)
    (progress : t.progress c = s.progress c) :
    InHand c batchId t ∧ t.batchRows c batchId = s.batchRows c batchId := by
  refine ⟨⟨progress ▸ h.commits, progress ▸ h.planned, ?_⟩, ?_⟩
  · rw [progress]
    exact h.within.trans (grows.rows c).length_le
  · unfold State.batchRows
    dsimp only
    rw [progress, take_prefix (grows.rows c) h.within]

theorem Guard.rely {o : Op} (h : Guard w i o s) (rely : Rely w i s t) : Guard w i o t := by
  cases o with
  | ingest c o =>
    refine Running.rely h rely fun running alive known => ?_
    obtain ⟨owns, at_op⟩ := known
    refine ⟨rely.owns alive owns, ?_⟩
    unfold AtIngest
    rw [rely.ingest c alive owns]
    exact at_op
  | acquire k => exact h
  | inside k o =>
    refine Running.rely h rely fun running alive known => ?_
    obtain ⟨held, at_op⟩ := known
    obtain ⟨held, hushed⟩ := rely.silverGoldLock running alive held
    exact ⟨held, at_op.rely hushed rely.grows⟩
  | nextBatch c => exact Running.rely h rely fun _ alive owns => rely.owns alive owns
  | commitBatch c batchId =>
    refine Running.rely h rely fun _ alive known => ?_
    obtain ⟨owns, hand, settled⟩ := known
    obtain ⟨hand, same⟩ := hand.grows rely.grows (rely.progress c alive owns)
    refine ⟨rely.owns alive owns, hand, ?_⟩
    rw [same]
    exact fun row member => (settled row member).grows rely.grows
  | _ => trivial

/-! ## Operations -/

/-- An operation of the thread `i` that leaves the tables and the queries as they are, and the
locks of the others. -/
structure Harmless (i : Thread) (s t : State w) : Prop where
  apart : Apart s t
  life : s.life ≤ t.life
  ingest : t.ingest = s.ingest
  progress : t.progress = s.progress
  removed : ∀ c, ∀ p ∈ s.removed c, p ∈ t.removed c
  batchLock : ∀ j, i ≠ j → t.life = s.life → s.batchLock = some j → t.batchLock = some j
  silverGoldLock : ∀ j, i ≠ j → t.life = s.life → s.silverGoldLock = some j → t.silverGoldLock = some j

/-- What an operation of the thread `i` keeps. -/
structure Keeps (i : Thread) (s t : State w) : Prop where
  staging : Staging w t
  grows : Grows s t
  rely : ∀ j, i ≠ j → Rely w j s t

theorem Harmless.keeps (h : Harmless i s t) (staging : Staging w s) : Keeps i s t := by
  have grows : Grows s t := h.apart.grows h.life fun c => h.ingest ▸ List.prefix_rfl
  have staged : ∀ c, Staged c t := fun c => (staging.staged c).grows grows (congrFun h.progress c) (h.removed c)
  have staging := staging.moved h.apart grows (h.ingest ▸ staging.ingests) staged
  refine ⟨staging, grows, fun j other => ⟨⟨grows, ?_, ?_, ?_⟩, ?_⟩⟩
  · exact fun _ alive held => h.batchLock j other alive held
  · exact fun c _ _ => congrFun h.ingest c
  · exact fun c _ _ => congrFun h.progress c
  · exact fun _ alive held => ⟨h.silverGoldLock j other alive held, h.apart.hushed⟩

theorem Harmless.refl (i : Thread) (s : State w) : Harmless i s s where
  apart := .of_lake rfl rfl
  life := le_refl _
  ingest := rfl
  progress := rfl
  removed _ _ held := held
  batchLock _ _ _ held := held
  silverGoldLock _ _ _ held := held

/-- A call without the lock writes to the monitoring tables at most. -/
theorem Outside.quiet {o : LakeOp} {a : o.Answer} {x y : World} (outside : Outside o)
    (performed : LakeExec "" o x a y) : Quiet x y := by
  cases outside with
  | reporting reporting => exact performed.quiet reporting
  | readSilver | readGold =>
    cases performed with
    | raised => exact .refl x
    | answered took | lost took =>
      cases took
      exact .refl x
  | freshness =>
    cases performed with
    | raised => exact .refl x
    | answered took | lost took =>
      cases took with
      | currentTimestamp later => exact ⟨rfl, rfl, rfl, rfl, rfl, later⟩

theorem apart_of_quiet {lake : World} (quiet : Quiet s.lake lake) : Apart s { s with lake := lake } where
  silver := quiet.silver
  gold := quiet.gold
  inserted := quiet.inserted
  checkedAt := quiet.checkedAt
  clock := quiet.clock
  archive := rfl
  quarantine _ held := quiet.quarantine ▸ held

/-- Housekeeping deletes monitoring rows and nothing else of the lake. -/
theorem apart_deleteMonitoring {now : Instant} {days : Int} (table : MonitoringTable) (later : s.lake.clock ≤ now) :
    Apart s { s with lake := World.deleteMonitoring (s.lake.at now) now days table } := by
  cases table with
  | dqQuarantine => exact ⟨rfl, rfl, rfl, rfl, later, rfl, fun _ held => List.mem_of_mem_filter held⟩
  | dqResults | pipelineMetrics | alertEvents => exact ⟨rfl, rfl, rfl, rfl, later, rfl, fun _ held => held⟩

/-! ### A call of a critical section -/

/-- The rows that a call adds to the quarantine are those it is given. -/
theorem mem_of_archived {runId : String} {o : LakeOp} {a : o.Answer} {x y : World}
    (performed : LakeExec runId o x a y) {q : QuarantineRow} (added : q ∈ y.quarantine.drop x.quarantine.length) :
    ∃ rows, o = .insertQuarantine rows ∧ q ∈ rows := by
  have unchanged : y.quarantine = x.quarantine → ∃ rows, o = .insertQuarantine rows ∧ q ∈ rows := by
    intro same
    rw [same, List.drop_length] at added
    cases added
  cases performed with
  | raised => exact unchanged rfl
  | answered took | lost took =>
    cases took with
    | @insertQuarantine rows =>
      rw [Table.insertNew, List.drop_left] at added
      exact ⟨rows, rfl, (Table.mem_newRows.1 added).1⟩
    | _ => exact unchanged rfl

/-- A pair that is stale after a call of a section was so before, if Silver has what it had
of it. -/
theorem stale_of_performed {env : Env} {k : Call} {runId : String} {o : LakeOp} {a : o.Answer} {x y : World}
    (storing : Storing env k o x) (performed : LakeExec runId o x a y) {p : Pair} (stale : Stale y p)
    (same : rowsOf y.silver.rows p = rowsOf x.silver.rows p) : Stale x p := by
  have quiet : y.silver = x.silver → y.gold = x.gold → Stale x p := by
    intro silver gold
    unfold Stale at *
    rwa [gold, silver] at stale
  cases performed with
  | raised => exact stale
  | answered took | lost took =>
    cases took with
    | mergeSilver mergeable =>
      intro right
      apply stale
      unfold aggregateAt at *
      rw [same]
      exact right
    | overwriteGold listed =>
      obtain ⟨updatedAt, rfl⟩ := storing
      exact stale_of_overwritten stale
    | _ => exact quiet rfl rfl

theorem Storing.congr {env : Env} {k : Call} {o : LakeOp} {x y : World} (storing : Storing env k o x)
    (silver : x.silver = y.silver) : Storing env k o y := by
  cases o with
  | insertQuarantine rows =>
    obtain ⟨batch, runId, pipeline, now, quarantinedAt, call, rows⟩ := storing
    refine ⟨batch, runId, pipeline, now, quarantinedAt, call, rows.trans ?_⟩
    rw [conformed, conformed, silver]
  | overwriteGold dates rows =>
    obtain ⟨updatedAt, rows⟩ := storing
    exact ⟨updatedAt, rows.trans (by rw [silver])⟩
  | _ => trivial

/-- **A call under the lock** goes on with a history of critical sections. -/
theorem keeps_inside {k : Call} {o : LakeOp} {a : o.Answer} {lake : World} (staging : Staging w s)
    (held : s.silverGoldLock = some i) (at_op : AtSection s k o) (performed : LakeExec k.runId o s.lake a lake) :
    Keeps i s (s.within lake) := by
  obtain ⟨base, v, next, reached, session, mirrors⟩ := at_op
  have here := sectionInvariant (reached.session session)
  obtain ⟨v', own, mirrors'⟩ := mirrors.performs staging.archives performed
  obtain ⟨s₀, begins, run⟩ := session
  have allowed : Allowed w k := begins.1
  have storing : Storing w.config.env k o s.lake := ((storing_section k s₀).guard_of_run run).congr mirrors.silver
  have follows : Follows w.types s.lake.silver.schema := mirrors.silver ▸ here.follows
  have grows : Grows s (s.within lake) := by
    refine ⟨le_refl _, ?_, performed.extends, fun q old => List.mem_append_left _ old, fun _ => List.prefix_rfl, ?_⟩
    · exact clock_le performed
    · exact fun p stale same => stale_of_performed storing performed stale same
  refine ⟨⟨staging.ingests, ⟨v', ?_, mirrors'⟩, staging.archives.within performed, ?_, ?_⟩, grows, fun j other => ?_⟩
  · exact reached.session ⟨s₀, begins, run.tail (.op own)⟩
  · intro q archived
    obtain old | added := List.mem_append.1 archived
    · exact staging.rejections q old
    · obtain ⟨rows, rfl, listed⟩ := mem_of_archived performed added
      exact rejection_of_storing allowed follows storing q listed
  · exact fun c => (staging.staged c).grows grows rfl fun _ removed => removed
  · refine ⟨⟨grows, fun _ _ kept => kept, fun _ _ _ => rfl, fun _ _ _ => rfl⟩, fun _ _ holds => ?_⟩
    exact absurd (Option.some.inj (held.symm.trans holds)) other

/-! ### A call of a query -/

theorem prefix_rows {o : IngestOp} {a : o.Answer} {x y : Ingestion (w.topic c)} (performed : IngestCall w c o x a y) :
    x.rows <+: y.rows := by
  obtain ⟨⟨z, arrives, step⟩, -, -⟩ := performed
  have same : z.rows = x.rows := by rw [arrives.2]
  rw [← same]
  cases step with
  | appended fresh | appendLost fresh => exact List.prefix_append _ _
  | _ => exact List.prefix_rfl

theorem ingested_self (s : State w) (c : Channel) (x : Ingestion (w.topic c)) : (s.ingested c x).ingest c = x :=
  Function.update_self ..

theorem ingested_of_ne (s : State w) {c c' : Channel} (other : c' ≠ c) (x : Ingestion (w.topic c)) :
    (s.ingested c x).ingest c' = s.ingest c' := Function.update_of_ne other ..

/-- **A call of a query of Kafka** goes on with its own run. -/
theorem keeps_ingest {o : IngestOp} {a : o.Answer} {x : Ingestion (w.topic c)} (staging : Staging w s)
    (owns : Owns i s c .kafkaToBronze) (at_op : AtIngest s c o) (performed : IngestCall w c o (s.ingest c) a x) :
    Keeps i s (s.ingested c x) := by
  have rows : ∀ c', (s.ingest c').rows <+: ((s.ingested c x).ingest c').rows := by
    intro c'
    by_cases same : c' = c
    · subst same
      rw [ingested_self]
      exact prefix_rows performed
    · rw [ingested_of_ne s same]
  have apart : Apart s (s.ingested c x) := .of_lake rfl rfl
  have grows : Grows s (s.ingested c x) := apart.grows (le_refl _) rows
  refine ⟨staging.moved apart grows (fun c' => ?_) fun c' => ?_, grows, fun j other => ?_⟩
  · by_cases same : c' = c
    · subst same
      rw [ingested_self]
      obtain ⟨base, triggers, k, reached, s₀, begins, run⟩ := at_op
      exact reached.session ⟨s₀, begins, run.tail (.op performed)⟩
    · rw [ingested_of_ne s same]
      exact staging.ingests c'
  · exact (staging.staged c').grows grows rfl fun _ removed => removed
  · refine ⟨⟨grows, fun _ _ kept => kept, fun c' _ mine => ?_, fun _ _ _ => rfl⟩,
      fun _ _ holds => ⟨holds, rfl, rfl, rfl, rfl⟩⟩
    by_cases same : c' = c
    · subst same
      exact absurd (owns.unique mine) other
    · exact ingested_of_ne s same x

/-- The logs of a `bronze_to_silver` query are written by the thread that runs it. -/
theorem keeps_progress (staging : Staging w s) (owns : Owns i s c .bronzeToSilver) (lake : t.lake = s.lake)
    (archive : t.archive = s.archive) (life : t.life = s.life) (ingest : t.ingest = s.ingest)
    (locks : t.batchLock = s.batchLock ∧ t.silverGoldLock = s.silverGoldLock) (removed : t.removed = s.removed)
    (others : ∀ c', c' ≠ c → t.progress c' = s.progress c') (staged : Staged c t) : Keeps i s t := by
  have apart : Apart s t := .of_lake lake archive
  have grows : Grows s t := apart.grows life.ge fun c => ingest ▸ List.prefix_rfl
  refine ⟨staging.moved apart grows (ingest ▸ staging.ingests) fun c' => ?_, grows, fun j other => ?_⟩
  · by_cases same : c' = c
    · exact same ▸ staged
    · exact (staging.staged c').grows grows (others c' same) fun _ held => removed ▸ held
  · refine ⟨⟨grows, fun _ _ kept => locks.1.trans kept, fun c' _ _ => congrFun ingest c', fun c' _ mine => ?_⟩,
      fun _ _ holds => ⟨locks.2.trans holds, apart.hushed⟩⟩
    by_cases same : c' = c
    · subst same
      exact absurd (owns.unique mine) other
    · exact others c' same

/-! ### Every operation -/

theorem keeps_nextBatch {stop : Nat} (staging : Staging w s) (owns : Owns i s c .bronzeToSilver)
    (done : (s.progress c).commits = (s.progress c).offsets.length)
    (ahead : (s.progress c).startOf (s.progress c).commits ≤ stop) (present : stop ≤ (s.ingest c).rows.length) :
    Keeps i s (s.plan c stop) :=
  keeps_progress staging owns rfl rfl rfl rfl ⟨rfl, rfl⟩ rfl (fun _ other => Function.update_of_ne other ..)
    ((staging.staged c).plan done ahead present)

theorem keeps_commitBatch {batchId : Nat} (staging : Staging w s) (owns : Owns i s c .bronzeToSilver)
    (hand : InHand c batchId s) (settled : ∀ row ∈ s.batchRows c batchId, Settled s row) :
    Keeps i s (s.commitBatch c batchId) :=
  keeps_progress staging owns rfl rfl rfl rfl ⟨rfl, rfl⟩ rfl (fun _ other => Function.update_of_ne other ..)
    ((staging.staged c).commit hand settled)

/-- The thread takes or gives back `batch_lock`. -/
theorem harmless_batchLock {held : Option Thread} (mine : ∀ j, i ≠ j → s.batchLock ≠ some j) :
    Harmless i s { s with batchLock := held } where
  apart := .of_lake rfl rfl
  life := le_refl _
  ingest := rfl
  progress := rfl
  removed _ _ gone := gone
  batchLock j other _ holds := absurd holds (mine j other)
  silverGoldLock _ _ _ holds := holds

theorem harmless_lake {lake : World} (apart : Apart s { s with lake := lake }) : Harmless i s { s with lake := lake } where
  apart := apart
  life := le_refl _
  ingest := rfl
  progress := rfl
  removed _ _ gone := gone
  batchLock _ _ _ holds := holds
  silverGoldLock _ _ _ holds := holds

theorem harmless_acquire {begin : Instant} (free : s.silverGoldLock = none) (ticked : s.lake.clock < begin) :
    Harmless i s { s with silverGoldLock := some i, lake := s.lake.at begin } where
  apart := ⟨rfl, rfl, rfl, rfl, ticked.le, rfl, fun _ held => held⟩
  life := le_refl _
  ingest := rfl
  progress := rfl
  removed _ _ gone := gone
  batchLock _ _ _ holds := holds
  silverGoldLock j _ _ holds := by
    rw [free] at holds
    cases holds

theorem harmless_release (mine : s.silverGoldLock = some i) : Harmless i s { s with silverGoldLock := none } where
  apart := .of_lake rfl rfl
  life := le_refl _
  ingest := rfl
  progress := rfl
  removed _ _ gone := gone
  batchLock _ _ _ holds := holds
  silverGoldLock _ other _ holds := absurd (Option.some.inj (mine.symm.trans holds)) other

theorem harmless_deleteBronze {c : Channel} {now : Instant} {days : Int} (later : s.lake.clock ≤ now) :
    Harmless i s ({ s with lake := s.lake.at now }.deleteBronze c now days) where
  apart := ⟨rfl, rfl, rfl, rfl, later, rfl, fun _ held => held⟩
  life := le_refl _
  ingest := rfl
  progress := rfl
  removed c' p gone := by
    show p ∈ Function.update s.removed c _ c'
    by_cases same : c' = c
    · subst same
      rw [Function.update_self]
      exact List.mem_append_left _ gone
    · rw [Function.update_of_ne same]
      exact gone
  batchLock _ _ _ holds := holds
  silverGoldLock _ _ _ holds := holds

/-- A new driver holds no lock and runs no query. -/
theorem harmless_started {life : Nat} (older : s.life < life) :
    Harmless i s { s with life := life, batchLock := none, silverGoldLock := none } where
  apart := .of_lake rfl rfl
  life := older.le
  ingest := rfl
  progress := rfl
  removed _ _ gone := gone
  batchLock _ _ alive _ := absurd alive older.ne'
  silverGoldLock _ _ alive _ := absurd alive older.ne'

theorem keeps_of_threadExec {o : Op} {a : Ans o} (staging : Staging w s) (guard : Guard w i o s)
    (running : i.life = s.life) (performed : ThreadExec w i o s a t) : Keeps i s t := by
  cases performed with
  | lockBatch free =>
    refine (harmless_batchLock fun j _ => ?_).keeps staging
    rw [free]
    exact fun held => nomatch held
  | unlockBatch held =>
    refine (harmless_batchLock fun j other => ?_).keeps staging
    rw [held]
    exact fun same => other (Option.some.inj same)
  | acquire free ticked => exact (harmless_acquire free ticked).keeps staging
  | release held => exact (harmless_release held).keeps staging
  | inside held performed => exact keeps_inside staging held (guard.knows running).2 performed
  | outside outside performed => exact (harmless_lake (apart_of_quiet (outside.quiet performed))).keeps staging
  | ingest performed =>
    obtain ⟨owns, at_op⟩ := guard.knows running
    exact keeps_ingest staging owns at_op performed
  | planned h done ahead present => exact keeps_nextBatch staging (guard.knows running) done ahead present
  | commitBatch =>
    obtain ⟨owns, hand, settled⟩ := guard.knows running
    exact keeps_commitBatch staging owns hand settled
  | deleteBronze later => exact (harmless_deleteBronze later).keeps staging
  | deleteMonitoring later => exact (harmless_lake (apart_deleteMonitoring _ later)).keeps staging
  | _ => exact (Harmless.refl i s).keeps staging

/-- **Every operation** keeps what the driver keeps, and what the other threads rely on. -/
theorem keeps_of_exec {o : Op} {a : Ans o} (staging : Staging w s) (guard : Guard w i o s)
    (performed : Exec w i o s a t) : Keeps i s t := by
  cases performed with
  | started older => exact (harmless_started older).keeps staging
  | ran running performed => exact keeps_of_threadExec staging guard running performed

end Tikblog.Driver
