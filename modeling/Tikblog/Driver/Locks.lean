import Tikblog.Program.Discipline
import Tikblog.Driver.Cooperation

/-!
# The locks of the driver

A `/run` request takes `batch_lock`, and whoever writes Silver or Gold takes
`silver_gold_lock`, inside `batch_lock` or without it. Whatever a job raises, it gives both
back; so no lock outlives its thread, and the driver does not come to a standstill: where one
thread has to wait, some thread can go on.
-/

namespace Tikblog.Driver

open Python Program Analytics

variable {w : Platform} {s t : State w} {i j : Thread} {threads : Thread → DriverM Reply} {α β : Type}

/-- The locks that a thread holds. -/
structure Locks where
  batch : Bool
  silverGold : Bool

def Locks.after : Op → Locks → Locks
  | .lockBatch, x => { x with batch := true }
  | .unlockBatch, x => { x with batch := false }
  | .acquire _, x => { x with silverGold := true }
  | .release, x => { x with silverGold := false }
  | _, x => x

/-- With `silver_gold_lock` a thread calls the lake and gives the lock back; it never takes a
lock that it has, or `batch_lock` when it has the other one. -/
def InOrder : Op → Locks → Prop
  | .start, x | .lockBatch, x => x = ⟨false, false⟩
  | .unlockBatch, x => x = ⟨true, false⟩
  | .inside .., x | .release, x => x.silverGold = true
  | .outside o, x => Outside o ∧ x.silverGold = false
  | _, x => x.silverGold = false

/-! ## The jobs keep to the order -/

/-- A job leaves `batch_lock` alone, and holds the locks at its end that it held before. -/
abbrev Orderly (x : Locks) (p : DriverM α) : Prop :=
  Prog.Balanced Locks.after (fun o y => InOrder o y ∧ y.batch = x.batch) x p

/-- The operations that have nothing to do with the locks. -/
def Lockless : Op → Prop
  | .start | .lockBatch | .unlockBatch | .acquire _ | .release | .inside .. => False
  | .outside o => Outside o
  | _ => True

section Jobs

variable {cfg : Config} {x : Locks}

theorem orderly_of_lockless {p : DriverM α} (uses : p.Uses Lockless) (free : x.silverGold = false) : Orderly x p := by
  apply Prog.Balanced.of_uses uses
  · intro o lockless
    cases o <;> first | rfl | exact lockless.elim
  · intro o lockless
    refine ⟨?_, rfl⟩
    cases o with
    | outside o => exact ⟨lockless, free⟩
    | _ => first | exact free | exact lockless.elim

theorem orderly_critical (k : Call) (free : x.silverGold = false) : Orderly x (critical cfg k) := by
  refine ⟨⟨free, rfl⟩, ?_⟩
  rintro _ _ rfl
  have calls : ((k.program cfg.env).embed (Op.inside k) fun _ a => a : DriverM Unit).Uses fun o => ∃ o', o = Op.inside k o' :=
    Prog.Uses.embed (fun o => ⟨o, rfl⟩) _
  have inside : Orderly ⟨x.batch, true⟩ ((k.program cfg.env).embed (Op.inside k) fun _ a => a : DriverM Unit) := by
    apply Prog.Balanced.of_uses calls
    · rintro _ ⟨o, rfl⟩
      rfl
    · rintro _ ⟨o, rfl⟩
      exact ⟨rfl, rfl⟩
  apply Prog.Always.closes inside
  rintro r _ rfl
  refine ⟨⟨rfl, rfl⟩, ?_⟩
  rintro _ _ rfl
  show Locks.mk x.batch false = x
  rw [← free]

theorem orderly_query (c : Channel) (layer : Layer) (triggers : Nat) (free : x.silverGold = false) :
    Orderly x (query cfg c layer triggers) := by
  have start : Orderly x (call (.startQuery c layer)) := orderly_of_lockless ⟨trivial, fun _ => trivial⟩ free
  refine start.bind fun _ => ?_
  cases layer with
  | kafkaToBronze => exact orderly_of_lockless (Prog.Uses.embed (fun _ => trivial) _) free
  | bronzeToSilver =>
    induction triggers with
    | zero => rfl
    | succ triggers ih =>
      have next : Orderly x (call (.nextBatch c)) := orderly_of_lockless ⟨trivial, fun _ => trivial⟩ free
      have commit : ∀ batchId, Orderly x (call (.commitBatch c batchId)) :=
        fun batchId => orderly_of_lockless ⟨trivial, fun _ => trivial⟩ free
      refine next.bind fun batch => ?_
      refine (orderly_critical _ free).bind fun _ => ?_
      exact (commit batch.1).bind fun _ => ih

theorem orderly_run (c : Channel) (layer : Layer) (triggers : Nat) (free : x.silverGold = false) :
    Orderly x (run cfg c layer triggers) := by
  have points : ∀ o (y : Locks), o.stops = true → InOrder o y → y.silverGold = false := by
    intro o y point order
    cases o <;> first | exact order | cases point
  apply Prog.Always.interruptible (R := fun y z => z = y) _ _ _ _ _ (orderly_query c layer triggers free)
  · exact fun o y point order => ⟨points o y point order.1, order.2⟩
  · exact fun _ _ _ moved => moved
  · rintro o y _ guard rfl
    exact guard
  · rintro o y _ a z rfl moved
    exact moved
  · rintro o y e point ⟨order, batch⟩
    have silverGold := points o y point order
    show y = x
    cases x
    cases y
    cases batch
    cases free
    cases silverGold
    rfl

theorem orderly_retryDelete {delete : DriverM (Except PyException Unit)} (lockless : delete.Uses Lockless)
    (free : x.silverGold = false) : Orderly x (retryDelete cfg delete) := by
  have pauses : ∀ attempt, Orderly x (pauseAfter cfg attempt) :=
    fun attempt => orderly_of_lockless ⟨trivial, fun _ => ⟨trivial, fun _ => trivial⟩⟩ free
  refine Prog.Balanced.bind ?_ fun _ => rfl
  apply always_retry (fun _ y => y = x) (fun _ y => y = x) _ _ rfl
  · rintro n _ _ rfl
    apply Prog.Always.seq (orderly_of_lockless lockless free)
    rintro (e | (exc | value)) _ rfl
    · exact ⟨rfl, rfl⟩
    · exact ⟨rfl, rfl⟩
    · rfl
  · rintro n _ rfl
    refine (pauses n).mono (fun _ _ guard => guard) ?_
    rintro (exc | ⟨⟩) _ rfl <;> rfl

theorem orderly_housekeeping (step : String) (free : x.silverGold = false) : Orderly x (housekeeping cfg step) := by
  have answer : ∀ {o : Op} {r : Ans o → Except PyException Unit}, Lockless o →
      Orderly x ((call o).bind fun a => Prog.ofExcept (r a)) :=
    fun lockless => orderly_of_lockless ⟨lockless, fun _ => trivial⟩ free
  unfold housekeeping
  split
  · exact answer (r := fun a => a) trivial
  split
  · exact answer (r := fun a => a) trivial
  split
  · have deletes : ∀ c, Orderly x (retryDelete cfg (call (.deleteBronze c cfg.bronzeRetentionDays))) :=
      fun c => orderly_retryDelete ⟨trivial, fun _ => trivial⟩ free
    exact (Prog.Balanced.mapEach deletes _).bind fun _ => rfl
  split
  · have vacuums : ∀ table, Orderly x ((call (.vacuum table)).bind fun a => Prog.ofExcept a) :=
      fun table => answer trivial
    exact (Prog.Balanced.mapEach vacuums _).bind fun _ => rfl
  split
  · have deletes : ∀ table, Orderly x (retryDelete cfg (call (.deleteMonitoring table cfg.monitoringRetentionDays))) :=
      fun table => orderly_retryDelete ⟨trivial, fun _ => trivial⟩ free
    exact (Prog.Balanced.mapEach deletes _).bind fun _ => rfl
  · rfl

theorem orderly_jobCall (o : JobOp) (free : x.silverGold = false) : Orderly x (jobCall cfg o) := by
  cases o with
  | readBronze c => exact orderly_of_lockless ⟨trivial, fun _ => trivial⟩ free
  | readSilver => exact orderly_of_lockless ⟨Outside.readSilver, fun _ => trivial⟩ free
  | readGold => exact orderly_of_lockless ⟨Outside.readGold, fun _ => trivial⟩ free
  | validateAndMerge batch runId pipeline => exact (orderly_critical _ free).attempt
  | refresh dates runId => exact (orderly_critical _ free).attempt

/-- A call without the lock. -/
theorem orderly_outside {p : LakeM α} (uses : p.Uses Outside) (free : x.silverGold = false) :
    Orderly x (p.embed Op.outside fun _ a => a : DriverM α) := by
  apply orderly_of_lockless _ free
  induction p with
  | done r => trivial
  | op o k ih => exact ⟨uses.1, fun a => ih a (uses.2 a)⟩

theorem outside_touched (env : Env) (start stop : Instant) : (touched env start stop).Uses Outside :=
  Prog.Uses.bind (uses_call .readSilver) fun _ => Prog.Uses.bind (uses_call .readGold) fun _ => trivial

theorem outside_freshness (env : Env) (runId : String) : (freshness env runId).Uses Outside := by
  have reports : ∀ {β : Type} {p : LakeM β}, p.Uses Reporting → p.Uses Outside := fun uses => uses.mono fun _ => .reporting
  have clock : ∀ {β : Type} (f : Instant → β), ((Analytics.call .utcnow).bind fun t => .done (.ok (f t))).Uses Outside :=
    fun f => Prog.Uses.bind (uses_call (.reporting .utcnow)) fun _ => trivial
  unfold freshness
  apply Prog.Uses.bind (uses_call .readSilver)
  intro silver
  apply Prog.Uses.bind (uses_call .readGold)
  intro gold
  apply Prog.Uses.bind (uses_call .freshness)
  intro now
  apply Prog.Uses.bind (Prog.Uses.mapEach (fun source => clock _) _)
  intro rows
  apply Prog.Uses.bind (reports (uses_writeMetrics ..))
  intro _
  refine Prog.Uses.bind (Prog.Uses.mapEach ?_ _) fun results => reports (uses_writeDq ..)
  intro r
  exact Prog.Uses.bind (clock _) fun _ => trivial

theorem orderly_runBackfill (args : Args) (free : x.silverGold = false) : Orderly x (runBackfill cfg args) := by
  unfold runBackfill
  refine Prog.Balanced.ofExcept fun layer => ?_
  refine Prog.Balanced.ofExcept fun start => ?_
  refine Prog.Balanced.ofExcept fun stop => ?_
  refine Prog.Balanced.ofExcept fun runId => ?_
  exact Prog.Balanced.interpret (fun o => orderly_jobCall o free) _

theorem orderly_touchedDates (args : Args) (free : x.silverGold = false) : Orderly x (touchedDates cfg args) := by
  unfold touchedDates
  refine Prog.Balanced.ofExcept fun start => ?_
  refine Prog.Balanced.ofExcept fun stop => ?_
  exact orderly_outside (outside_touched ..) free

/-- **Every job** of `execute`. -/
theorem orderly_execute (triggers : Nat) (args : Args) (free : x.silverGold = false) :
    Orderly x (execute cfg triggers args) := by
  unfold execute
  refine Prog.Balanced.ofExcept fun action => ?_
  split
  · rfl
  split
  · refine Prog.Balanced.ofExcept fun layer => ?_
    exact (orderly_run _ _ _ free).bind fun _ => rfl
  split
  · refine (orderly_touchedDates args free).bind fun dates => ?_
    exact Prog.Balanced.ofExcept fun _ => rfl
  split
  · refine Prog.Balanced.ofExcept fun dates => ?_
    refine Prog.Balanced.ofExcept fun runId => ?_
    exact (orderly_critical _ free).bind fun _ => rfl
  split
  · refine Prog.Balanced.ofExcept fun runId => ?_
    exact (orderly_outside (outside_freshness ..) free).bind fun _ => rfl
  split
  · refine Prog.Balanced.ofExcept fun step => ?_
    split
    · exact (orderly_housekeeping _ free).bind fun _ => rfl
    · rfl
  split
  · exact (orderly_runBackfill args free).bind fun _ => rfl
  · rfl

end Jobs

/-- The locks are free when a program begins, and when it ends. -/
theorem orderly_program (i : Thread) :
    Prog.Always (stages Ans Locks.after) InOrder (fun _ y => y = ⟨false, false⟩) ((platform w).program i) ⟨false, false⟩ := by
  have drop : ∀ {p : DriverM Reply}, Orderly ⟨false, false⟩ p →
      Prog.Always (stages Ans Locks.after) InOrder (fun _ y => y = ⟨false, false⟩) p ⟨false, false⟩ :=
    fun orderly => orderly.mono (fun _ _ guard => guard.1) fun _ _ ended => ended
  cases i with
  | boot life =>
    refine ⟨rfl, ?_⟩
    rintro _ _ rfl
    rfl
  | stream life layer => exact drop ((orderly_query _ _ _ rfl).bind fun _ => rfl)
  | request life n =>
    refine ⟨rfl, ?_⟩
    rintro _ _ rfl
    have body : Orderly ⟨true, false⟩ (execute w.config (w.triggers (.request life n)) (w.payload life n)) :=
      orderly_execute _ _ rfl
    apply Prog.Always.closes (body.mono (fun _ _ guard => guard.1) fun _ _ ended => ended)
    rintro r _ rfl
    refine ⟨rfl, ?_⟩
    rintro _ _ rfl
    rfl
  | reporter life n =>
    exact drop ((orderly_outside ((w.reports n).mono fun _ => .reporting) rfl).bind fun _ => rfl)

/-! ## The state of the locks -/

/-- The locks of the thread are those the state says it has. -/
structure Holds (i : Thread) (x : Locks) (s : State w) : Prop where
  batch : i.life = s.life → (s.batchLock = some i ↔ x.batch = true)
  silverGold : i.life = s.life → (s.silverGoldLock = some i ↔ x.silverGold = true)
  batchAlive : s.batchLock = some i → i.life = s.life
  silverGoldAlive : s.silverGoldLock = some i → i.life = s.life
  waiting : s.life < i.life → x = ⟨false, false⟩

theorem holds_init (h : (platform w).init s) (i : Thread) : Holds i ⟨false, false⟩ s := by
  obtain ⟨batch, silverGold, -⟩ := h
  constructor
  · intro _
    rw [batch]
    exact ⟨nofun, nofun⟩
  · intro _
    rw [silverGold]
    exact ⟨nofun, nofun⟩
  · intro held
    cases batch.symm.trans held
  · intro held
    cases silverGold.symm.trans held
  · exact fun _ => rfl

/-- Nothing has been done with the locks. -/
theorem Holds.same {x : Locks} (h : Holds i x s) (life : t.life = s.life) (batch : t.batchLock = s.batchLock)
    (silverGold : t.silverGoldLock = s.silverGoldLock) : Holds i x t := by
  constructor
  · rw [life, batch]
    exact h.batch
  · rw [life, silverGold]
    exact h.silverGold
  · rw [life, batch]
    exact h.batchAlive
  · rw [life, silverGold]
    exact h.silverGoldAlive
  · rw [life]
    exact h.waiting

/-- The locks of a driver that has died are free. -/
theorem Holds.started {x : Locks} {life : Nat} (h : Holds i x s) (older : s.life < life) :
    Holds i x { s with life := life, batchLock := none, silverGoldLock := none } := by
  have nothing : i.life = life → x = ⟨false, false⟩ := fun running => h.waiting (running ▸ older)
  constructor
  · intro running
    rw [nothing running]
    exact ⟨nofun, nofun⟩
  · intro running
    rw [nothing running]
    exact ⟨nofun, nofun⟩
  · exact nofun
  · exact nofun
  · exact fun later => h.waiting (older.trans later)

theorem holds_own {o : Op} {a : Ans o} {x : Locks} (h : Holds i x s) (order : InOrder o x) (performed : Exec w i o s a t) :
    Holds i (x.after o) t := by
  cases performed with
  | started older => exact h.started older
  | ran running performed =>
    have present : ¬ s.life < i.life := running.not_gt
    cases performed with
    | lockBatch free =>
      exact ⟨fun _ => ⟨fun _ => rfl, fun _ => rfl⟩, h.silverGold, fun _ => running, h.silverGoldAlive,
        fun later => (present later).elim⟩
    | unlockBatch held =>
      exact ⟨fun _ => ⟨nofun, nofun⟩, h.silverGold, nofun, h.silverGoldAlive, fun later => (present later).elim⟩
    | acquire free ticked =>
      exact ⟨h.batch, fun _ => ⟨fun _ => rfl, fun _ => rfl⟩, h.batchAlive, fun _ => running,
        fun later => (present later).elim⟩
    | release held =>
      exact ⟨h.batch, fun _ => ⟨nofun, nofun⟩, h.batchAlive, nofun, fun later => (present later).elim⟩
    | _ => exact h.same rfl rfl rfl

theorem holds_other {o : Op} {a : Ans o} {y : Locks} (other : i ≠ j) (h : Holds j y s) (performed : Exec w i o s a t) :
    Holds j y t := by
  have not_mine : some i ≠ some j := fun same => other (Option.some.inj same)
  cases performed with
  | started older => exact h.started older
  | ran running performed =>
    cases performed with
    | lockBatch free =>
      refine ⟨fun alive => ⟨fun held => (not_mine held).elim, fun held => ?_⟩, h.silverGold, fun held => (not_mine held).elim,
        h.silverGoldAlive, h.waiting⟩
      cases free.symm.trans ((h.batch alive).2 held)
    | unlockBatch mine =>
      refine ⟨fun alive => ⟨nofun, fun held => ?_⟩, h.silverGold, nofun, h.silverGoldAlive, h.waiting⟩
      exact (not_mine (mine.symm.trans ((h.batch alive).2 held))).elim
    | acquire free ticked =>
      refine ⟨h.batch, fun alive => ⟨fun held => (not_mine held).elim, fun held => ?_⟩, h.batchAlive,
        fun held => (not_mine held).elim, h.waiting⟩
      cases free.symm.trans ((h.silverGold alive).2 held)
    | release mine =>
      refine ⟨h.batch, fun alive => ⟨nofun, fun held => ?_⟩, h.batchAlive, nofun, h.waiting⟩
      exact (not_mine (mine.symm.trans ((h.silverGold alive).2 held))).elim
    | _ => exact h.same rfl rfl rfl

/-- **The order of the locks.** -/
theorem locking (w : Platform) :
    (platform w).Discipline Locks.after InOrder (fun x => x = ⟨false, false⟩) ⟨false, false⟩ Holds where
  init i _ begins := holds_init begins i
  program := orderly_program
  own _ _ _ _ _ _ holds order performed := holds_own holds order performed
  other _ _ _ _ _ _ _ _ other _ holds _ performed := holds_other other holds performed

/-! ## No standstill -/

/-- A query of Kafka can always be answered. -/
theorem ingestCall_total {c : Channel} (o : IngestOp) {u : Ingestion (w.topic c)} (reached : (ingestion w c).Reachable u) :
    ∃ a v, IngestCall w c o u a v := by
  have exact := exact_of_ingestion reached
  have within := (kept_of_ingestion reached).within
  have here : u.Arrives u := ⟨fun _ => List.prefix_rfl, rfl⟩
  cases o with
  | nextBatch =>
    obtain open_ | closed := exact.lower.lt_or_eq
    · exact ⟨_, u, ⟨u, here, .replayed open_⟩, trivial, within⟩
    · have ahead : ∀ p, u.startOf u.commits p ≤ u.startOf u.commits p ∧
          u.startOf u.commits p ≤ (u.log.records p).length :=
        fun p => ⟨Nat.le_refl _, exact.within _ exact.lower p⟩
      exact ⟨_, _, ⟨u, here, .planned closed ahead⟩, trivial, within⟩
  | registry => exact ⟨w.registry, u, ⟨u, here, .registry⟩, fun _ => .inl rfl, within⟩
  | currentTimestamp => exact ⟨0, u, ⟨u, here, .currentTimestamp⟩, trivial, within⟩
  | append app version rows =>
    exact ⟨.error (.valueError ""), u, ⟨u, here, .appendFailed⟩, trivial, within⟩
  | random => exact ⟨0, u, ⟨u, here, .random⟩, trivial, within⟩
  | sleep seconds => exact ⟨(), u, ⟨u, here, .sleep⟩, trivial, within⟩
  | commitBatch batchId => exact ⟨(), _, ⟨u, here, .committed⟩, trivial, within⟩

theorem bronzeSchema_own (w : Platform) : BronzeSchema w bronzeColumns := by
  refine ⟨bronzeColumns_nodup, List.prefix_rfl, fun c type found => w.typed c type ?_⟩
  show Schema.typeOf (bronzeColumns ++ _) c = some type
  rw [Schema.typeOf_append, found]
  rfl

/-- A thread can perform what it is about to, if it does not wait for a lock. -/
theorem exec_total {o : Op} {x : Locks} (staging : Staging w s) (alive : i.life = s.life) (holds : Holds i x s)
    (order : InOrder o x) (not_start : o ≠ .start) (batch : o = .lockBatch → s.batchLock = none)
    (silverGold : ∀ k, o = .acquire k → s.silverGoldLock = none) : ∃ a t, Exec w i o s a t := by
  suffices threadExec : ∃ a t, ThreadExec w i o s a t by
    obtain ⟨a, t, performed⟩ := threadExec
    exact ⟨a, t, .ran alive performed⟩
  cases o with
  | start => exact (not_start rfl).elim
  | lockBatch => exact ⟨(), _, .lockBatch (batch rfl)⟩
  | unlockBatch =>
    have mine : x.batch = true := congrArg Locks.batch order
    exact ⟨(), _, .unlockBatch ((holds.batch alive).2 mine)⟩
  | acquire k => exact ⟨(), _, .acquire (silverGold k rfl) (Int.lt_succ s.lake.clock)⟩
  | release => exact ⟨(), _, .release ((holds.silverGold alive).2 order)⟩
  | inside k o => exact ⟨_, _, .inside ((holds.silverGold alive).2 order) (perform_sound k.runId o s.lake)⟩
  | outside o => exact ⟨_, _, .outside order.1 (perform_sound "" o s.lake)⟩
  | startQuery c layer => exact ⟨(), _, .startQuery⟩
  | awaitTermination => exact ⟨.ok (), _, .awaitTermination⟩
  | ingest c o =>
    obtain ⟨a, t, performed⟩ := ingestCall_total o (staging.ingests c)
    exact ⟨a, _, .ingest performed⟩
  | nextBatch c =>
    have staged := staging.staged c
    obtain planned | committed := staged.lower.lt_or_eq
    · exact ⟨_, _, .replayed (bronzeSchema_own w) planned⟩
    · exact ⟨_, _, .planned (bronzeSchema_own w) committed (staged.within _ staged.lower) (Nat.le_refl _)⟩
  | commitBatch c batchId => exact ⟨(), _, .commitBatch⟩
  | readBronze c => exact ⟨_, _, .readBronze (bronzeSchema_own w)⟩
  | optimize table => exact ⟨.ok (), _, .optimize⟩
  | vacuum table => exact ⟨.ok (), _, .vacuum⟩
  | deleteBronze c days => exact ⟨.ok (), _, .deleteBronze (Int.le_refl s.lake.clock)⟩
  | deleteMonitoring table days => exact ⟨.ok (), _, .deleteMonitoring (Int.le_refl s.lake.clock)⟩
  | random => exact ⟨0, _, .random⟩
  | sleep seconds => exact ⟨(), _, .sleep⟩

/-- A thread of the running driver that can go on. -/
def GoesOn (threads : Thread → DriverM Reply) (s : State w) (i : Thread) : Prop :=
  i.life = s.life ∧ ∃ o k a t, threads i = .op o k ∧ Exec w i o s a t

theorem not_locking_of_silverGold {o : Op} {x : Locks} (order : InOrder o x) (mine : x.silverGold = true) :
    o ≠ .start ∧ o ≠ .lockBatch ∧ ∀ k, o ≠ .acquire k := by
  refine ⟨?_, ?_, fun k => ?_⟩ <;> rintro rfl
  · cases order
    cases mine
  · cases order
    cases mine
  · cases mine.symm.trans order

theorem not_locking_of_batch {o : Op} {x : Locks} (order : InOrder o x) (mine : x.batch = true) :
    o ≠ .start ∧ o ≠ .lockBatch := by
  constructor <;> rintro rfl
  · cases order
    cases mine
  · cases order
    cases mine

/-- Whoever has `silver_gold_lock` goes on. -/
theorem goesOn_of_silverGold (reached : (platform w).Reachable threads s) (held : s.silverGoldLock = some i) :
    GoesOn threads s i := by
  have holding : ∀ {x}, Holds i x s → x.silverGold = true :=
    fun holds => (holds.silverGold (holds.silverGoldAlive held)).1 held
  obtain ⟨o, k, x, at_i, holds, order⟩ := (locking w).unfinished reached (i := i) fun x holds ends => by
    cases ends ▸ holding holds
  have alive := holds.silverGoldAlive held
  obtain ⟨started, batch, silverGold⟩ := not_locking_of_silverGold order (holding holds)
  obtain ⟨a, t, performed⟩ := exec_total (staging_of_reachable reached) alive holds order started
    (fun same => (batch same).elim) fun k same => (silverGold k same).elim
  exact ⟨alive, o, k, a, t, at_i, performed⟩

/-- The thread waits for `silver_gold_lock`, and whoever has it goes on. -/
def AwaitsSilverGold (threads : Thread → DriverM Reply) (s : State w) (i : Thread) : Prop :=
  (∃ c k, threads i = .op (.acquire c) k) ∧ ∃ j, s.silverGoldLock = some j ∧ GoesOn threads s j

/-- A thread that does not wait for `batch_lock` goes on, or waits for one that goes on. -/
theorem goesOn_of_not_batch {o : Op} {k : Ans o → DriverM Reply} {x : Locks} (reached : (platform w).Reachable threads s)
    (alive : i.life = s.life) (at_i : threads i = .op o k) (holds : Holds i x s) (order : InOrder o x)
    (started : o ≠ .start) (batch : o = .lockBatch → s.batchLock = none) :
    GoesOn threads s i ∨ AwaitsSilverGold threads s i := by
  have goes (silverGold : ∀ c, o = .acquire c → s.silverGoldLock = none) : GoesOn threads s i := by
    obtain ⟨a, t, performed⟩ := exec_total (staging_of_reachable reached) alive holds order started batch silverGold
    exact ⟨alive, o, k, a, t, at_i, performed⟩
  cases free : s.silverGoldLock with
  | none => exact .inl (goes fun _ _ => free)
  | some j =>
    by_cases acquires : ∃ c, o = .acquire c
    · obtain ⟨c, rfl⟩ := acquires
      exact .inr ⟨⟨c, k, at_i⟩, j, free, goesOn_of_silverGold reached free⟩
    · exact .inl (goes fun c same => absurd ⟨c, same⟩ acquires)

/-- Whoever has `batch_lock` waits for `silver_gold_lock` at most. -/
theorem goesOn_of_batch (reached : (platform w).Reachable threads s) (held : s.batchLock = some i) :
    GoesOn threads s i ∨ AwaitsSilverGold threads s i := by
  have holding : ∀ {y}, Holds i y s → y.batch = true := fun holds => (holds.batch (holds.batchAlive held)).1 held
  obtain ⟨o, k, y, at_i, holds, order⟩ := (locking w).unfinished reached (i := i) fun y holds ends => by
    cases ends ▸ holding holds
  obtain ⟨started, batch⟩ := not_locking_of_batch order (holding holds)
  exact goesOn_of_not_batch reached (holds.batchAlive held) at_i holds order started fun same => (batch same).elim

/-- **No standstill.** While a thread of the running driver has something left to do, some
thread of it can go on: the thread itself; or, where it waits for `silver_gold_lock`, the thread
that has it; or, where it waits for `batch_lock`, the thread that has this one, which waits for
`silver_gold_lock` at most. -/
theorem no_standstill {o : Op} {k : Ans o → DriverM Reply} (reached : (platform w).Reachable threads s)
    (alive : i.life = s.life) (at_i : threads i = .op o k) (started : o ≠ .start) :
    (∃ j, GoesOn threads s j) ∧
    (GoesOn threads s i ∨ AwaitsSilverGold threads s i ∨
      o = .lockBatch ∧ ∃ j, s.batchLock = some j ∧ (GoesOn threads s j ∨ AwaitsSilverGold threads s j)) := by
  have going {j : Thread} (h : GoesOn threads s j ∨ AwaitsSilverGold threads s j) : ∃ j, GoesOn threads s j := by
    obtain goes | ⟨-, l, -, goes⟩ := h
    · exact ⟨j, goes⟩
    · exact ⟨l, goes⟩
  obtain ⟨x, holds, order⟩ := (locking w).permits reached at_i
  by_cases waits : o = .lockBatch ∧ ∃ j, s.batchLock = some j
  · obtain ⟨locks, j, held⟩ := waits
    have other := goesOn_of_batch reached held
    exact ⟨going other, .inr (.inr ⟨locks, j, held, other⟩)⟩
  · have free : o = .lockBatch → s.batchLock = none := by
      intro locks
      by_contra held
      exact waits ⟨locks, Option.ne_none_iff_exists'.1 held⟩
    have own := goesOn_of_not_batch reached alive at_i holds order started free
    exact ⟨going own, own.imp_right .inl⟩

/-- One request has `batch_lock`, and another waits for it. -/
def demoContended : (Thread → DriverM Reply) × State demoPlatform :=
  Interleaving.play demoDrive [.boot 1, .request 1 0] ((platform demoPlatform).program, demoStart)

theorem no_standstill_demo : (∃ j, GoesOn demoContended.1 demoContended.2 j) ∧
    (GoesOn demoContended.1 demoContended.2 (.request 1 0) ∨
      AwaitsSilverGold demoContended.1 demoContended.2 (.request 1 0)) := by
  obtain ⟨life, held⟩ : demoContended.2.life = 1 ∧ demoContended.2.batchLock = some (.request 1 0) := by decide +kernel
  have reached : (platform demoPlatform).Reachable demoContended.1 demoContended.2 :=
    ⟨demoStart, emptyDriver_init 0, (demo_run (fun _ => rfl) _).1⟩
  have waiting : demoContended.1 (.request 1 1) = (platform demoPlatform).program (.request 1 1) :=
    Interleaving.play_other (by decide) _
  obtain ⟨some_goes, goes | ⟨⟨c, k, acquires⟩, -⟩ | ⟨-, j, held', other⟩⟩ :=
    no_standstill (i := .request 1 1) reached life.symm waiting nofun
  · obtain ⟨-, o, k, a, t, at_i, performed⟩ := goes
    cases waiting.symm.trans at_i
    cases performed with
    | ran _ performed =>
      cases performed with
      | lockBatch free => cases held.symm.trans free
  · cases waiting.symm.trans acquires
  · cases held.symm.trans held'
    exact ⟨some_goes, other⟩

/-! ## Who has the locks -/

/-- The operations of a critical section. -/
def Op.critical : Op → Bool
  | .inside .. | .release => true
  | _ => false

theorem critical_iff {o : Op} {x : Locks} (order : InOrder o x) : x.silverGold = true ↔ o.critical = true := by
  cases o with
  | inside k o => exact ⟨fun _ => rfl, fun _ => order⟩
  | release => exact ⟨fun _ => rfl, fun _ => order⟩
  | start | lockBatch | unlockBatch =>
    cases order
    exact Iff.rfl
  | outside o =>
    rw [order.2]
    exact Iff.rfl
  | _ =>
    rw [show x.silverGold = false from order]
    exact Iff.rfl

/-- **The locks are sound.** A thread of the running driver has `silver_gold_lock` exactly
while it is in a critical section, and when it ends, whatever it returns or raises, it has
given back what it had. -/
theorem locks_sound (reached : (platform w).Reachable threads s) (alive : i.life = s.life) :
    (s.silverGoldLock = some i ↔ ∃ o next, threads i = .op o next ∧ o.critical = true) ∧
    (∀ next, threads i = .op .unlockBatch next → s.batchLock = some i) ∧
    ∀ r, threads i = .done r → s.silverGoldLock ≠ some i ∧ s.batchLock ≠ some i := by
  obtain ⟨x, holds, rest⟩ := (locking w).stage reached i
  unfold Ne
  rw [holds.silverGold alive, holds.batch alive]
  cases at_i : threads i with
  | done r =>
    rw [at_i] at rest
    rw [show x = ⟨false, false⟩ from rest]
    refine ⟨⟨nofun, ?_⟩, ?_, fun _ _ => ⟨nofun, nofun⟩⟩
    · rintro ⟨_, _, same, _⟩
      cases same
    · rintro _ same
      cases same
  | op o next =>
    rw [at_i] at rest
    rw [critical_iff rest.1]
    refine ⟨⟨fun inside => ⟨o, next, rfl, inside⟩, ?_⟩, ?_, ?_⟩
    · rintro ⟨_, _, same, inside⟩
      cases same
      exact inside
    · rintro _ same
      cases same
      exact congrArg Locks.batch rest.1
    · rintro _ same
      cases same

/-- The second request of the demo, when it has returned. -/
theorem locks_sound_demo :
    demoRefreshed.2.silverGoldLock ≠ some (.request 1 1) ∧ demoRefreshed.2.batchLock ≠ some (.request 1 1) := by
  have ended : demoRefreshed.2.life = 1 ∧ (demoRefreshed.1 (.request 1 1)).returned = some none := by decide +kernel
  exact (locks_sound (i := .request 1 1) demoRefreshed_reachable ended.1.symm).2.2 _ (Prog.eq_of_returned ended.2)

end Tikblog.Driver
