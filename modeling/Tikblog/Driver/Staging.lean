import Tikblog.Driver.Sections

/-!
# What the driver keeps

The state keeps `Staging`: each Bronze table is what the query of its channel has made of it,
the lake is what some history of critical sections has made of it (`Mirrors`), and every
Bronze row below the last committed batch of the second stage is settled. What was settled
stays so, since the tables only grow (`Grows`).
-/

namespace Tikblog.Driver

open Python Program Analytics

variable {w : Platform} {s t u : State w} {c : Channel}

/-! ## What only grows -/

/-- The row has come to an end: it tells of an event whose id is in Silver, or it was
quarantined. -/
def Settled (s : State w) (row : BronzeRow) : Prop :=
  (∃ e, Tells w row e ∧ ∃ r ∈ s.lake.silver.rows, r .eventId = some (.string e.eventId)) ∨
    ∃ q ∈ s.archive, q.key.2 = (some row.kafkaTopic, some row.kafkaPartition, some row.kafkaOffset)

/-- What every operation of every thread leaves true. -/
structure Grows (s t : State w) : Prop where
  life : s.life ≤ t.life
  clock : s.lake.clock ≤ t.lake.clock
  silver : Extends s.lake.silver t.lake.silver
  archive : ∀ q ∈ s.archive, q ∈ t.archive
  rows : ∀ c, (s.ingest c).rows <+: (t.ingest c).rows
  right : ∀ p, Stale t.lake p → rowsOf t.lake.silver.rows p = rowsOf s.lake.silver.rows p → Stale s.lake p

theorem Grows.refl (s : State w) : Grows s s :=
  ⟨le_refl _, le_refl _, .refl _, fun _ held => held, fun _ => List.prefix_rfl, fun _ stale _ => stale⟩

/-- What a pair had before and after, it had in between. -/
theorem rowsOf_between {a b c : Frame} (ab : Extends a b) (bc : Extends b c) {p : Pair}
    (same : rowsOf c.rows p = rowsOf a.rows p) : rowsOf b.rows p = rowsOf a.rows p := by
  have first : rowsOf a.rows p <+: rowsOf b.rows p := ab.rows.filter _
  have second : rowsOf b.rows p <+: rowsOf c.rows p := bc.rows.filter _
  rw [same] at second
  exact (first.eq_of_length_le second.length_le).symm

theorem Grows.trans (st : Grows s t) (tu : Grows t u) : Grows s u where
  life := st.life.trans tu.life
  clock := st.clock.trans tu.clock
  silver := st.silver.trans tu.silver
  archive q held := tu.archive q (st.archive q held)
  rows c := (st.rows c).trans (tu.rows c)
  right p stale same := by
    have between := rowsOf_between st.silver tu.silver same
    exact st.right p (tu.right p stale (same.trans between.symm)) between

theorem Settled.grows {row : BronzeRow} (h : Settled s row) (grows : Grows s t) : Settled t row := by
  obtain ⟨e, tells, r, held, same⟩ | ⟨q, held, same⟩ := h
  · exact .inl ⟨e, tells, r, grows.silver.rows.subset held, same⟩
  · exact .inr ⟨q, grows.archive q held, same⟩

/-! ## The lake between two critical sections -/

/-- The tables of the lake are as they were; rows of the quarantine may have been deleted. -/
structure Apart (s t : State w) : Prop where
  silver : t.lake.silver = s.lake.silver
  gold : t.lake.gold = s.lake.gold
  inserted : t.lake.inserted = s.lake.inserted
  checkedAt : t.lake.checkedAt = s.lake.checkedAt
  clock : s.lake.clock ≤ t.lake.clock
  archive : t.archive = s.archive
  quarantine : ∀ q ∈ t.lake.quarantine, q ∈ s.lake.quarantine

theorem Apart.of_lake (lake : t.lake = s.lake) (archive : t.archive = s.archive) : Apart s t where
  silver := by rw [lake]
  gold := by rw [lake]
  inserted := by rw [lake]
  checkedAt := by rw [lake]
  clock := by rw [lake]
  archive := archive
  quarantine q held := lake ▸ held

/-- The state of a history of critical sections: the lake, apart from its monitoring tables
and the time that has passed since. -/
structure Mirrors (v : World) (s : State w) : Prop where
  silver : v.silver = s.lake.silver
  gold : v.gold = s.lake.gold
  inserted : v.inserted = s.lake.inserted
  checkedAt : v.checkedAt = s.lake.checkedAt
  clock : v.clock ≤ s.lake.clock
  quarantine : ∀ q ∈ v.quarantine, ∃ q' ∈ s.archive, q'.key = q.key

/-- The tables of the lake are untouched while a thread holds the lock. -/
structure Hushed (s t : State w) : Prop where
  silver : t.lake.silver = s.lake.silver
  gold : t.lake.gold = s.lake.gold
  inserted : t.lake.inserted = s.lake.inserted
  checkedAt : t.lake.checkedAt = s.lake.checkedAt

theorem Apart.hushed (h : Apart s t) : Hushed s t := ⟨h.silver, h.gold, h.inserted, h.checkedAt⟩

theorem Mirrors.hushed {v : World} (h : Mirrors v s) (hushed : Hushed s t) (grows : Grows s t) : Mirrors v t where
  silver := h.silver.trans hushed.silver.symm
  gold := h.gold.trans hushed.gold.symm
  inserted := h.inserted.trans hushed.inserted.symm
  checkedAt := h.checkedAt.trans hushed.checkedAt.symm
  clock := h.clock.trans grows.clock
  quarantine q held := by
    obtain ⟨q', archived, same⟩ := h.quarantine q held
    exact ⟨q', grows.archive q' archived, same⟩

theorem Apart.grows (h : Apart s t) (life : s.life ≤ t.life) (rows : ∀ c, (s.ingest c).rows <+: (t.ingest c).rows) :
    Grows s t where
  life := life
  clock := h.clock
  silver := h.silver ▸ .refl _
  archive := h.archive ▸ fun _ held => held
  rows := rows
  right p stale _ := by
    unfold Stale at *
    rwa [h.gold, h.silver] at stale

/-- What is in the quarantine was archived. -/
def Archives (s : State w) : Prop := ∀ q ∈ s.lake.quarantine, q ∈ s.archive

/-- The quarantine grows at its end. -/
theorem prefix_quarantine {runId : String} {o : LakeOp} {x y : World} {a : o.Answer}
    (performed : LakeExec runId o x a y) : x.quarantine <+: y.quarantine := by
  cases performed with
  | raised => exact List.prefix_rfl
  | answered took | lost took =>
    cases took with
    | insertQuarantine => exact Table.prefix_insertNew
    | _ => exact List.prefix_rfl

theorem clock_le {runId : String} {o : LakeOp} {x y : World} {a : o.Answer} (performed : LakeExec runId o x a y) :
    x.clock ≤ y.clock := by
  cases performed with
  | raised => exact le_refl _
  | answered took | lost took =>
    cases took with
    | currentTimestamp later | utcnow later => exact later
    | _ => exact le_refl _

theorem Archives.within {runId : String} {o : LakeOp} {a : o.Answer} {lake : World} (h : Archives s)
    (performed : LakeExec runId o s.lake a lake) : Archives (s.within lake) := by
  intro q held
  obtain ⟨new, grown⟩ := prefix_quarantine performed
  have held : q ∈ s.lake.quarantine ++ new := grown ▸ held
  refine List.mem_append.2 ?_
  obtain old | added := List.mem_append.1 held
  · exact .inl (h q old)
  · right
    rw [← grown, List.drop_left]
    exact added

/-- What the lake does, a history of critical sections does. -/
theorem Mirrors.performs {runId : String} {o : LakeOp} {a : o.Answer} {lake v : World} (h : Mirrors v s)
    (archives : Archives s) (performed : LakeExec runId o s.lake a lake) :
    ∃ v', LakeExec runId o v a v' ∧ Mirrors v' (s.within lake) := by
  have archived := archives.within performed
  have kept : ∀ {v' : World}, v'.quarantine = v.quarantine → ∀ q ∈ v'.quarantine,
      ∃ q' ∈ (s.within lake).archive, q'.key = q.key := by
    intro v' same q held
    rw [same] at held
    obtain ⟨q', old, same⟩ := h.quarantine q held
    exact ⟨q', List.mem_append_left _ old, same⟩
  have effect : ∀ x, Effect runId o s.lake x lake → ∃ v', Effect runId o v x v' ∧ Mirrors v' (s.within lake) := by
    intro x took
    cases took with
    | currentTimestamp later =>
      refine ⟨_, .currentTimestamp (h.clock.trans later), h.silver, h.gold, h.inserted, ?_, le_refl _, kept rfl⟩
      show ite _ _ v.checkedAt = ite _ _ s.lake.checkedAt
      rw [h.checkedAt]
    | utcnow later =>
      exact ⟨_, .utcnow (h.clock.trans later), h.silver, h.gold, h.inserted, h.checkedAt, le_refl _, kept rfl⟩
    | readSilver =>
      rw [← h.silver]
      exact ⟨v, .readSilver, h.silver, h.gold, h.inserted, h.checkedAt, h.clock, kept rfl⟩
    | readGold =>
      rw [← h.gold]
      exact ⟨v, .readGold, h.silver, h.gold, h.inserted, h.checkedAt, h.clock, kept rfl⟩
    | dropDuplicates schema distinct =>
      exact ⟨v, .dropDuplicates schema distinct, h.silver, h.gold, h.inserted, h.checkedAt, h.clock, kept rfl⟩
    | @insertQuarantine rows =>
      refine ⟨_, .insertQuarantine, h.silver, h.gold, h.inserted, h.checkedAt, h.clock, ?_⟩
      intro q held
      obtain old | ⟨listed, -⟩ := Table.mem_insertNew.1 held
      · exact kept rfl q old
      · -- a row of the key was in the quarantine, or this one came
        have key : q.key ∈ (Table.insertNew QuarantineRow.key s.lake.quarantine rows).map QuarantineRow.key :=
          Table.mem_keys_insertNew.2 (.inr (List.mem_map_of_mem listed))
        obtain ⟨q', present, same⟩ := List.mem_map.1 key
        exact ⟨q', archived q' present, same⟩
    | insertDqResults =>
      exact ⟨_, .insertDqResults, h.silver, h.gold, h.inserted, h.checkedAt, h.clock, kept rfl⟩
    | insertMetrics =>
      exact ⟨_, .insertMetrics, h.silver, h.gold, h.inserted, h.checkedAt, h.clock, kept rfl⟩
    | insertAlerts =>
      exact ⟨_, .insertAlerts, h.silver, h.gold, h.inserted, h.checkedAt, h.clock, kept rfl⟩
    | mergeSilver mergeable =>
      have own : v.silver.Mergeable _ := h.silver ▸ mergeable
      obtain ⟨_, silver⟩ := Frame.mergeNew_congr h.silver own
      refine ⟨_, .mergeSilver own, silver, h.gold, ?_, h.checkedAt, h.clock, kept rfl⟩
      show v.inserted ++ _ = s.lake.inserted ++ _
      rw [h.inserted, h.silver]
    | overwriteGold listed =>
      refine ⟨_, .overwriteGold listed, h.silver, ?_, h.inserted, h.checkedAt, h.clock, kept rfl⟩
      show replaceDates v.gold _ _ = replaceDates s.lake.gold _ _
      rw [h.gold]
  cases performed with
  | raised =>
    refine ⟨v, .raised, h.silver, h.gold, h.inserted, h.checkedAt, h.clock, kept rfl⟩
  | answered took =>
    obtain ⟨v', own, mirrors⟩ := effect _ took
    exact ⟨v', .answered own, mirrors⟩
  | lost took =>
    obtain ⟨v', own, mirrors⟩ := effect _ took
    exact ⟨v', .lost own, mirrors⟩

/-! ## The second stage -/

/-- What the logs of a `bronze_to_silver` query say of the tables. -/
structure Staged (c : Channel) (s : State w) : Prop where
  lower : (s.progress c).commits ≤ (s.progress c).offsets.length
  upper : (s.progress c).offsets.length ≤ (s.progress c).commits + 1
  ordered : ∀ i < (s.progress c).offsets.length, (s.progress c).startOf i ≤ (s.progress c).startOf (i + 1)
  within : ∀ i ≤ (s.progress c).offsets.length, (s.progress c).startOf i ≤ (s.ingest c).rows.length
  skipped : ∀ p ∈ (s.progress c).skipped, p ∈ s.removed c
  settled : ∀ row ∈ (s.ingest c).rows.take ((s.progress c).startOf (s.progress c).commits),
    row.position ∉ (s.progress c).skipped → Settled s row

/-- The batch is planned last, and not committed. -/
structure InHand (c : Channel) (batchId : Nat) (s : State w) : Prop where
  commits : (s.progress c).commits = batchId
  planned : (s.progress c).offsets.length = batchId + 1
  within : (s.progress c).startOf (batchId + 1) ≤ (s.ingest c).rows.length

/-- Rows that are there are still there. -/
theorem take_prefix {α : Type} {xs ys : List α} (grown : xs <+: ys) {n : Nat} (within : n ≤ xs.length) :
    ys.take n = xs.take n := by
  obtain ⟨new, rfl⟩ := grown
  exact List.take_append_of_le_length within

theorem Staged.grows (h : Staged c s) (grows : Grows s t) (progress : t.progress c = s.progress c)
    (removed : ∀ p ∈ s.removed c, p ∈ t.removed c) : Staged c t where
  lower := progress ▸ h.lower
  upper := progress ▸ h.upper
  ordered := progress ▸ h.ordered
  within := by
    rw [progress]
    exact fun i planned => (h.within i planned).trans (grows.rows c).length_le
  skipped := by
    rw [progress]
    exact fun p skipped => removed p (h.skipped p skipped)
  settled := by
    rw [progress, take_prefix (grows.rows c) (h.within _ h.lower)]
    exact fun row below shown => (h.settled row below shown).grows grows

theorem progress_plan (s : State w) (c : Channel) (stop : Nat) : (s.plan c stop).progress c =
    { s.progress c with
      offsets := (s.progress c).offsets ++ [stop]
      skipped := if (s.progress c).offsets = [] then s.removed c else (s.progress c).skipped } :=
  Function.update_self ..

theorem startOf_planned {progress : Progress} {stop i : Nat} {skipped : List Position}
    (planned : i ≤ progress.offsets.length) :
    Progress.startOf ⟨progress.offsets ++ [stop], progress.commits, skipped⟩ i = progress.startOf i := by
  cases i with
  | zero => rfl
  | succ previous =>
    simp only [Progress.startOf]
    rw [List.getElem?_append_left planned]

theorem startOf_stop {progress : Progress} {stop : Nat} {skipped : List Position} :
    Progress.startOf ⟨progress.offsets ++ [stop], progress.commits, skipped⟩ (progress.offsets.length + 1) = stop := by
  simp [Progress.startOf]

theorem Staged.plan (h : Staged c s) (done : (s.progress c).commits = (s.progress c).offsets.length) {stop : Nat}
    (ahead : (s.progress c).startOf (s.progress c).commits ≤ stop) (present : stop ≤ (s.ingest c).rows.length) :
    Staged c (s.plan c stop) := by
  have progress := progress_plan s c stop
  have length : ((s.progress c).offsets ++ [stop]).length = (s.progress c).offsets.length + 1 := List.length_append
  have same : (s.plan c stop).ingest = s.ingest := rfl
  constructor
  · rw [progress, length]
    exact Nat.le_succ_of_le h.lower
  · rw [progress, length, ← done]
  · intro i planned
    rw [progress] at planned ⊢
    rw [length, Nat.lt_succ_iff_lt_or_eq] at planned
    obtain before | last := planned
    · rw [startOf_planned before.le, startOf_planned before]
      exact h.ordered i before
    · rw [last, startOf_planned le_rfl, startOf_stop, ← done]
      exact ahead
  · intro i planned
    rw [progress] at planned ⊢
    rw [length, Nat.le_succ_iff] at planned
    obtain before | last := planned
    · rw [startOf_planned before, same]
      exact h.within i before
    · rw [last, startOf_stop]
      exact present
  · rw [progress]
    intro p skipped
    dsimp only at skipped
    split at skipped
    · exact skipped
    · exact h.skipped p skipped
  · rw [progress, startOf_planned h.lower]
    intro row below shown
    by_cases first : (s.progress c).offsets = []
    · -- nothing is below the start of the first batch
      have start : (s.progress c).commits = 0 := by
        rw [done, first]
        rfl
      rw [start] at below
      cases below
    · simp only [first, if_false] at shown
      exact h.settled row below shown

theorem progress_commit (s : State w) (c : Channel) (batchId : Nat) :
    (s.commitBatch c batchId).progress c = { s.progress c with commits := batchId + 1 } := Function.update_self ..

/-- A batch may be committed when its rows are settled. -/
theorem Staged.commit (h : Staged c s) {batchId : Nat} (hand : InHand c batchId s)
    (settled : ∀ row ∈ s.batchRows c batchId, Settled s row) : Staged c (s.commitBatch c batchId) := by
  have progress := progress_commit s c batchId
  have starts : ∀ i, Progress.startOf { s.progress c with commits := batchId + 1 } i = (s.progress c).startOf i := by
    intro i
    cases i <;> rfl
  constructor
  · rw [progress]
    exact hand.planned.ge
  · rw [progress]
    exact hand.planned.le.trans (Nat.le_succ _)
  · rw [progress]
    simp only [starts]
    exact h.ordered
  · rw [progress]
    simp only [starts]
    exact h.within
  · rw [progress]
    exact h.skipped
  · rw [progress, starts]
    intro row below shown
    -- what is below the end of the batch was below its start, or is in the batch
    have order := h.ordered batchId (by rw [hand.planned]; exact Nat.lt_succ_self _)
    have split := List.take_append_drop ((s.progress c).startOf batchId)
      ((s.ingest c).rows.take ((s.progress c).startOf (batchId + 1)))
    rw [List.take_take, Nat.min_eq_left order] at split
    have below : row ∈ (s.ingest c).rows.take ((s.progress c).startOf (batchId + 1)) := below
    rw [← split] at below
    obtain before | inside := List.mem_append.1 below
    · rw [← hand.commits] at before
      exact h.settled row before shown
    · exact settled row (List.mem_filter.2 ⟨inside, decide_eq_true shown⟩)

/-! ## The invariant -/

structure Staging (w : Platform) (s : State w) : Prop where
  ingests : ∀ c, (ingestion w c).Reachable (s.ingest c)
  mirrored : ∃ v, (sections w).Reachable v ∧ Mirrors v s
  archives : Archives s
  rejections : ∀ q ∈ s.archive, Rejection w q
  staged : ∀ c, Staged c s

/-- What moves the queries and leaves the lake. -/
theorem Staging.moved (h : Staging w s) (apart : Apart s t) (grows : Grows s t)
    (ingests : ∀ c, (ingestion w c).Reachable (t.ingest c)) (staged : ∀ c, Staged c t) : Staging w t where
  ingests := ingests
  mirrored := by
    obtain ⟨v, reached, mirrors⟩ := h.mirrored
    exact ⟨v, reached, mirrors.hushed apart.hushed grows⟩
  archives q held := by
    rw [apart.archive]
    exact h.archives q (apart.quarantine q held)
  rejections := by
    rw [apart.archive]
    exact h.rejections
  staged := staged

theorem kept_of_staging (h : Staging w s) (c : Channel) : Kept w c (s.ingest c) := kept_of_ingestion (h.ingests c)

end Tikblog.Driver
