import Tikblog.Analytics.Bronze
import Tikblog.Analytics.Garbage

/-!
# Bronze is exactly-once

The offset log and the commit log of the query move apart from the transaction version of
the table. What holds at every point, also between them: the version is that of the last
batch whose append took effect, the table holds the records of those batches, and every
committed batch is among them (`Exact`). A replayed batch has the same id and records, so it
is skipped exactly when its append has taken effect.
-/

namespace Tikblog.Analytics

open Python Program

variable {topic identity : String} {partitions : List Int} {s t : Ingestion topic}

def BronzeRow.position (row : BronzeRow) : Position := row.toDecodedRow.position

/-! ## Batches -/

theorem mem_slice {records : List KafkaRecord} {start stop : Nat} {r : KafkaRecord} :
    r ∈ slice records start stop ↔ ∃ k, start ≤ k ∧ k < stop ∧ records[k]? = some r := by
  rw [slice, List.mem_iff_getElem?]
  simp only [List.getElem?_drop, List.getElem?_take]
  constructor
  · intro h
    obtain ⟨i, found⟩ := h
    split at found
    · rename_i below
      exact ⟨start + i, Nat.le_add_right _ _, below, found⟩
    · cases found
  · intro h
    obtain ⟨k, low, below, found⟩ := h
    refine ⟨k - start, ?_⟩
    rw [Nat.add_sub_cancel' low, if_pos below, found]

/-- What arrives does not touch the records before it. -/
theorem slice_prefix {records more : List KafkaRecord} {start stop : Nat} (grown : records <+: more)
    (within : stop ≤ records.length) : slice more start stop = slice records start stop := by
  obtain ⟨new, rfl⟩ := grown
  rw [slice, slice, List.take_append_of_le_length within]

theorem startOf_plan {stop : Int → Nat} {i : Nat} (planned : i ≤ s.offsets.length) :
    (s.plan stop).startOf i = s.startOf i := by
  cases i with
  | zero => rfl
  | succ previous =>
    simp only [Ingestion.startOf, Ingestion.plan]
    rw [List.getElem?_append_left planned]

theorem startOf_plan_last (stop : Int → Nat) : (s.plan stop).startOf (s.offsets.length + 1) = stop := by
  simp [Ingestion.startOf, Ingestion.plan]

theorem batch_plan {stop : Int → Nat} {i : Nat} (planned : i < s.offsets.length) :
    (s.plan stop).batch partitions i = s.batch partitions i := by
  simp only [Ingestion.batch, startOf_plan (Nat.le_of_lt planned), startOf_plan planned]
  rfl

/-- Everything the logs and the table say of each other. -/
structure Exact (identity : String) (partitions : List Int) (s : Ingestion topic) : Prop where
  lower : s.commits ≤ s.offsets.length
  upper : s.offsets.length ≤ s.commits + 1
  monotone : ∀ i < s.offsets.length, ∀ p, s.startOf i p ≤ s.startOf (i + 1) p
  within : ∀ i ≤ s.offsets.length, ∀ p, s.startOf i p ≤ (s.log.records p).length
  sorted : s.appended.Pairwise (· < ·)
  planned : ∀ i ∈ s.appended, i < s.offsets.length
  version : s.txnVersion identity = s.appended.getLast?
  rows : (s.rows.map BronzeRow.position).Perm
    (s.appended.flatMap fun i => (s.batch partitions i).map KafkaRecord.position)
  complete : ∀ i < s.commits, s.batch partitions i ≠ [] → i ∈ s.appended

/-- The batch in hand: planned last, and not committed. -/
structure Current (partitions : List Int) (batchId : Nat) (records : List KafkaRecord)
    (s : Ingestion topic) : Prop where
  commits : s.commits = batchId
  planned : s.offsets.length = batchId + 1
  batch : s.batch partitions batchId = records

theorem exact_fresh (fresh : s.Fresh) : Exact identity partitions s := by
  obtain ⟨offsets, commits, rows, version, appended⟩ := fresh
  constructor
  · rw [commits]
    exact Nat.zero_le _
  · rw [offsets]
    exact Nat.zero_le _
  · intro i planned
    rw [offsets] at planned
    cases planned
  · intro i planned p
    rw [offsets] at planned
    cases Nat.le_zero.1 planned
    exact Nat.zero_le _
  · rw [appended]
    exact .nil
  · intro i member
    rw [appended] at member
    cases member
  · rw [version, appended]
    rfl
  · rw [rows, appended]
    exact .nil
  · intro i committed
    rw [commits] at committed
    cases committed

/-! ## Steps -/

theorem Ingestion.Arrives.startOf (arrives : s.Arrives t) : t.startOf = s.startOf := by
  rw [arrives.2]
  rfl

theorem Exact.batch_arrives (exact : Exact identity partitions s) (arrives : s.Arrives t) {i : Nat}
    (planned : i < s.offsets.length) : t.batch partitions i = s.batch partitions i := by
  unfold Ingestion.batch
  rw [arrives.startOf]
  apply List.flatMap_congr
  intro p _
  exact slice_prefix (arrives.1 p) (exact.within _ planned p)

theorem Exact.arrives (exact : Exact identity partitions s) (arrives : s.Arrives t) :
    Exact identity partitions t := by
  have kept : ∀ i < s.offsets.length, t.batch partitions i = s.batch partitions i :=
    fun i planned => exact.batch_arrives arrives planned
  have starts := arrives.startOf
  obtain ⟨grown, same⟩ := arrives
  have offsets : t.offsets = s.offsets := by rw [same]
  have commits : t.commits = s.commits := by rw [same]
  have appended : t.appended = s.appended := by rw [same]
  constructor
  · rw [commits, offsets]
    exact exact.lower
  · rw [commits, offsets]
    exact exact.upper
  · rw [offsets, starts]
    exact exact.monotone
  · rw [offsets, starts]
    exact fun i planned p => (exact.within i planned p).trans (grown p).length_le
  · rw [appended]
    exact exact.sorted
  · rw [appended, offsets]
    exact exact.planned
  · rw [appended, same]
    exact exact.version
  · have batches : (t.appended.flatMap fun i => (t.batch partitions i).map KafkaRecord.position) =
        s.appended.flatMap fun i => (s.batch partitions i).map KafkaRecord.position := by
      rw [appended]
      apply List.flatMap_congr
      intro i member
      rw [kept i (exact.planned i member)]
    rw [batches, same]
    exact exact.rows
  · intro i committed nonempty
    rw [commits] at committed
    rw [kept i (committed.trans_le exact.lower)] at nonempty
    rw [appended]
    exact exact.complete i committed nonempty

theorem Current.arrives {batchId : Nat} {records : List KafkaRecord}
    (current : Current partitions batchId records s) (exact : Exact identity partitions s)
    (arrives : s.Arrives t) : Current partitions batchId records t := by
  have kept :=
    exact.batch_arrives arrives (i := batchId) (by rw [current.planned]; exact Nat.lt_succ_self _)
  refine ⟨?_, ?_, kept.trans current.batch⟩
  · rw [arrives.2]
    exact current.commits
  · rw [arrives.2]
    exact current.planned

theorem Exact.plan (exact : Exact identity partitions s) (done : s.commits = s.offsets.length)
    {stop : Int → Nat}
    (ahead : ∀ p, s.startOf s.commits p ≤ stop p ∧ stop p ≤ (s.log.records p).length) :
    Exact identity partitions (s.plan stop) := by
  have length : (s.plan stop).offsets.length = s.offsets.length + 1 := by simp [Ingestion.plan]
  constructor
  · rw [length]
    exact Nat.le_succ_of_le exact.lower
  · rw [length, ← done]
    exact Nat.le_refl _
  · intro i planned p
    rw [length, Nat.lt_succ_iff_lt_or_eq] at planned
    obtain before | last := planned
    · rw [startOf_plan (Nat.le_of_lt before), startOf_plan before]
      exact exact.monotone i before p
    · rw [last, startOf_plan (Nat.le_refl _), startOf_plan_last, ← done]
      exact (ahead p).1
  · intro i planned p
    rw [length, Nat.le_succ_iff] at planned
    obtain before | last := planned
    · rw [startOf_plan before]
      exact exact.within i before p
    · rw [last, startOf_plan_last]
      exact (ahead p).2
  · exact exact.sorted
  · intro i member
    rw [length]
    exact Nat.lt_succ_of_lt (exact.planned i member)
  · exact exact.version
  · have batches : (s.appended.flatMap fun i => ((s.plan stop).batch partitions i).map KafkaRecord.position) =
        s.appended.flatMap fun i => (s.batch partitions i).map KafkaRecord.position := by
      apply List.flatMap_congr
      intro i member
      rw [batch_plan (exact.planned i member)]
    show (s.rows.map BronzeRow.position).Perm _
    rw [show (s.plan stop).appended = s.appended from rfl, batches]
    exact exact.rows
  · intro i committed nonempty
    rw [batch_plan (committed.trans_le exact.lower)] at nonempty
    exact exact.complete i committed nonempty

/-- The batch in hand is skipped exactly when its append has taken effect. -/
theorem Exact.held_iff (exact : Exact identity partitions s) {batchId : Nat}
    (planned : s.offsets.length = batchId + 1) : s.Held identity batchId ↔ batchId ∈ s.appended := by
  unfold Ingestion.Held
  rw [exact.version]
  constructor
  · intro held
    obtain ⟨last, is_last, newer⟩ := held
    have member := List.mem_of_getLast? is_last
    have below := exact.planned last member
    have same : batchId = last := by omega
    exact same ▸ member
  · intro member
    have nonempty := List.ne_nil_of_mem member
    refine ⟨s.appended.getLast nonempty, List.getLast?_eq_some_getLast nonempty, ?_⟩
    have sorted := exact.sorted
    rw [← List.dropLast_concat_getLast nonempty] at member sorted
    obtain earlier | is_last := List.mem_append.1 member
    · exact Nat.le_of_lt ((List.pairwise_append.1 sorted).2.2 _ earlier _ (List.mem_singleton_self _))
    · exact Nat.le_of_eq (List.mem_singleton.1 is_last)

/-- An append of the batch in hand that takes effect. -/
theorem Exact.append (exact : Exact identity partitions s) {batchId : Nat} {records : List KafkaRecord}
    (current : Current partitions batchId records s) (fresh : ¬ s.Held identity batchId)
    {rows : List BronzeRow} (decoded : (rows.map BronzeRow.position).Perm (records.map KafkaRecord.position)) :
    Exact identity partitions (s.append identity batchId rows) := by
  have absent : batchId ∉ s.appended := fun member => fresh ((exact.held_iff current.planned).2 member)
  constructor
  · exact exact.lower
  · exact exact.upper
  · exact exact.monotone
  · exact exact.within
  · apply List.pairwise_append.2
    refine ⟨exact.sorted, List.pairwise_singleton _ _, ?_⟩
    intro i member j last
    rw [List.mem_singleton.1 last]
    have below := exact.planned i member
    have other : i ≠ batchId := fun same => absent (same ▸ member)
    have length := current.planned
    omega
  · intro i member
    obtain old | last := List.mem_append.1 member
    · exact exact.planned i old
    · rw [List.mem_singleton.1 last]
      exact current.planned.symm ▸ Nat.lt_succ_self _
  · simp [Ingestion.append]
  · show ((s.rows ++ rows).map BronzeRow.position).Perm
      ((s.appended ++ [batchId]).flatMap fun i => (s.batch partitions i).map KafkaRecord.position)
    rw [List.map_append, List.flatMap_append, List.flatMap_singleton, current.batch]
    exact exact.rows.append decoded
  · intro i committed nonempty
    exact List.mem_append_left _ (exact.complete i committed nonempty)

theorem Exact.commit (exact : Exact identity partitions s) {batchId : Nat} {records : List KafkaRecord}
    (current : Current partitions batchId records s) (appended : records ≠ [] → batchId ∈ s.appended) :
    Exact identity partitions { s with commits := batchId + 1 } := by
  constructor
  · exact current.planned.symm.le
  · exact current.planned.le.trans (Nat.le_succ _)
  · exact exact.monotone
  · exact exact.within
  · exact exact.sorted
  · exact exact.planned
  · exact exact.version
  · exact exact.rows
  · intro i committed nonempty
    obtain before | last := Nat.lt_succ_iff_lt_or_eq.1 committed
    · exact exact.complete i (current.commits.symm ▸ before) nonempty
    · subst last
      exact appended (current.batch ▸ nonempty)

/-! ## Runs -/

/-- While a batch is in hand. -/
structure Working (identity : String) (partitions : List Int) (batchId : Nat)
    (records : List KafkaRecord) (s : Ingestion topic) : Prop where
  exact : Exact identity partitions s
  current : Current partitions batchId records s

variable {cfg : Settings} {spark : Spark} {batchId : Nat} {records : List KafkaRecord}

theorem Working.arrives (working : Working identity partitions batchId records s)
    (arrives : s.Arrives t) : Working identity partitions batchId records t :=
  ⟨working.exact.arrives arrives, working.current.arrives working.exact arrives⟩

theorem Exact.nextBatch (exact : Exact identity partitions s) {planned : Nat × List KafkaRecord}
    (step : IngestExec partitions .nextBatch s planned t) :
    Working identity partitions planned.1 planned.2 t := by
  obtain ⟨u, arrives, step⟩ := step
  replace exact := exact.arrives arrives
  cases step with
  | replayed uncommitted =>
    refine ⟨exact, rfl, ?_, rfl⟩
    exact Nat.le_antisymm exact.upper uncommitted
  | planned done ahead =>
    refine ⟨exact.plan done ahead, rfl, ?_, rfl⟩
    rw [done]
    exact List.length_append

/-- An attempt of the append leaves the batch in hand; one that returns has it in the table. -/
theorem Working.append (working : Working identity partitions batchId records s) {rows : List BronzeRow}
    (decoded : (rows.map BronzeRow.position).Perm (records.map KafkaRecord.position))
    {answer : Except PyException Unit} (step : IngestExec partitions (.append identity batchId rows) s answer t) :
    Working identity partitions batchId records t ∧ (answer = .ok () → batchId ∈ t.appended) := by
  obtain ⟨u, arrives, step⟩ := step
  replace working := working.arrives arrives
  have takes (fresh : ¬ u.Held identity batchId) :
      Working identity partitions batchId records (u.append identity batchId rows) :=
    ⟨working.exact.append working.current fresh decoded, working.current.commits, working.current.planned,
      working.current.batch⟩
  cases step with
  | skipped held => exact ⟨working, fun _ => (working.exact.held_iff working.current.planned).1 held⟩
  | appended fresh => exact ⟨takes fresh, fun _ => List.mem_append_right _ (List.mem_singleton_self _)⟩
  | appendLost fresh => exact ⟨takes fresh, fun returned => by cases returned⟩
  | appendFailed => exact ⟨working, fun returned => by cases returned⟩

theorem always_pauseAfter (working : Working identity partitions batchId records s) (attempt : Nat) :
    Prog.Always (IngestExec partitions) (fun _ => Exact identity partitions)
      (fun _ => Working identity partitions batchId records) (pauseAfter cfg attempt) s := by
  refine ⟨working.exact, ?_⟩
  intro drawn t drawing
  obtain ⟨u, arrives, step⟩ := drawing
  cases step
  replace working := working.arrives arrives
  refine ⟨working.exact, ?_⟩
  intro slept v sleeping
  obtain ⟨w, arrives, step⟩ := sleeping
  cases step
  exact working.arrives arrives

theorem always_appendBronze (working : Working identity partitions batchId records s)
    {rows : List BronzeRow}
    (decoded : (rows.map BronzeRow.position).Perm (records.map KafkaRecord.position)) :
    Prog.Always (IngestExec partitions) (fun _ => Exact identity partitions)
      (fun r t => Working identity partitions batchId records t ∧
        ((∃ result, r = .ok result) → batchId ∈ t.appended))
      (appendBronze cfg rows identity batchId) s := by
  apply always_retry (fun _ => Working identity partitions batchId records)
    (fun _ => Working identity partitions batchId records) _ _ working
  · intro n t _ before
    refine ⟨before.exact, ?_⟩
    intro answer u step
    obtain ⟨after, returned⟩ := before.append decoded step
    cases answer with
    | ok value => exact ⟨after, fun _ => returned rfl⟩
    | error exc => exact ⟨⟨after, fun h => by obtain ⟨_, h⟩ := h; cases h⟩, after⟩
  · intro n t after
    apply (always_pauseAfter after n).mono (fun _ _ guard => guard)
    intro r u paused
    cases r with
    | ok _ => exact paused
    | error exc => exact ⟨paused, fun h => by obtain ⟨_, h⟩ := h; cases h⟩

/-- An execution of `process` on the batch in hand: where it returns, a batch with records is
in the table. -/
theorem always_process (working : Working identity partitions batchId records s) :
    Prog.Always (IngestExec partitions) (fun _ => Exact identity partitions)
      (fun r t => Working identity partitions batchId records t ∧
        (r = .ok () → records ≠ [] → batchId ∈ t.appended))
      (process cfg spark identity records batchId) s := by
  unfold process
  cases records with
  | nil => exact ⟨working, fun _ nonempty => absurd rfl nonempty⟩
  | cons record rest =>
    refine ⟨working.exact, ?_⟩
    intro registry t asked
    obtain ⟨u, arrives, step⟩ := asked
    cases step
    replace working := working.arrives arrives
    refine ⟨working.exact, ?_⟩
    intro now v asked
    obtain ⟨w, arrives, step⟩ := asked
    cases step
    replace working := working.arrives arrives
    show Prog.Always _ _ _ (Prog.bind (.done (decode spark registry now (record :: rest))) _) v
    cases returned : decode spark registry now (record :: rest) with
    | error exc => exact ⟨working, fun ok => by cases ok⟩
    | ok frame =>
      cases frame with
      | none => exact absurd returned (decode_ne_none (List.cons_ne_nil _ _))
      | some decoded =>
        apply Prog.Always.seq (always_appendBronze working (perm_of_decode returned))
        intro r x ended
        obtain ⟨after, appended⟩ := ended
        cases r with
        | ok result => exact ⟨after, fun _ _ => appended ⟨result, rfl⟩⟩
        | error exc => exact ⟨after, fun ok => by cases ok⟩

theorem always_runQuery (triggers : Nat) (exact : Exact identity partitions s) :
    Prog.Always (IngestExec partitions) (fun _ => Exact identity partitions)
      (fun _ => Exact identity partitions) (runQuery cfg spark identity triggers) s := by
  induction triggers generalizing s with
  | zero => exact exact
  | succ triggers ih =>
    refine ⟨exact, ?_⟩
    intro planned t step
    have working := exact.nextBatch step
    apply Prog.Always.seq (always_process working)
    intro r u ended
    obtain ⟨after, appended⟩ := ended
    cases r with
    | error exc => exact after.exact
    | ok _ =>
      refine ⟨after.exact, ?_⟩
      intro done v committing
      obtain ⟨w, arrives, step⟩ := committing
      cases step
      apply ih
      apply (after.exact.arrives arrives).commit (after.current.arrives after.exact arrives)
      intro nonempty
      rw [arrives.2]
      exact appended rfl nonempty

/-- What every reachable state of the stage satisfies. -/
theorem exact_of_reachable (h : (kafkaToBronze cfg spark identity topic partitions).Reachable s) :
    Exact identity partitions s := by
  apply h.invariant
  · intro s fresh
    exact exact_fresh fresh
  · intro triggers s s₀ exact arrives
    exact always_runQuery triggers (exact.arrives arrives)

/-! ## What the table holds -/

theorem Exact.startOf_mono (exact : Exact identity partitions s) {i j : Nat} (le : i ≤ j)
    (planned : j ≤ s.offsets.length) (p : Int) : s.startOf i p ≤ s.startOf j p := by
  induction j, le using Nat.le_induction with
  | base => exact Nat.le_refl _
  | succ j _ ih => exact (ih (by omega)).trans (exact.monotone j planned p)

theorem mem_batch {i : Nat} {r : KafkaRecord} : r ∈ s.batch partitions i ↔
    ∃ p ∈ partitions, ∃ k, s.startOf i p ≤ k ∧ k < s.startOf (i + 1) p ∧ (s.log.records p)[k]? = some r := by
  rw [Ingestion.batch, List.mem_flatMap]
  simp only [mem_slice]

theorem nodup_position (log : TopicLog topic) (p : Int) :
    ((log.records p).map KafkaRecord.position).Nodup := by
  rw [List.Nodup, List.pairwise_map]
  apply (log.ordered p).imp
  intro a b before same
  have offsets : a.offset = b.offset := congrArg (fun position : Position => position.2.2) same
  exact absurd offsets (ne_of_lt before)

/-- A position names one record of the topic. -/
theorem position_injective {log : TopicLog topic} {p q : Int} {k l : Nat} {r r' : KafkaRecord}
    (at_k : (log.records p)[k]? = some r) (at_l : (log.records q)[l]? = some r')
    (same : r.position = r'.position) : p = q ∧ k = l := by
  have partition : r.partition = r'.partition := congrArg (fun position : Position => position.2.1) same
  rw [(log.own p r (List.mem_of_getElem? at_k)).2, (log.own q r' (List.mem_of_getElem? at_l)).2] at partition
  subst partition
  refine ⟨rfl, ?_⟩
  have below : k < (log.records p).length := (List.getElem?_eq_some_iff.1 at_k).1
  have nodup := nodup_position log p
  apply (List.getElem?_inj (by rw [List.length_map]; exact below) nodup).1
  rw [List.getElem?_map, List.getElem?_map, at_k, at_l]
  exact congrArg some same

theorem nodup_batch (distinct : partitions.Nodup) (i : Nat) :
    ((s.batch partitions i).map KafkaRecord.position).Nodup := by
  unfold Ingestion.batch
  rw [List.map_flatMap, List.nodup_flatMap]
  constructor
  · intro p _
    have part : (slice (s.log.records p) (s.startOf i p) (s.startOf (i + 1) p)).Sublist (s.log.records p) :=
      (List.drop_sublist _ _).trans (List.take_sublist _ _)
    exact (nodup_position s.log p).sublist (part.map _)
  · apply distinct.imp
    intro p q different position in_p in_q
    obtain ⟨r, r_in, rfl⟩ := List.mem_map.1 in_p
    obtain ⟨r', r'_in, same⟩ := List.mem_map.1 in_q
    obtain ⟨k, -, -, at_k⟩ := mem_slice.1 r_in
    obtain ⟨l, -, -, at_l⟩ := mem_slice.1 r'_in
    exact different (position_injective at_k at_l same.symm).1

/-- No record belongs to two batches. -/
theorem Exact.disjoint (exact : Exact identity partitions s) {i j : Nat} (before : i < j)
    (planned : j < s.offsets.length) : List.Disjoint ((s.batch partitions i).map KafkaRecord.position)
      ((s.batch partitions j).map KafkaRecord.position) := by
  intro position in_i in_j
  obtain ⟨r, r_in, rfl⟩ := List.mem_map.1 in_i
  obtain ⟨r', r'_in, same⟩ := List.mem_map.1 in_j
  obtain ⟨p, -, k, -, ended, at_k⟩ := mem_batch.1 r_in
  obtain ⟨q, -, l, started, -, at_l⟩ := mem_batch.1 r'_in
  obtain ⟨rfl, rfl⟩ := position_injective at_k at_l same.symm
  have le := exact.startOf_mono (Nat.succ_le_of_lt before) (Nat.le_of_lt planned) p
  exact absurd (ended.trans_le (le.trans started)) (Nat.lt_irrefl _)

theorem Exact.nodup (exact : Exact identity partitions s) (distinct : partitions.Nodup) :
    (s.rows.map BronzeRow.position).Nodup := by
  rw [exact.rows.nodup_iff, List.nodup_flatMap]
  constructor
  · intro i _
    exact nodup_batch distinct i
  · apply exact.sorted.imp_of_mem
    intro i j _ member before
    exact exact.disjoint before (exact.planned j member)

/-- A position below the end of the planned batches lies in one of them. -/
theorem exists_batch {p : Int} {n k : Nat} (below : k < s.startOf n p) :
    ∃ i < n, s.startOf i p ≤ k ∧ k < s.startOf (i + 1) p := by
  induction n with
  | zero => exact absurd below (Nat.not_lt_zero _)
  | succ n ih =>
    obtain earlier | last := Nat.lt_or_ge k (s.startOf n p)
    · obtain ⟨i, before, covered⟩ := ih earlier
      exact ⟨i, Nat.lt_succ_of_lt before, covered⟩
    · exact ⟨n, Nat.lt_succ_self n, last, below⟩

theorem Exact.passed (exact : Exact identity partitions s) {p : Int} (member : p ∈ partitions) {k : Nat}
    (below : k < s.startOf s.commits p) {r : KafkaRecord} (at_k : (s.log.records p)[k]? = some r) :
    r.position ∈ s.rows.map BronzeRow.position := by
  obtain ⟨i, committed, started, ended⟩ := exists_batch below
  have in_batch : r ∈ s.batch partitions i := mem_batch.2 ⟨p, member, k, started, ended, at_k⟩
  have appended := exact.complete i committed (List.ne_nil_of_mem in_batch)
  rw [exact.rows.mem_iff]
  exact List.mem_flatMap.2 ⟨i, appended, List.mem_map_of_mem in_batch⟩

/-- **Bronze is exactly-once.** At every point of every run of the stage, the table holds
the records of each appended batch once and nothing else; no batch is appended twice, no
record is in the table twice, and a record the committed progress has passed is there. -/
theorem bronze_exactly_once (cfg : Settings) (spark : Spark) (identity topic : String)
    (partitions : List Int) (distinct : partitions.Nodup) (s : Ingestion topic)
    (h : (kafkaToBronze cfg spark identity topic partitions).Reachable s) :
    (s.rows.map BronzeRow.position).Perm
      (s.appended.flatMap fun i => (s.batch partitions i).map KafkaRecord.position) ∧
    s.appended.Nodup ∧
    (s.rows.map BronzeRow.position).Nodup ∧
    ∀ p ∈ partitions, ∀ k < s.startOf s.commits p, ∀ r, (s.log.records p)[k]? = some r →
      r.position ∈ s.rows.map BronzeRow.position := by
  have exact := exact_of_reachable h
  refine ⟨exact.rows, exact.sorted.imp (fun before => ne_of_lt before), exact.nodup distinct, ?_⟩
  intro p member k below r at_k
  exact exact.passed member below at_k

/-! ## A crash between the two logs -/

/-- A topic with one record that cannot be decoded. -/
def demoTopic : TopicLog "unsubscribe-priority" where
  records p := if p = 0 then [kafkaRecord none 0] else []
  own p r member := by
    split at member
    · rename_i zero
      rw [List.mem_singleton.1 member]
      exact ⟨rfl, zero.symm⟩
    · cases member
  ordered p := by
    split
    · exact List.pairwise_singleton _ _
    · exact .nil

def demoIngestion : Ingestion "unsubscribe-priority" where
  log := demoTopic
  offsets := []
  commits := 0
  rows := []
  txnVersion _ := none
  appended := []

/-- The first batch takes everything there is, and no append fails. -/
def demoEngine : (o : IngestOp) → Ingestion topic → Option (o.Answer × Ingestion topic)
  | .nextBatch, s =>
    if s.commits < s.offsets.length then some ((s.commits, s.batch [0] s.commits), s)
    else if s.commits = 0 ∧ s.offsets.length = 0 then
      let t := s.plan fun p => (s.log.records p).length
      some ((s.commits, t.batch [0] s.commits), t)
    else none
  | .registry, s => some (demoRegistry, s)
  | .currentTimestamp, s => some (0, s)
  | .append app version rows, s =>
    if (s.txnVersion app).any fun last => version ≤ last then some (.ok (), s)
    else some (.ok (), s.append app version rows)
  | .random, s => some (0, s)
  | .sleep _, s => some ((), s)
  | .commitBatch batchId, s => some ((), { s with commits := batchId + 1 })

theorem demoEngine_sound (o : IngestOp) (s : Ingestion topic) (a : o.Answer) (t : Ingestion topic)
    (answered : demoEngine o s = some (a, t)) : IngestExec [0] o s a t := by
  refine ⟨s, ⟨fun _ => List.prefix_rfl, rfl⟩, ?_⟩
  cases o with
  | nextBatch =>
    simp only [demoEngine] at answered
    split at answered
    · cases answered
      exact .replayed ‹_›
    · split at answered
      · rename_i fresh
        cases answered
        obtain ⟨first, empty⟩ := fresh
        refine .planned (first.trans empty.symm) fun p => ⟨?_, Nat.le_refl _⟩
        rw [first]
        exact Nat.zero_le _
      · cases answered
  | registry => cases answered; exact .registry
  | currentTimestamp => cases answered; exact .currentTimestamp
  | append app version rows =>
    simp only [demoEngine] at answered
    split at answered
    · rename_i held
      cases answered
      obtain ⟨last, found, newer⟩ := (Option.any_eq_true _ _).1 held
      exact .skipped ⟨last, found, of_decide_eq_true newer⟩
    · rename_i free
      cases answered
      refine .appended fun held => free ?_
      obtain ⟨last, found, newer⟩ := held
      rw [found]
      exact decide_eq_true newer
  | random => cases answered; exact .random
  | sleep seconds => cases answered; exact .sleep
  | commitBatch batchId => cases answered; exact .committed

/-- The query is stopped after the append and before the commit, and started again. -/
def replayedIngestion : Ingestion "unsubscribe-priority" :=
  (Prog.play demoEngine 5 (runQuery Settings.defaults demoSpark "checkpoint" 1,
    (Prog.play demoEngine 4 (runQuery Settings.defaults demoSpark "checkpoint" 1, demoIngestion)).2)).2

theorem bronze_exactly_once_replayed :
    replayedIngestion.commits = 1 ∧ replayedIngestion.appended = [0] ∧
    replayedIngestion.rows.map BronzeRow.position = [("unsubscribe-priority", 0, 0)] ∧
    (replayedIngestion.rows.map BronzeRow.position).Nodup := by
  have start : (kafkaToBronze Settings.defaults demoSpark "checkpoint" "unsubscribe-priority" [0]).Reachable
      demoIngestion := .init ⟨rfl, rfl, rfl, fun _ => rfl, rfl⟩
  have crashed := start.play (k := 1) ⟨fun _ => List.prefix_rfl, rfl⟩ demoEngine_sound 4
  have replayed := crashed.play (k := 1) ⟨fun _ => List.prefix_rfl, rfl⟩ demoEngine_sound 5
  have safe := bronze_exactly_once Settings.defaults demoSpark "checkpoint" "unsubscribe-priority" [0]
    (List.nodup_singleton 0) replayedIngestion replayed
  exact ⟨by decide +kernel, by decide +kernel, by decide +kernel, safe.2.2.1⟩

end Tikblog.Analytics
