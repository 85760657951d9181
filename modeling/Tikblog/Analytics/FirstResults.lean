import Tikblog.Analytics.Keys
import Tikblog.Analytics.Agreement

/-!
# The results of the first attempt that wrote any

A microbatch is run again under its run id. `write_dq` comes before the merge, and the insert
keeps what is there: the results of the run are those of the one attempt that stored them
(`StoringAttempt`), computed against the Silver in which it began and which the run had not
merged into, and every later attempt finds its keys taken.
-/

namespace Tikblog.Analytics

open Python Program Table

/-- No record is future-dated at one of the two times and past at the other. -/
def SameSide (batch : Frame) (now now' : Instant) : Prop :=
  ∀ row ∈ batch.rows, ∀ t, row .requestedAt = some (.timestamp t) → (t ≤ now ↔ t ≤ now')

/-- The checks of the run read times on the same side of every record's date as `instant`. -/
def ReadsOnSide (batch : Frame) (runId : String) (instant : Instant) (k : Call) :
    Exec LakeOp LakeOp.Answer World :=
  fun o _ a _ => match o, a with
    | .currentTimestamp .checks, .ok now => k.runId = runId → SameSide batch instant now
    | _, _ => True

/-- The histories in which no record of the microbatch passes from future-dated to past between
attempts of the run; `instant` is the time of any of them. -/
def retriedLake (env : Env) (tick : Instant → Instant → Prop) (batch : Frame) (runId pipeline : String)
    (instant : Instant) : System Call LakeOp LakeOp.Answer PyException Unit World :=
  (lake env tick (OwnRun runId pipeline batch)).restrict (ReadsOnSide batch runId instant)

/-! ## The keys of an attempt -/

section Keys

variable {env : Env} {runId pipeline : String} {batch : Frame}

theorem mem_checkKeys {now : Instant} {key : String × String × String} :
    key ∈ (checkRows env runId pipeline (checkedRows now batch)).map DqResult.key ↔
      ∃ r ∈ batch.rows, ∃ check : Check,
        key = (runId, sourceOrUnknown (some ((r.string .source).getD "UNKNOWN")), check.name) := by
  rw [checkRows_keys, List.mem_map]
  constructor
  · rintro ⟨⟨source, check⟩, listed, rfl⟩
    obtain ⟨c, hc, rfl⟩ := mem_groups.1 (List.mem_product.1 listed).1
    obtain ⟨r, hr, rfl⟩ := List.mem_map.1 hc
    refine ⟨r, hr, check, ?_⟩
    rw [string_checkedRow]
  · rintro ⟨r, hr, check, rfl⟩
    refine ⟨(_, check), List.mem_product.2 ⟨mem_groups.2 ⟨_, List.mem_map_of_mem hr, ?_⟩, check.mem_all⟩, rfl⟩
    exact string_checkedRow

theorem mem_duplicateKeys {check : String} {valid : List Row}
    {total failed : List Row → Option String → Nat}
    {key : String × String × String} :
    key ∈ (duplicateRows env runId pipeline check valid total failed).map DqResult.key ↔
      ∃ row ∈ valid, key = (runId, sourceOrUnknown (row.string .source), check) := by
  rw [duplicateRows, List.map_map, List.mem_map]
  constructor
  · rintro ⟨source, listed, rfl⟩
    obtain ⟨row, hrow, rfl⟩ := mem_groups.1 listed
    exact ⟨row, hrow, rfl⟩
  · rintro ⟨row, hrow, rfl⟩
    exact ⟨_, mem_groups.2 ⟨row, hrow, rfl⟩, rfl⟩

/-- A later attempt, against a Silver that has grown, has no keys that an attempt on the same side
of every date has not. -/
theorem attemptKeys_subset {silver silver' unique unique' : Frame} {now now' instant : Instant}
    (own : silverColumns <+: silver.schema) (grown : silver.schema <+: silver'.schema)
    (before : SameSide batch instant now) (after : SameSide batch instant now') :
    (attemptRows env runId pipeline silver' batch now' unique').map DqResult.key ⊆
      (attemptRows env runId pipeline silver batch now unique).map DqResult.key := by
  have checks : ∀ key ∈ (checkRows env runId pipeline
        (checkedRows now' (conform env silver'.schema batch))).map DqResult.key,
      key ∈ (checkRows env runId pipeline (checkedRows now (conform env silver.schema batch))).map DqResult.key := by
    intro key member
    obtain ⟨r, hr, check, rfl⟩ := mem_checkKeys.1 member
    have listed : r.string .source ∈ batch.rows.map (·.string .source) := by
      rw [← source_conform env (own.trans grown)]
      exact List.mem_map_of_mem hr
    rw [← source_conform env own] at listed
    obtain ⟨r', hr', same⟩ := List.mem_map.1 listed
    exact mem_checkKeys.2 ⟨r', hr', check, by rw [same]⟩
  have valid : ∀ row ∈ (validFrame now' (conform env silver'.schema batch)).rows,
      row ∈ (validFrame now (conform env silver.schema batch)).rows := by
    intro row member
    obtain ⟨r, hr, passes, rfl⟩ := mem_validFrame.1 member
    obtain ⟨fits, listed⟩ := passes_conform hr passes
    have fitted : conform env silver.schema batch = batch := by
      unfold conform
      rw [if_pos (fits_before grown fits)]
    rw [fitted]
    refine mem_validFrame.2 ⟨r, listed, passes.at fun t value past => ?_, rfl⟩
    exact (before r listed t value).1 ((after r listed t value).2 past)
  intro key member
  simp only [attemptRows, List.map_append, List.mem_append] at member ⊢
  obtain (first | second) | third := member
  · exact .inl (.inl (checks key first))
  · obtain ⟨row, hrow, rfl⟩ := mem_duplicateKeys.1 second
    exact .inl (.inr (mem_duplicateKeys.2 ⟨row, valid row hrow, rfl⟩))
  · obtain ⟨row, hrow, rfl⟩ := mem_duplicateKeys.1 third
    exact .inr (mem_duplicateKeys.2 ⟨row, valid row hrow, rfl⟩)

end Keys

/-! ## The results of the run -/

/-- Nothing is stored or merged under the run id. -/
structure Untouched (runId : String) (s : World) : Prop where
  results : resultsOf runId s = []
  inserted : ∀ row, (runId, row) ∉ s.inserted

section Histories

variable {env : Env} {tick : Instant → Instant → Prop} {batch : Frame} {runId pipeline : String}
  {instant : Instant} {s t u v : World}

/-- The attempt from `u` to `v` stored the results of the run, computed against the Silver of `u`
at the time that it read. -/
structure StoringAttempt (env : Env) (tick : Instant → Instant → Prop) (batch : Frame) (runId pipeline : String)
    (instant : Instant) (u v : World) : Prop where
  session : ∃ p, (retriedLake env tick batch runId pipeline instant).Session (.validate batch runId pipeline) u p v
  untouched : Untouched runId u
  side : SameSide batch instant v.checkedAt
  results : ∃ unique, DistinctBy (· .eventId) (validFrame v.checkedAt (conformed env batch u)).rows unique.rows ∧
    (resultsOf runId v).map DqResult.undated = attemptRows env runId pipeline u.silver batch v.checkedAt unique

/-- The state at a point of a history: untouched, or with the results of the attempt that stored
them. -/
inductive RunResults (env : Env) (tick : Instant → Instant → Prop) (batch : Frame) (runId pipeline : String)
    (instant : Instant) (s : World) : Prop where
  | untouched (h : Untouched runId s)
  | stored {u v : World} (reachable : (retriedLake env tick batch runId pipeline instant).Reachable u)
      (attempt : StoringAttempt env tick batch runId pipeline instant u v)
      (leads : (retriedLake env tick batch runId pipeline instant).Leads v s)
      (grown : u.silver.schema <+: s.silver.schema) (same : resultsOf runId s = resultsOf runId v)

/-- What others leave alone. -/
structure Kept (runId : String) (s t : World) : Prop where
  results : resultsOf runId t = resultsOf runId s
  inserted : ∀ row, (runId, row) ∈ t.inserted ↔ (runId, row) ∈ s.inserted
  schema : s.silver.schema <+: t.silver.schema

theorem Kept.refl (s : World) : Kept runId s s := ⟨rfl, fun _ => Iff.rfl, List.prefix_rfl⟩

theorem Kept.untouched (kept : Kept runId s t) (h : Untouched runId s) : Untouched runId t where
  results := kept.results.trans h.results
  inserted row member := h.inserted row ((kept.inserted row).1 member)

theorem Kept.runResults {k : Call} {p : LakeM Unit} (kept : Kept runId s t)
    (session : (retriedLake env tick batch runId pipeline instant).Session k s p t)
    (h : RunResults env tick batch runId pipeline instant s) : RunResults env tick batch runId pipeline instant t := by
  cases h with
  | untouched h => exact .untouched (kept.untouched h)
  | stored reachable attempt leads grown same =>
    exact .stored reachable attempt (leads.tail ⟨k, p, session⟩) (grown.trans kept.schema) (kept.results.trans same)

/-- A call of another run. -/
theorem LakeExec.kept {runId' : String} {o : LakeOp} {a : o.Answer} (other : runId' ≠ runId)
    (elsewhere : Elsewhere runId o) (performed : LakeExec runId' o s a t) : Kept runId s t := by
  have schema := performed.extends.columns
  have still {t : World} {a : o.Result} (took : Effect runId' o s a t) :
      resultsOf runId t = resultsOf runId s ∧ ∀ row, (runId, row) ∈ t.inserted ↔ (runId, row) ∈ s.inserted := by
    cases took with
    | insertDqResults =>
      refine ⟨?_, fun _ => Iff.rfl⟩
      simp only [resultsOf, insertNew, List.filter_append]
      have nothing : (newRows DqResult.key s.dqResults _).filter (fun row => row.runId = runId) = [] :=
        List.filter_eq_nil_iff.2 fun row member own =>
          elsewhere row (List.mem_of_mem_filter member) (of_decide_eq_true own)
      rw [nothing, List.append_nil]
    | mergeSilver =>
      refine ⟨rfl, fun row => ?_⟩
      have mine (row' : Row) : ¬ (runId', row') = (runId, row) := fun same => other (congrArg Prod.fst same)
      simp [World.merge, mine]
    | _ => exact ⟨rfl, fun _ => Iff.rfl⟩
  cases performed with
  | raised => exact Kept.refl s
  | answered took | lost took => exact ⟨(still took).1, (still took).2, schema⟩

theorem Kept.trans (st : Kept runId s t) (tu : Kept runId t u) : Kept runId s u where
  results := tu.results.trans st.results
  inserted row := (tu.inserted row).trans (st.inserted row)
  schema := st.schema.trans tu.schema

/-- A section of another run. -/
theorem kept_of_other {k : Call} {p : LakeM Unit} (other : k.runId ≠ runId)
    (session : (retriedLake env tick batch runId pipeline instant).Session k s p t) : Kept runId s t := by
  obtain ⟨_, ⟨_, begin, _, rfl⟩, run⟩ := session
  have start : Kept runId s (s.at begin) := ⟨rfl, fun _ => Iff.rfl, List.prefix_rfl⟩
  have always : Prog.Always (LakeExec k.runId) (fun _ => Kept runId s) (fun _ => Kept runId s)
      (k.program env) (s.at begin) := by
    apply Prog.Always.of_uses _ (fun _ _ _ h => h) (yields_elsewhere other).uses start
    exact fun o elsewhere u a v kept performed => kept.trans (performed.kept other elsewhere)
  exact always.inv_of_run (fun _ _ h => h) (fun _ _ h => h) (run.of_le fun _ _ _ _ performed => performed.1)

/-- Results whose keys the run has already stored. -/
theorem Recorded.nothing_new {N : Instant → Prop} {now : Instant} {unique : Frame} {reports : List DqReport}
    (h : Recorded env batch runId pipeline N s now unique reports t)
    (taken : (attemptRows env runId pipeline s.silver batch now unique).map DqResult.key ⊆
      (resultsOf runId s).map DqResult.key) : t.dqResults = s.dqResults := by
  have none_new : newRows DqResult.key s.dqResults (reports.map (·.toDqResult)) = [] := by
    apply List.eq_nil_iff_forall_not_mem.2
    intro row member
    obtain ⟨written, fresh⟩ := mem_newRows.1 member
    obtain ⟨r, r_in, rfl⟩ := List.mem_map.1 written
    have listed : r.toDqResult.undated.key ∈ (resultsOf runId s).map DqResult.key :=
      taken (List.mem_map_of_mem (h.undated.mem r_in))
    obtain ⟨stored, stored_in, same⟩ := List.mem_map.1 listed
    exact fresh (List.mem_map.2 ⟨stored, List.mem_of_mem_filter stored_in, same⟩)
  rw [h.results, insertNew, none_new, List.append_nil]

/-- What an attempt does: it leaves all alone, stores the results, or finds them stored. -/
theorem runResults_of_own {p : LakeM Unit}
    (reachable : (retriedLake env tick batch runId pipeline instant).Reachable s)
    (h : RunResults env tick batch runId pipeline instant s)
    (session : (retriedLake env tick batch runId pipeline instant).Session (.validate batch runId pipeline) s p t) :
    RunResults env tick batch runId pipeline instant t ∧
      (Untouched runId s → Untouched runId t ∨ StoringAttempt env tick batch runId pipeline instant s t) ∧
      (¬ Untouched runId s → resultsOf runId t = resultsOf runId s) := by
  obtain ⟨_, ⟨_, begin, _, rfl⟩, run⟩ := id session
  have always : Prog.Always (Keeping runId (ReadsOnSide batch runId instant (.validate batch runId pipeline)))
      (fun _ => RecordStage env batch runId pipeline (SameSide batch instant) (s.at begin))
      (RecordEnded env batch runId pipeline (SameSide batch instant) (s.at begin))
      (validateAndMerge env batch runId pipeline) (s.at begin) :=
    validateAndMerge_records fun _ _ _ side => side rfl
  have stage := always.inv_of_run (fun _ _ h => h) (fun _ _ h => h.1) run
  have grown : s.silver.schema <+: t.silver.schema :=
    (run_extends (run.of_le fun _ _ _ _ performed => performed.1)).columns
  cases stage with
  | unrecorded still =>
    have kept : Kept runId s t :=
      ⟨congrArg (List.filter _) still.results, fun _ => still.inserted ▸ Iff.rfl, grown⟩
    exact ⟨kept.runResults session h, fun untouched => .inl (kept.untouched untouched), fun _ => kept.results⟩
  | @recorded now unique reports records =>
    have stores (untouched : Untouched runId s) : StoringAttempt env tick batch runId pipeline instant s t := by
      obtain rfl := records.checkedAt
      exact ⟨⟨p, session⟩, untouched, records.read, unique, records.distinct,
        records.undated_resultsOf untouched.results⟩
    cases h with
    | untouched untouched =>
      exact ⟨.stored reachable (stores untouched) .refl grown rfl, fun h => .inr (stores h), absurd untouched⟩
    | @stored u v reachable_u attempt leads grown_u same_v =>
      have own := own_of_reachable reachable_u.of_restrict
      obtain ⟨chosen, -, stored⟩ := attempt.results
      -- every key of this attempt is one of the first
      have keys : (attemptRows env runId pipeline s.silver batch now unique).map DqResult.key ⊆
          (attemptRows env runId pipeline u.silver batch v.checkedAt chosen).map DqResult.key :=
        attemptKeys_subset own grown_u attempt.side records.read
      have taken : (attemptRows env runId pipeline s.silver batch now unique).map DqResult.key ⊆
          (resultsOf runId s).map DqResult.key := by
        rw [← stored, ← same_v, List.map_map] at keys
        exact keys
      have same : resultsOf runId t = resultsOf runId s := by
        have nothing := records.nothing_new taken
        exact congrArg (List.filter _) nothing
      exact ⟨.stored reachable_u attempt (leads.tail ⟨_, p, session⟩) (grown_u.trans grown) (same.trans same_v),
        fun h => .inr (stores h), fun _ => same⟩

/-- One call of any run. -/
theorem runResults_of_session {k : Call} {p : LakeM Unit}
    (reachable : (retriedLake env tick batch runId pipeline instant).Reachable s)
    (h : RunResults env tick batch runId pipeline instant s)
    (session : (retriedLake env tick batch runId pipeline instant).Session k s p t) :
    RunResults env tick batch runId pipeline instant t ∧
      (Untouched runId s → Untouched runId t ∨ StoringAttempt env tick batch runId pipeline instant s t) ∧
      (¬ Untouched runId s → resultsOf runId t = resultsOf runId s) := by
  by_cases mine : k.runId = runId
  · obtain ⟨_, ⟨own, _⟩, _⟩ := id session
    cases k with
    | refresh dates runId' => exact absurd mine own
    | validate batch' runId' pipeline' =>
      obtain ⟨rfl, rfl⟩ := own mine
      obtain rfl : runId' = runId := mine
      exact runResults_of_own reachable h session
  · have kept := kept_of_other mine session
    exact ⟨kept.runResults session h, fun untouched => .inl (kept.untouched untouched), fun _ => kept.results⟩

/-- What holds at every point. -/
theorem runResults_of_reachable (h : (retriedLake env tick batch runId pipeline instant).Reachable s) :
    RunResults env tick batch runId pipeline instant s := by
  induction h with
  | init start =>
    obtain ⟨t, rfl⟩ := start
    exact .untouched ⟨rfl, fun _ member => by cases member⟩
  | session reachable session ih => exact (runResults_of_session reachable ih session).1

end Histories

/-! ## Who merged what Silver holds -/

/-- The history of insertions is that of Silver. -/
theorem inserted_rows {env : Env} {tick : Instant → Instant → Prop} {allowed : Call → Prop} {s : World}
    (h : (lake env tick allowed).Reachable s) : s.inserted.map Prod.snd = s.silver.rows := by
  apply h.invariant_of_ops
  · rintro s ⟨t, rfl⟩
    rfl
  · rintro k s s₀ same ⟨_, t, _, rfl⟩
    exact same
  · intro k o s a t same performed
    cases performed with
    | raised => exact same
    | answered took | lost took =>
      cases took with
      | mergeSilver mergeable =>
        show List.map Prod.snd (s.inserted ++ _) = s.silver.rows ++ _
        rw [List.map_append, same, List.map_map]
        exact congrArg _ (List.map_id _)
      | _ => exact same

/-- Every row of Silver was merged by another run. -/
theorem Untouched.foreign {env : Env} {tick : Instant → Instant → Prop} {allowed : Call → Prop}
    {runId : String}
    {u : World} (h : Untouched runId u) (reachable : (lake env tick allowed).Reachable u) :
    ∀ row ∈ u.silver.rows, ∃ other, other ≠ runId ∧ (other, row) ∈ u.inserted := by
  intro row member
  rw [← inserted_rows reachable] at member
  obtain ⟨⟨other, _⟩, listed, rfl⟩ := List.mem_map.1 member
  refine ⟨other, ?_, listed⟩
  rintro rfl
  exact h.inserted _ listed

theorem LakeExec.inserted {runId : String} {o : LakeOp} {s t : World} {r : o.Answer}
    (performed : LakeExec runId o s r t) : s.inserted <+: t.inserted := by
  cases performed with
  | raised => exact List.prefix_rfl
  | answered took | lost took =>
    cases took with
    | mergeSilver => exact List.prefix_append _ _
    | _ => exact List.prefix_rfl

theorem run_inserted {runId : String} {c d : LakeM Unit × World} (run : Prog.Run (LakeExec runId) c d) :
    c.2.inserted <+: d.2.inserted := by
  induction run with
  | refl => exact List.prefix_rfl
  | tail _ step ih =>
    cases step with
    | op performed => exact ih.trans performed.inserted

/-- What is stored or merged under the run id is not taken back. -/
theorem touched_of_leads {env : Env} {tick : Instant → Instant → Prop} {batch : Frame} {runId pipeline : String}
    {instant : Instant} {s t : World} (h : (retriedLake env tick batch runId pipeline instant).Reachable s)
    (touched : ¬ Untouched runId s) (leads : (retriedLake env tick batch runId pipeline instant).Leads s t) :
    (retriedLake env tick batch runId pipeline instant).Reachable t ∧ ¬ Untouched runId t ∧
      resultsOf runId t = resultsOf runId s := by
  induction leads with
  | refl => exact ⟨h, touched, rfl⟩
  | @tail t v _ step ih =>
    obtain ⟨reachable, touched_t, same⟩ := ih
    obtain ⟨k, p, session⟩ := step
    have kept := (runResults_of_session reachable (runResults_of_reachable reachable) session).2.2 touched_t
    refine ⟨reachable.session session, fun untouched => touched_t ⟨?_, ?_⟩, kept.trans same⟩
    · rw [← kept]
      exact untouched.results
    · obtain ⟨_, ⟨_, begin, _, rfl⟩, run⟩ := session
      have grown := run_inserted (run.of_le fun _ _ _ _ performed => performed.1)
      exact fun row member => untouched.inserted row (grown.subset member)

/-- **Retries preserve the results from before the merge.** Let a run id belong to one microbatch,
none of whose records passes from future-dated to past between attempts; let any of its attempts
stop anywhere, and any calls of other runs come between them. At every point of a history either
nothing is stored or merged under the run id, or its results are those that one attempt of the
history stored, computed at the time it read against the Silver in which it began, whose every
row another run had merged. The first call to store or merge anything under the run id is such an
attempt, and from there on no call adds a result of the run or changes one. -/
theorem retries_keep_results {env : Env} {tick : Instant → Instant → Prop} {batch : Frame}
    {runId pipeline : String} {instant : Instant} {s : World}
    (h : (retriedLake env tick batch runId pipeline instant).Reachable s) :
    (Untouched runId s ∨ ∃ u v, (retriedLake env tick batch runId pipeline instant).Reachable u ∧
      (∀ row ∈ u.silver.rows, ∃ other, other ≠ runId ∧ (other, row) ∈ u.inserted) ∧
      StoringAttempt env tick batch runId pipeline instant u v ∧
      (retriedLake env tick batch runId pipeline instant).Leads v s ∧ resultsOf runId s = resultsOf runId v) ∧
    (∀ k p t, (retriedLake env tick batch runId pipeline instant).Session k s p t → Untouched runId s →
      Untouched runId t ∨ StoringAttempt env tick batch runId pipeline instant s t) ∧
    ∀ t, (retriedLake env tick batch runId pipeline instant).Leads s t → ¬ Untouched runId s →
      resultsOf runId t = resultsOf runId s := by
  have state := runResults_of_reachable h
  refine ⟨?_, ?_, ?_⟩
  · cases state with
    | untouched untouched => exact .inl untouched
    | stored reachable attempt leads grown same =>
      exact .inr ⟨_, _, reachable, attempt.untouched.foreign reachable.of_restrict, attempt, leads, same⟩
  · exact fun k p t session => (runResults_of_session h state session).2.1
  · exact fun t leads touched => (touched_of_leads h touched leads).2.2

/-! ## The record of the demo -/

/-- Calls that `perform` answers at 20 are on the side of 20. -/
theorem perform_side {k : Call} {o : LakeOp} {s : World} (clock : s.clock = 20) :
    (LakeExec k.runId o s (perform k.runId o s).1 (perform k.runId o s).2 ∧
      ReadsOnSide demoBatch "run" 20 k o s (perform k.runId o s).1 (perform k.runId o s).2) ∧
    (perform k.runId o s).2.clock = 20 := by
  refine ⟨⟨perform_sound k.runId o s, ?_⟩, ?_⟩
  · cases o with
    | currentTimestamp purpose =>
      cases purpose with
      | checks =>
        intro _ row _ t _
        rw [clock]
      | _ => trivial
    | _ => trivial
  · cases o <;> simp only [perform] <;> (try split) <;> exact clock

/-- The attempts on the record of the demo at 20. -/
abbrev demoRetried : System Call LakeOp LakeOp.Answer PyException Unit World :=
  retriedLake demoEnv (fun _ _ => True) demoBatch "run" "priority_bronze_to_silver" 20

theorem demoRetried_stopped (s : World) (n : Nat) :
    demoRetried.Session demoCall s (Prog.evalSteps (perform "run") n (demoCall.program demoEnv, s.at 20)).1
      (s.stopped demoEnv demoCall 20 n) := by
  have sound (o : LakeOp) (s : World) (clock : s.clock = 20) := @perform_side demoCall o s clock
  obtain ⟨run, -⟩ := @Prog.run_evalSteps _ _ _ _ _ (demoRetried.exec demoCall) (perform "run")
    (fun s => s.clock = 20) sound n (demoCall.program demoEnv, s.at 20) rfl
  exact ⟨s.at 20, ⟨demoCall_ownRun, 20, trivial, rfl⟩, run⟩

/-- **Merged, and tried again.** The first attempt stores the results; the second finds its own
record in Silver, and they stay. -/
theorem retries_keep_results_demo :
    StoringAttempt demoEnv (fun _ _ => True) demoBatch "run" "priority_bronze_to_silver" 20 (.bootstrap 0) demoMerged ∧
      resultsOf "run" (demoMerged.stopped demoEnv demoCall 20 40) = resultsOf "run" demoMerged ∧
      demoMerged.silver.rows ≠ [] := by
  have start : demoRetried.Reachable (.bootstrap 0) := .init ⟨0, rfl⟩
  have first := demoRetried_stopped (.bootstrap 0) 20
  have stored : resultsOf "run" demoMerged ≠ [] := by decide +kernel
  have merged : demoMerged.silver.rows.length = 1 := by decide +kernel
  have touched : ¬ Untouched "run" demoMerged := fun none => stored none.results
  refine ⟨?_, ?_, ?_⟩
  · have blank : Untouched "run" (.bootstrap 0) := ⟨rfl, fun _ member => by cases member⟩
    exact ((retries_keep_results start).2.1 demoCall _ _ first blank).resolve_left touched
  · exact (retries_keep_results (start.session first)).2.2 _ (.single ⟨_, _, demoRetried_stopped _ 40⟩) touched
  · intro empty
    rw [empty] at merged
    cases merged

end Tikblog.Analytics
