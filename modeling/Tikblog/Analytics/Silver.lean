import Tikblog.Analytics.Acceptance

/-!
# Silver only grows, and by valid rows with fresh event ids

The invariant of the Silver table over any history of attempts. Uniqueness of the event id
needs both halves: the merge inserts no id that Silver holds, and `dropDuplicates` lets no
id through twice.
-/

namespace Tikblog.Analytics

open Python Program

/-- A row that may stand in Silver. -/
structure SilverRow (row : Row) : Prop where
  eventId : NotBlank row .eventId
  userId : NotBlank row .userId
  writerId : NotBlank row .writerId
  source : ∃ s ∈ sources, row .source = some (.string s)
  decodeError : row .decodeError = none
  timely : ∃ requestedAt processedAt, row .requestedAt = some (.timestamp requestedAt) ∧
    row .silverProcessedAt = some (.timestamp processedAt) ∧ requestedAt ≤ processedAt

structure SilverInvariant (silver : Frame) : Prop where
  unique : (silver.rows.map (· .eventId)).Nodup
  valid : ∀ row ∈ silver.rows, SilverRow row

/-- The rows and columns of `old` are in `new` as they were, and `old` reads null in the
columns that came later. -/
structure Extends (old new : Frame) : Prop where
  rows : old.rows <+: new.rows
  columns : old.schema <+: new.schema
  nulls : ∀ row ∈ old.rows, ∀ c, old.schema.typeOf c = none → row c = none

/-! ## One attempt -/

theorem NotBlank.congr {row row' : Row} {c : Column} (h : NotBlank row c) (same : row' c = row c) :
    NotBlank row' c := by
  obtain ⟨s, value, filled⟩ := h
  exact ⟨s, same.trans value, filled⟩

/-- A column that the job does not write has its Bronze value in Silver. -/
theorem processedRow_validRow {processedAt : Instant} {row : Row} {c : Column}
    (h : c ≠ .source ∧ c ≠ .failedChecks ∧ c ≠ .silverProcessedAt) :
    processedRow processedAt (validRow row) c = row c := by
  rw [processedRow_of_ne h.2.2, validRow_of_ne h.1 h.2.1]

/-- A row that passed at `now` is a Silver row at any later time. -/
theorem Passes.silverRow {now processedAt : Instant} {row : Row} (h : Passes now row)
    (order : now ≤ processedAt) : SilverRow (processedRow processedAt (validRow row)) := by
  have accepted := h.accepted
  constructor
  · exact accepted.eventId.congr (processedRow_validRow (by decide))
  · exact accepted.userId.congr (processedRow_validRow (by decide))
  · exact accepted.writerId.congr (processedRow_validRow (by decide))
  · obtain ⟨s, known, value⟩ := accepted.source
    refine ⟨s, known, ?_⟩
    rw [processedRow_of_ne (by decide), validRow_source value]
  · rw [processedRow_validRow (by decide)]
    exact accepted.decodeError
  · obtain ⟨t, past, value⟩ := accepted.requestedAt
    refine ⟨t, processedAt, ?_, processedRow_self, le_trans past order⟩
    rw [processedRow_validRow (by decide)]
    exact value

section Attempt

variable {env : Env} {batch : Frame} {runId pipeline : String} {s₀ s : World}

theorem Merged.keeps_silver {now quarantinedAt processedAt : Instant} {unique : Frame}
    (h : Merged env batch runId pipeline s₀ now quarantinedAt processedAt unique s)
    (hs : SilverInvariant s₀.silver) : SilverInvariant s.silver := by
  constructor
  · rw [h.rows]
    exact Table.nodup_insertNew hs.unique h.unique_prepared
  · intro row hrow
    rw [h.rows] at hrow
    rcases List.mem_append.1 hrow with old | new
    · exact hs.valid row old
    · obtain ⟨r, _, passes, rfl⟩ := h.origin new
      exact passes.silverRow h.order

theorem Stage.keeps_silver (stage : Stage env batch runId pipeline s₀ s) (hs : SilverInvariant s₀.silver) :
    SilverInvariant s.silver := by
  cases stage with
  | begun h => exact h.silver ▸ hs
  | rejected h => exact h.silver ▸ hs
  | merged h => exact h.keeps_silver hs

theorem RefreshStage.silver {dates : List Date} (stage : RefreshStage dates s₀ s) : s.silver = s₀.silver := by
  cases stage with
  | begun h => exact h.silver
  | refreshed h => exact h.silver

end Attempt

/-! ## Every call -/

theorem Extends.refl (frame : Frame) : Extends frame frame := by
  refine ⟨List.prefix_rfl, List.prefix_rfl, ?_⟩
  intro row hrow c absent
  by_contra present
  obtain ⟨v, hv⟩ := Option.ne_none_iff_exists'.1 present
  have typed := frame.typed row hrow c v hv
  rw [absent] at typed
  cases typed

theorem Extends.trans {a b c : Frame} (ab : Extends a b) (bc : Extends b c) : Extends a c :=
  ⟨ab.rows.trans bc.rows, ab.columns.trans bc.columns, ab.nulls⟩

theorem extends_mergeNew {target source : Frame} {key : Column} (h : target.Mergeable source) :
    Extends target (target.mergeNew key source h) :=
  ⟨Table.prefix_insertNew, List.prefix_append _ _, (Extends.refl target).nulls⟩

/-- No call of any program removes a Silver row or changes one. -/
theorem Effect.extends {runId : String} {o : LakeOp} {s t : World} {a : o.Result}
    (effect : Effect runId o s a t) : Extends s.silver t.silver := by
  cases effect with
  | mergeSilver mergeable => exact extends_mergeNew mergeable
  | _ => exact Extends.refl _

theorem LakeExec.extends {runId : String} {o : LakeOp} {s t : World} {r : o.Answer}
    (exec : LakeExec runId o s r t) : Extends s.silver t.silver := by
  cases exec with
  | answered effect => exact effect.extends
  | raised => exact Extends.refl _
  | lost effect => exact effect.extends

theorem run_extends {runId : String} {c d : LakeM Unit × World} (run : Prog.Run (LakeExec runId) c d) :
    Extends c.2.silver d.2.silver := by
  induction run with
  | refl => exact Extends.refl _
  | tail _ step ih =>
    cases step with
    | op exec => exact ih.trans exec.extends

/-- The invariant holds in every state of every history. -/
theorem silverInvariant {env : Env} {tick : Instant → Instant → Prop} {allowed : Call → Prop} {s : World}
    (h : (lake env tick allowed).Reachable s) : SilverInvariant s.silver := by
  apply Reachable.of_stages (I := fun s => SilverInvariant s.silver) h
  · intro t
    exact ⟨List.nodup_nil, by simp [World.bootstrap]⟩
  · intro k s begin t hs _ _ stage
    cases k with
    | validate batch runId pipeline => exact Stage.keeps_silver stage hs
    | refresh dates runId =>
      have refreshed : RefreshStage dates (s.at begin) t := stage
      rw [refreshed.silver]
      exact hs

/-- **Silver.** In every state of every history of attempts and refreshes, with any batches
and run ids and with stops anywhere, the event id is a key of Silver and every row is valid;
and whatever a call does from there leaves the rows as they are. -/
theorem silver_invariant {env : Env} {s : World} (h : (lake env (· ≤ ·) fun _ => True).Reachable s) :
    SilverInvariant s.silver ∧ ∀ (k : Call) (p q : LakeM Unit) (t : World),
      Prog.Run ((lake env (· ≤ ·) fun _ => True).exec k) (p, s) (q, t) → Extends s.silver t.silver :=
  ⟨silverInvariant h, fun _ _ _ _ run => run_extends run⟩

/-! ## Lakes with a few records -/

def demoEnv : Env where
  toJson _ _ := "{}"
  percentileApprox _ := (0, 0)
  sha256 text := text
  str _ := "0.0"
  monitoring := { dqFailedRate := ⟨1 / 1000, 1 / 20⟩, duplicateFailedRate := ⟨1 / 1000, 1 / 10⟩, metrics := [] }
  goldLookbackMinutes := 30

/-- A request made at 10. -/
def demoRow : Row
  | .eventId => some (.string "event-1")
  | .userId => some (.string "reader-1")
  | .writerId => some (.string "writer-1")
  | .source => some (.string "UI")
  | .requestedAt => some (.timestamp 10)
  | .requestId => some (.string "request-1")
  | .schemaId => some (.int 1)
  | .kafkaTopic => some (.string "unsubscribe-priority")
  | .kafkaPartition => some (.int 0)
  | .kafkaOffset => some (.bigint 0)
  | .kafkaTimestamp => some (.timestamp 3)
  | .bronzeIngestedAt => some (.timestamp 4)
  | .eventDate => some (.date 0)
  | .rawValue => some (.string "AA==")
  | _ => none

theorem demoRow_typed : ∀ c v, demoRow c = some v → bronzeColumns.typeOf c = some v.type := by
  intro c v hv
  cases c <;> simp [demoRow] at hv <;> subst hv <;> decide

def demoBatch : Frame where
  schema := bronzeColumns
  rows := [demoRow]
  unique := bronzeColumns_nodup
  typed row hrow := by
    obtain rfl := List.mem_singleton.1 hrow
    exact demoRow_typed

def demoCall : Call := .validate demoBatch "run" "priority_bronze_to_silver"

/-- The batch is merged at 20. -/
def demoLake : World := (World.bootstrap 0).played demoEnv demoCall 20

theorem demoLake_reachable {tick : Instant → Instant → Prop} {allowed : Call → Prop}
    (called : allowed demoCall) (ticked : tick 0 20) : (lake demoEnv tick allowed).Reachable demoLake :=
  .session (.init ⟨0, rfl⟩) (session_played called ticked)

/-- The row of the demo with other ids and another offset. -/
def demoRowAs (eventId userId : String) (offset : Int) : Row :=
  Function.update (Function.update (Function.update demoRow .eventId (some (.string eventId)))
    .userId (some (.string userId))) .kafkaOffset (some (.bigint offset))

theorem demoRowAs_typed (eventId userId : String) (offset : Int) :
    ∀ c v, demoRowAs eventId userId offset c = some v → bronzeColumns.typeOf c = some v.type := by
  have named : ∀ c v, Function.update demoRow .eventId (some (.string eventId)) c = some v →
      bronzeColumns.typeOf c = some v.type :=
    Row.typed_update (fun c _ => demoRow_typed c) (by rintro _ ⟨⟩; rfl)
  have read : ∀ c v, Function.update (Function.update demoRow .eventId (some (.string eventId)))
      .userId (some (.string userId)) c = some v → bronzeColumns.typeOf c = some v.type :=
    Row.typed_update (fun c _ => named c) (by rintro _ ⟨⟩; rfl)
  exact Row.typed_update (fun c _ => read c) (by rintro _ ⟨⟩; rfl)

/-- The record of the demo, the same event again, one without a reader, and a new one. -/
def mixedBatch : Frame where
  schema := bronzeColumns
  rows := [demoRow, demoRowAs "event-1" "reader-1" 1, demoRowAs "event-2" "" 2, demoRowAs "event-3" "reader-3" 3]
  unique := bronzeColumns_nodup
  typed row hrow := by
    simp only [List.mem_cons, List.not_mem_nil, or_false] at hrow
    obtain rfl | rfl | rfl | rfl := hrow
    · exact demoRow_typed
    · exact demoRowAs_typed _ _ _
    · exact demoRowAs_typed _ _ _
    · exact demoRowAs_typed _ _ _

def mixedCall (runId : String) : Call := .validate mixedBatch runId "priority_bronze_to_silver"

/-- An attempt at 20 stops after the merge. -/
def mixedStopped : World := (World.bootstrap 0).stopped demoEnv (mixedCall "run") 20 22

/-- A second attempt at 30. -/
def mixedLake : World := mixedStopped.played demoEnv (mixedCall "run") 30

theorem mixedStopped_reachable {tick : Instant → Instant → Prop} {allowed : Call → Prop}
    (called : allowed (mixedCall "run")) (ticked : tick 0 20) : (lake demoEnv tick allowed).Reachable mixedStopped :=
  Reachable.stopped (.init ⟨0, rfl⟩) called ticked 22

/-- The second attempt leaves the two rows of the first as they are. -/
theorem silver_invariant_demo : SilverInvariant mixedLake.silver ∧ Extends mixedStopped.silver mixedLake.silver ∧
    mixedStopped.silver.rows.length = 2 ∧ mixedLake.silver.rows.length = 2 := by
  have stopped : (lake demoEnv (· ≤ ·) fun _ => True).Reachable mixedStopped := mixedStopped_reachable trivial (by decide)
  have clock : mixedStopped.clock ≤ 30 := by decide +kernel
  have begun : (lake demoEnv (· ≤ ·) fun _ => True).Reachable (mixedStopped.at 30) :=
    .session (k := mixedCall "run") stopped ⟨_, ⟨trivial, 30, clock, rfl⟩, .refl⟩
  have run := Prog.run_eval (perform_sound "run") ((mixedCall "run").program demoEnv) (mixedStopped.at 30)
  refine ⟨?_, (silver_invariant begun).2 (mixedCall "run") _ _ _ run, by decide +kernel, by decide +kernel⟩
  exact (silver_invariant (stopped.session (session_played trivial clock))).1

end Tikblog.Analytics
