import Tikblog.Analytics.Findings

/-!
# What one attempt does

A run of `validate_and_merge` is described once, by the stage its state is in: nothing
stored yet, the failed rows stored, or the accepted rows merged as well. Every invariant of
Silver, Gold and the quarantine follows from the stages.
-/

namespace Tikblog.Analytics

open Python Program

/-- Two states that differ in the monitoring tables and in the clock only. -/
structure Quiet (s t : World) : Prop where
  silver : t.silver = s.silver
  gold : t.gold = s.gold
  quarantine : t.quarantine = s.quarantine
  inserted : t.inserted = s.inserted
  checkedAt : t.checkedAt = s.checkedAt
  clock : s.clock ≤ t.clock

theorem Quiet.refl (s : World) : Quiet s s := ⟨rfl, rfl, rfl, rfl, rfl, le_refl _⟩

theorem Effect.quiet {runId : String} {o : LakeOp} (reporting : Reporting o) {s t : World} {a : o.Result}
    (effect : Effect runId o s a t) : Quiet s t := by
  cases reporting <;> cases effect
  · exact ⟨rfl, rfl, rfl, rfl, rfl, by assumption⟩
  · exact ⟨rfl, rfl, rfl, rfl, rfl, le_refl _⟩
  · exact ⟨rfl, rfl, rfl, rfl, rfl, le_refl _⟩
  · exact ⟨rfl, rfl, rfl, rfl, rfl, le_refl _⟩

theorem LakeExec.quiet {runId : String} {o : LakeOp} (reporting : Reporting o) {s t : World} {r : o.Answer}
    (exec : LakeExec runId o s r t) : Quiet s t := by
  cases exec with
  | answered effect => exact effect.quiet reporting
  | raised => exact Quiet.refl s
  | lost effect => exact effect.quiet reporting

section Rules

variable {runId : String} {α β : Type} {G I : World → Prop} {Q : Except PyException α → World → Prop}

/-- A program that only reports keeps what does not depend on the monitoring tables. -/
theorem always_reports {p : LakeM α} {s : World} (uses : p.Uses Reporting)
    (stable : ∀ s t, I s → Quiet s t → I t) (hs : I s) (guard : ∀ t, I t → G t)
    (post : ∀ r t, I t → Q r t) : Prog.Always (LakeExec runId) (fun _ => G) Q p s := by
  have kept : Prog.Always (LakeExec runId) (fun _ => I) (fun _ => I) p s := by
    apply Prog.Always.of_uses _ (fun _ _ _ h => h) uses hs
    intro o reporting s a t h exec
    exact stable s t h (exec.quiet reporting)
  exact kept.mono (fun _ t h => guard t h) post

/-- A part that only reports, then the rest. -/
theorem always_reporting {p : LakeM β} {f : β → LakeM α} {s : World} (uses : p.Uses Reporting)
    (stable : ∀ s t, I s → Quiet s t → I t) (fails : ∀ e t, G t → Q (.error e) t) (hs : I s)
    (guard : ∀ t, I t → G t) (next : ∀ b t, I t → Prog.Always (LakeExec runId) (fun _ => G) Q (f b) t) :
    Prog.Always (LakeExec runId) (fun _ => G) Q (p.bind f) s := by
  apply Prog.Always.bind
  apply always_reports uses stable hs guard
  intro r t ht
  cases r with
  | error e => exact fails e t (guard t ht)
  | ok b => exact next b t ht

theorem always_require {exec : Exec LakeOp LakeOp.Answer World} {schema : Schema} {columns : List Column}
    {f : Unit → LakeM α} {s : World} (fails : ∀ e t, G t → Q (.error e) t) (hs : G s)
    (next : Prog.Always exec (fun _ => G) Q (f ()) s) :
    Prog.Always exec (fun _ => G) Q ((requireColumns schema columns).bind f) s := by
  unfold requireColumns
  split
  · exact fails _ s hs
  · exact next

/-- A call at the end of a part. -/
theorem always_called {o : LakeOp} {s : World}
    {Q : Except PyException o.Result → World → Prop}
    (hs : G s) (raises : ∀ e, Q (.error e) s)
    (effect : ∀ a t, Effect runId o s a t → Q (.ok a) t ∧ ∀ e, Q (.error e) t) :
    Prog.Always (LakeExec runId) (fun _ => G) Q (call o) s := by
  unfold call
  refine Prog.Always.bind (Prog.Always.perform hs ?_)
  intro r t performed
  cases performed with
  | answered took => exact (effect _ t took).1
  | raised => exact raises _
  | lost took => exact (effect _ t took).2 _

/-- What a program that takes the time leaves: everything but the clock. -/
theorem LakeExec.timed {o : LakeOp} {s t : World} {a : o.Answer} (timing : Timing o)
    (performed : LakeExec runId o s a t) : ∃ now, t = { s with clock := now } := by
  cases timing
  cases performed with
  | raised => exact ⟨s.clock, rfl⟩
  | answered took | lost took =>
    cases took
    exact ⟨_, rfl⟩

/-- A part that computes reports, then the rest. -/
theorem always_timed {R : β → Prop} {p : LakeM β} {f : β → LakeM α} {s : World} (yields : p.Yields Timing R)
    (stable : ∀ s now, I s → I { s with clock := now }) (fails : ∀ e t, G t → Q (.error e) t) (hs : I s)
    (guard : ∀ t, I t → G t)
    (next : ∀ b t, R b → I t → Prog.Always (LakeExec runId) (fun _ => G) Q (f b) t) :
    Prog.Always (LakeExec runId) (fun _ => G) Q (p.bind f) s := by
  have kept : Prog.Always (LakeExec runId) (fun _ => G) (fun r t => I t ∧ ∀ b, r = .ok b → R b) p s := by
    apply Prog.Always.of_yields _ (fun s h _ => guard s h) yields hs
    intro o timing s a t h performed
    obtain ⟨now, rfl⟩ := performed.timed timing
    exact stable s now h
  apply Prog.Always.seq kept
  intro r t ended
  obtain ⟨h, result⟩ := ended
  cases r with
  | error e => exact fails e t (guard t h)
  | ok b => exact next b t (result b rfl) h

/-- The calls of an execution that is answered as `K` allows. -/
abbrev Keeping (runId : String) (K : Exec LakeOp LakeOp.Answer World) : Exec LakeOp LakeOp.Answer World :=
  fun o s a t => LakeExec runId o s a t ∧ K o s a t

theorem always_kept_call {K : Exec LakeOp LakeOp.Answer World} {o : LakeOp} {f : o.Result → LakeM α}
    {s : World} (fails : ∀ e t, G t → Q (.error e) t) (hs : G s)
    (effect : ∀ a t, Effect runId o s a t → G t)
    (next : ∀ a t, Effect runId o s a t → K o s (.ok a) t →
      Prog.Always (Keeping runId K) (fun _ => G) Q (f a) t) :
    Prog.Always (Keeping runId K) (fun _ => G) Q ((call o).bind f) s := by
  unfold call
  refine Prog.Always.bind (Prog.Always.bind (Prog.Always.perform hs ?_))
  rintro r t ⟨performed, kept⟩
  cases performed with
  | answered took => exact next _ t took kept
  | raised => exact fails _ _ hs
  | lost took => exact fails _ _ (effect _ t took)

end Rules

/-! ## The stages of an attempt -/

section Stages

variable (env : Env) (batch : Frame) (runId pipeline : String) (s₀ : World)

/-- The batch as this attempt checks it. -/
abbrev conformed : Frame := conform env s₀.silver.schema batch

/-- Nothing is stored yet. -/
structure Begun (s : World) : Prop where
  silver : s.silver = s₀.silver
  gold : s.gold = s₀.gold
  quarantine : s.quarantine = s₀.quarantine
  inserted : s.inserted = s₀.inserted
  clock : s₀.clock ≤ s.clock

/-- The rows are checked at the time `now`. -/
structure Checked (now : Instant) (s : World) : Prop extends Begun s₀ s where
  started : s₀.clock ≤ now
  later : now ≤ s.clock
  checkedAt : s.checkedAt = now

/-- The rows that fail a check at the time `now` are in the quarantine. -/
structure Rejected (now quarantinedAt : Instant) (s : World) : Prop where
  quarantine : s.quarantine = Table.insertNew QuarantineRow.key s₀.quarantine
    (quarantineRows runId pipeline now quarantinedAt (conformed env batch s₀))
  silver : s.silver = s₀.silver
  gold : s.gold = s₀.gold
  inserted : s.inserted = s₀.inserted
  started : s₀.clock ≤ now
  clock : now ≤ s.clock
  checkedAt : s.checkedAt = now

/-- The rows that pass every check at the time `now`, one of each event id, are in Silver
as well. -/
structure Merged (now quarantinedAt processedAt : Instant) (unique : Frame) (s : World) : Prop where
  quarantine : s.quarantine = Table.insertNew QuarantineRow.key s₀.quarantine
    (quarantineRows runId pipeline now quarantinedAt (conformed env batch s₀))
  schema : unique.schema = (validFrame now (conformed env batch s₀)).schema
  distinct : Table.DistinctBy (· .eventId) (validFrame now (conformed env batch s₀)).rows unique.rows
  silver : ∃ h, s.silver = s₀.silver.mergeNew .eventId (preparedFrame unique processedAt) h
  inserted : s.inserted = s₀.inserted ++
    (Table.newRows (· .eventId) s₀.silver.rows (preparedFrame unique processedAt).rows).map fun row =>
      (runId, row)
  gold : s.gold = s₀.gold
  started : s₀.clock ≤ now
  order : now ≤ processedAt
  clock : processedAt ≤ s.clock
  checkedAt : s.checkedAt = now

/-- How far the attempt that began in `s₀` has come. -/
inductive Stage (s : World) : Prop where
  | begun (h : Begun s₀ s)
  | rejected {now quarantinedAt : Instant} (h : Rejected env batch runId pipeline s₀ now quarantinedAt s)
  | merged {now quarantinedAt processedAt : Instant} {unique : Frame}
      (h : Merged env batch runId pipeline s₀ now quarantinedAt processedAt unique s)

/-- Where an attempt that returns has come. -/
def Completed (s : World) : Prop :=
  (batch.rows = [] ∧ Begun s₀ s) ∨ ∃ now quarantinedAt processedAt unique,
    Merged env batch runId pipeline s₀ now quarantinedAt processedAt unique s

variable {env batch runId pipeline s₀}

theorem Begun.quiet {s t : World} (h : Begun s₀ s) (q : Quiet s t) : Begun s₀ t where
  silver := q.silver.trans h.silver
  gold := q.gold.trans h.gold
  quarantine := q.quarantine.trans h.quarantine
  inserted := q.inserted.trans h.inserted
  clock := le_trans h.clock q.clock

theorem Checked.quiet {now : Instant} {s t : World} (h : Checked s₀ now s) (q : Quiet s t) :
    Checked s₀ now t where
  toBegun := h.toBegun.quiet q
  started := h.started
  later := le_trans h.later q.clock
  checkedAt := q.checkedAt.trans h.checkedAt

theorem Rejected.quiet {now quarantinedAt : Instant} {s t : World}
    (h : Rejected env batch runId pipeline s₀ now quarantinedAt s) (q : Quiet s t) :
    Rejected env batch runId pipeline s₀ now quarantinedAt t where
  quarantine := q.quarantine.trans h.quarantine
  silver := q.silver.trans h.silver
  gold := q.gold.trans h.gold
  inserted := q.inserted.trans h.inserted
  started := h.started
  clock := le_trans h.clock q.clock
  checkedAt := q.checkedAt.trans h.checkedAt

theorem Merged.quiet {now quarantinedAt processedAt : Instant} {unique : Frame} {s t : World}
    (h : Merged env batch runId pipeline s₀ now quarantinedAt processedAt unique s) (q : Quiet s t) :
    Merged env batch runId pipeline s₀ now quarantinedAt processedAt unique t where
  quarantine := q.quarantine.trans h.quarantine
  schema := h.schema
  distinct := h.distinct
  silver := by
    obtain ⟨mergeable, silver⟩ := h.silver
    exact ⟨mergeable, q.silver.trans silver⟩
  inserted := q.inserted.trans h.inserted
  gold := q.gold.trans h.gold
  started := h.started
  order := h.order
  clock := le_trans h.clock q.clock
  checkedAt := q.checkedAt.trans h.checkedAt

/-- The postcondition of an attempt. -/
abbrev Ended (env : Env) (batch : Frame) (runId pipeline : String) (s₀ : World)
    (r : Except PyException Unit)
    (s : World) : Prop :=
  Stage env batch runId pipeline s₀ s ∧ (r = .ok () → Completed env batch runId pipeline s₀ s)

theorem Stage.failed (e : PyException) (s : World) (h : Stage env batch runId pipeline s₀ s) :
    Ended env batch runId pipeline s₀ (.error e) s := by
  refine ⟨h, ?_⟩
  intro returned
  cases returned

theorem mergeAccepted_stages {now quarantinedAt : Instant} {s : World}
    (h : Rejected env batch runId pipeline s₀ now quarantinedAt s) :
    Prog.Always (LakeExec runId) (fun _ => Stage env batch runId pipeline s₀)
      (Ended env batch runId pipeline s₀)
      (mergeAccepted env (validFrame now (conformed env batch s₀)) runId pipeline) s := by
  unfold mergeAccepted
  apply always_call (P := fun (unique : Frame) t => Rejected env batch runId pipeline s₀ now quarantinedAt t ∧
    unique.schema = (validFrame now (conformed env batch s₀)).schema ∧
    Table.DistinctBy (· .eventId) (validFrame now (conformed env batch s₀)).rows unique.rows)
    Stage.failed (.rejected h)
  · intro unique t took
    cases took with
    | dropDuplicates schema distinct => exact ⟨h, schema, distinct⟩
  · intro unique t ht
    exact .rejected ht.1
  rintro unique t ⟨h, schema, distinct⟩
  apply always_call (P := fun (processedAt : Instant) t =>
    Rejected env batch runId pipeline s₀ now quarantinedAt t ∧ now ≤ processedAt ∧ processedAt ≤ t.clock)
    Stage.failed (.rejected h)
  · rintro processedAt u ⟨later⟩
    exact ⟨h.quiet ⟨rfl, rfl, rfl, rfl, rfl, later⟩, le_trans h.clock later, le_refl _⟩
  · intro processedAt u hu
    exact .rejected hu.1
  rintro processedAt u ⟨h, order, clock⟩
  apply always_call (P := fun _ t =>
    Merged env batch runId pipeline s₀ now quarantinedAt processedAt unique t)
    Stage.failed (.rejected h)
  · intro _ v took
    cases took with
    | mergeSilver mergeable =>
      exact {
        quarantine := h.quarantine
        schema := schema
        distinct := distinct
        silver := Frame.mergeNew_congr h.silver mergeable
        inserted := by
          rw [← h.silver, ← h.inserted]
          rfl
        gold := h.gold
        started := h.started
        order := order
        clock := clock
        checkedAt := h.checkedAt }
  · intro _ v hv
    exact .merged hv
  intro _ v hv
  apply always_require Stage.failed (.merged hv)
  apply always_reporting (uses_timing (yields_latencyMetrics ..)) (fun _ _ => Merged.quiet) Stage.failed hv
    (fun _ => Stage.merged)
  intro metrics w hw
  apply always_reports (uses_writeMetrics ..) (fun _ _ => Merged.quiet) hw (fun _ => Stage.merged)
  intro r t ht
  exact ⟨.merged ht, fun _ => .inr ⟨_, _, _, _, ht⟩⟩

theorem acceptValid_stages {now quarantinedAt : Instant} {results : List DqReport} {s : World}
    (h : Rejected env batch runId pipeline s₀ now quarantinedAt s) :
    Prog.Always (LakeExec runId) (fun _ => Stage env batch runId pipeline s₀)
      (Ended env batch runId pipeline s₀)
      (acceptValid env (validFrame now (conformed env batch s₀)) results runId pipeline) s := by
  unfold acceptValid
  apply always_reporting (uses_timing (yields_duplicateResults ..)) (fun _ _ => Rejected.quiet) Stage.failed h
    (fun _ => Stage.rejected)
  intro inBatch s h
  apply always_call (P := fun _ t => Rejected env batch runId pipeline s₀ now quarantinedAt t)
    Stage.failed (.rejected h)
  · intro existing t took
    cases took
    exact h
  · intro _ t ht
    exact .rejected ht
  intro existing s h
  apply always_call (P := fun _ t => Rejected env batch runId pipeline s₀ now quarantinedAt t)
    Stage.failed (.rejected h)
  · intro unique t took
    cases took
    exact h
  · intro _ t ht
    exact .rejected ht
  intro unique s h
  apply always_reporting (uses_timing (yields_duplicateResults ..)) (fun _ _ => Rejected.quiet) Stage.failed h
    (fun _ => Stage.rejected)
  intro inSilver s h
  apply always_reporting (uses_writeDq ..) (fun _ _ => Rejected.quiet) Stage.failed h
    (fun _ => Stage.rejected)
  intro _ s h
  exact mergeAccepted_stages h

/-- **The stages of an attempt.** At every call of `validate_and_merge` the state is in one
of the three stages, and where it returns, the batch was empty or the last one is reached. -/
theorem validateAndMerge_stages :
    Prog.Always (LakeExec runId) (fun _ => Stage env batch runId pipeline s₀)
      (Ended env batch runId pipeline s₀) (validateAndMerge env batch runId pipeline) s₀ := by
  have begun : Begun s₀ s₀ := ⟨rfl, rfl, rfl, rfl, le_refl _⟩
  unfold validateAndMerge
  split
  · rename_i empty
    exact ⟨.begun begun, fun _ => .inl ⟨List.isEmpty_iff.1 empty, begun⟩⟩
  unfold validateBatch
  apply always_call (P := fun (silver : Frame) t => silver = s₀.silver ∧ Begun s₀ t)
    Stage.failed (.begun begun)
  · intro silver t took
    cases took
    exact ⟨rfl, begun⟩
  · intro _ t ht
    exact .begun ht.2
  rintro _ s ⟨rfl, h⟩
  apply always_require Stage.failed (.begun h)
  apply always_call (P := fun (now : Instant) t => Checked s₀ now t) Stage.failed (.begun h)
  · intro now t took
    cases took with
    | currentTimestamp later =>
      have started := le_trans h.clock later
      exact ⟨⟨h.silver, h.gold, h.quarantine, h.inserted, started⟩, started, le_refl _, rfl⟩
  · intro _ t ht
    exact .begun ht.toBegun
  intro now s h
  apply always_reporting (uses_timing (yields_checkResults ..)) (fun _ _ => Checked.quiet) Stage.failed h
    fun _ ht => .begun ht.toBegun
  intro results s h
  apply always_require Stage.failed (.begun h.toBegun)
  apply always_call (P := fun _ t => Checked s₀ now t) Stage.failed (.begun h.toBegun)
  · intro quarantinedAt t took
    cases took with
    | currentTimestamp later => exact h.quiet ⟨rfl, rfl, rfl, rfl, rfl, later⟩
  · intro _ t ht
    exact .begun ht.toBegun
  intro quarantinedAt s h
  apply always_call (P := fun _ t => Rejected env batch runId pipeline s₀ now quarantinedAt t)
    Stage.failed (.begun h.toBegun)
  · intro _ t took
    cases took with
    | insertQuarantine =>
      exact ⟨by rw [← h.quarantine], h.silver, h.gold, h.inserted, h.started, h.later, h.checkedAt⟩
  · intro _ t ht
    exact .rejected ht
  intro _ s h
  exact acceptValid_stages h

/-- Where an attempt has returned, its batch is merged. -/
theorem merged_of_run {s : World} (nonempty : batch.rows ≠ [])
    (run : Prog.Run (LakeExec runId) (validateAndMerge env batch runId pipeline, s₀) (.done (.ok ()), s)) :
    ∃ now quarantinedAt processedAt unique,
      Merged env batch runId pipeline s₀ now quarantinedAt processedAt unique s :=
  ((validateAndMerge_stages.post_of_run run).2 rfl).resolve_left fun empty => nonempty empty.1

end Stages

end Tikblog.Analytics
