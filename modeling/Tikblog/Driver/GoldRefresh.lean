import Tikblog.Driver.Cooperation

/-!
# The Gold refresh

The DAG `analytics_gold_refresh` asks the driver for the touched dates and then has it rebuild
Gold for them, in two requests. Streams, backfills and other requests go on between the two,
and between the two reads of the first. A pair that got no Silver rows meanwhile is right
afterwards.
-/

namespace Tikblog.Driver

open Python Program Analytics

variable {w : Platform} {s t u : State w} {i : Thread} {threads threads' threads'' : Thread → DriverM Reply}

/-! ## The requests of the DAG -/

/-- The payload of `find_touched_dates`. -/
def findTouchedDates (runId start stop : String) : Args :=
  [("action", .str "touched"), ("run_id", .str runId), ("start", .str start), ("end", .str stop)]

/-- The payload of `rebuild_gold_dates`. -/
def rebuildGoldDates (runId : String) (dates : List String) : Args :=
  [("action", .str "gold"), ("run_id", .str runId), ("dates", .arr (dates.map .str))]

theorem execute_touched {cfg : Config} {triggers : Nat} {runId start stop : String} :
    execute cfg triggers (findTouchedDates runId start stop) = (do
      let dates ← touchedDates cfg (findTouchedDates runId start stop)
      return some (← Prog.ofExcept (isoDates cfg.dates dates))) := rfl

theorem execute_gold {cfg : Config} {triggers : Nat} {runId : String} {dates : List String} :
    execute cfg triggers (rebuildGoldDates runId dates) = (do
      let days ← Prog.ofExcept ((rebuildGoldDates runId dates).dates cfg.dates)
      critical cfg (.refresh days runId)
      return none) := rfl

/-! ## Finding the dates -/

/-- Only the Silver rows of a pair decide whether it is pending. -/
theorem pendingGroups_congr {silver silver' : List Row} {gold : List GoldRow} {p : Pair}
    (same : rowsOf silver p = rowsOf silver' p) (pending : p ∈ pendingGroups silver gold) :
    p ∈ pendingGroups silver' gold := by
  have kept : ∀ row ∈ silver, pairOf row = p → row ∈ silver' := by
    intro row member pair
    have listed : row ∈ rowsOf silver p := List.mem_filter.2 ⟨member, decide_eq_true pair⟩
    rw [same] at listed
    exact List.mem_of_mem_filter listed
  obtain ⟨⟨row, member, pair⟩, late⟩ := mem_pendingGroups.1 pending
  refine mem_pendingGroups.2 ⟨⟨row, kept row member pair, pair⟩, ?_⟩
  obtain alone | ⟨g, listed, joins, r, present, group, later⟩ := late
  · exact .inl alone
  · exact .inr ⟨g, listed, joins, r, kept r present group, group, later⟩

/-- A pair that is stale is pending, also for one who has read Silver earlier, if Silver had
the same rows of it. -/
theorem pending_of_stale (staging : Staging w s) {silver : List Row} {p : Pair} (stale : Stale s.lake p)
    (same : rowsOf s.lake.silver.rows p = rowsOf silver p) : p ∈ pendingGroups silver s.lake.gold := by
  obtain ⟨v, reached, mirrors⟩ := staging.mirrored
  have inv := goldInvariant_of_sections reached
  have stale : Stale v p := by
    unfold Stale at *
    rwa [mirrors.gold, mirrors.silver]
  have pending := (inv.pendingGroups_iff p).2 ((inv.pending_iff (inv.present_of_stale stale)).2 stale)
  rw [mirrors.gold, mirrors.silver] at pending
  exact pendingGroups_congr same pending

/-- A pair that is stale now, with the Silver rows it had in `s`, has its date listed. -/
def Lists (s : State w) (dates : List (Option Date)) (t : State w) : Prop :=
  Grows s t ∧ ∀ p, Stale t.lake p → rowsOf t.lake.silver.rows p = rowsOf s.lake.silver.rows p → p.1 ∈ dates

theorem Lists.grows {dates : List (Option Date)} (h : Lists s dates t) (grows : Grows t u) : Lists s dates u := by
  refine ⟨h.1.trans grows, fun p stale same => ?_⟩
  have between := rowsOf_between h.1.silver grows.silver same
  exact h.2 p (grows.right p stale (same.trans between.symm)) between

/-- What a read without the lock answers. -/
theorem read_of_meanwhile {o : LakeOp} {a : o.Answer} (moved : Meanwhile w i (.outside o) s a t) :
    ∃ u, Rely w i s u ∧ Staging w u ∧ LakeExec "" o u.lake a t.lake ∧ Keeps i u t := by
  obtain ⟨u, rely, staging, performed, kept⟩ := keeps_of_meanwhile (o := .outside o) trivial moved
  cases performed with
  | ran running performed =>
    cases performed with
    | outside outside called => exact ⟨u, rely, staging, called, kept⟩

theorem silver_of_read {runId : String} {x y : World} {silver : Frame}
    (called : LakeExec runId .readSilver x (.ok silver) y) : silver = x.silver := by
  cases called with
  | answered took =>
    cases took
    rfl

theorem gold_of_read {runId : String} {x y : World} {gold : List GoldRow}
    (called : LakeExec runId .readGold x (.ok gold) y) : gold = x.gold := by
  cases called with
  | answered took =>
    cases took
    rfl

theorem safe_touched (env : Env) (start stop : Instant) {s₀ : State w} (since : Grows s₀ s) :
    Safe w i (fun r t => ∀ dates, r = .ok dates → Lists s₀ dates t)
      ((touched env start stop).embed Op.outside fun _ a => a) s := by
  refine ⟨trivial, fun silver t moved => ?_⟩
  obtain ⟨u, rely, -, called, kept⟩ := read_of_meanwhile (o := .readSilver) moved
  cases silver with
  | error e => exact fun dates impossible => nomatch impossible
  | ok silver =>
    have read := silver_of_read called
    subst read
    refine ⟨trivial, fun gold x again => ?_⟩
    obtain ⟨y, rely', staging, called, kept'⟩ := read_of_meanwhile (o := .readGold) again
    cases gold with
    | error e => exact fun dates impossible => nomatch impossible
    | ok gold =>
      have read := gold_of_read called
      subst read
      rintro _ ⟨⟩
      have to_u : Grows s₀ u := since.trans rely.grows
      have to_y : Grows u y := kept.grows.trans rely'.grows
      have here : Lists s₀ (Analytics.touchedDates env start stop u.lake.silver.rows y.lake.gold) y := by
        refine ⟨to_u.trans to_y, fun p stale same => mem_touchedDates (pending_of_stale staging stale ?_)⟩
        rw [same, rowsOf_between to_u.silver to_y.silver same]
      exact here.grows kept'.grows

/-- The date of the pair has one of the names. -/
def NamedIn (w : Platform) (names : List String) (p : Pair) : Prop :=
  ∃ day, p.1 = some day ∧ ∃ text ∈ names, w.config.dates.isoformat day = .ok text

/-- What the first request answers: the names of the dates. -/
def Finds (s : State w) (names : List String) (t : State w) : Prop :=
  Grows s t ∧ ∀ p, Stale t.lake p → rowsOf t.lake.silver.rows p = rowsOf s.lake.silver.rows p → NamedIn w names p

theorem Finds.grows {names : List String} (h : Finds s names t) (grows : Grows t u) : Finds s names u := by
  refine ⟨h.1.trans grows, fun p stale same => ?_⟩
  have between := rowsOf_between h.1.silver grows.silver same
  exact h.2 p (grows.right p stale (same.trans between.symm)) between

theorem finds_of_isoDates {dates : List (Option Date)} {names : List String} (lists : Lists s dates t)
    (written : isoDates w.config.dates dates = .ok names) : Finds s names t := by
  refine ⟨lists.1, fun p stale same => ?_⟩
  obtain ⟨text, listed, result⟩ := exists_of_forall₂ (forall₂_of_mapM written).flip (lists.2 p stale same)
  cases date : p.1 with
  | none =>
    rw [date] at result
    cases result
  | some day =>
    rw [date] at result
    exact ⟨day, date, text, listed, result⟩

theorem safe_findTouchedDates (triggers : Nat) (runId start stop : String) (s : State w) :
    Safe w i (fun r t => ∀ names, r = .ok (some names) → Finds s names t)
      (request w.config triggers (findTouchedDates runId start stop)) s := by
  refine ⟨trivial, fun _ t moved => ?_⟩
  have since : Grows s t := grows_of_meanwhile (o := .lockBatch) trivial moved
  have executed : Safe w i (fun r t => ∀ names, r = .ok (some names) → Finds s names t)
      (execute w.config triggers (findTouchedDates runId start stop)) t := by
    rw [execute_touched]
    have dates : Safe w i (fun r t => ∀ dates, r = .ok dates → Lists s dates t)
        (touchedDates w.config (findTouchedDates runId start stop)) t := by
      unfold touchedDates
      refine safe_computed (fun e dates impossible => nomatch impossible) fun start _ => ?_
      refine safe_computed (fun e dates impossible => nomatch impossible) fun stop _ => ?_
      exact safe_touched _ start stop since
    apply dates.seq
    intro r u lists
    cases r with
    | error e => exact fun names impossible => nomatch impossible
    | ok dates =>
      refine safe_computed (fun e names impossible => nomatch impossible) fun names written => ?_
      rintro _ ⟨⟩
      exact finds_of_isoDates (lists dates rfl) written
  apply executed.closes
  intro r u finds
  refine ⟨trivial, fun _ x moved names returned => ?_⟩
  exact (finds names returned).grows (grows_of_meanwhile (o := .unlockBatch) trivial moved)

/-! ## Rebuilding them -/

/-- The pairs of the dates are right, unless they have got Silver rows since. -/
def Rebuilds (s : State w) (names : List String) (t : State w) : Prop :=
  Grows s t ∧ ∀ p, NamedIn w names p → rowsOf t.lake.silver.rows p = rowsOf s.lake.silver.rows p → ¬ Stale t.lake p

theorem Rebuilds.grows {names : List String} (h : Rebuilds s names t) (grows : Grows t u) : Rebuilds s names u := by
  refine ⟨h.1.trans grows, fun p named same stale => ?_⟩
  have between := rowsOf_between h.1.silver grows.silver same
  exact h.2 p named between (grows.right p stale (same.trans between.symm))

theorem dates_rebuildGoldDates (lib : DateLibrary) (runId : String) (names : List String) :
    (rebuildGoldDates runId names).dates lib = names.mapM lib.fromisoformat := by
  show (names.map Json.str).mapM _ = _
  rw [List.mapM_map]
  rfl

/-- The dates of the request are those that were named. -/
theorem mem_of_named {names : List String} {days : List Date} (parsed : names.mapM w.config.dates.fromisoformat = .ok days)
    {p : Pair} (named : NamedIn w names p) : p.1 ∈ days.map some := by
  obtain ⟨day, date, text, listed, written⟩ := named
  obtain ⟨day', present, result⟩ := exists_of_forall₂ (forall₂_of_mapM parsed).flip listed
  have same : day = day' := Except.ok.inj ((w.config.dates.fromisoformat_isoformat day text written).symm.trans result)
  rw [date, same]
  exact List.mem_map_of_mem present

theorem right_of_refreshed {days : List Date} {runId : String}
    (ended : SectionEnded i (.refresh days runId) s (.ok ()) t) {p : Pair} (listed : p.1 ∈ days.map some) :
    ¬ Stale t.lake p := by
  obtain ⟨base, v, -, session, mirrors⟩ := ended.returned rfl
  obtain ⟨begin, -, -, -, completed⟩ := session_stage session
  have completed : RefreshCompleted days (base.at begin) v := completed rfl
  have right := completed.listed listed
  unfold Stale at *
  rwa [← mirrors.gold, ← mirrors.silver]

theorem safe_rebuildGoldDates (triggers : Nat) (runId : String) (names : List String) (s : State w) :
    Safe w i (fun r t => ∀ a, r = .ok a → Rebuilds s names t)
      (request w.config triggers (rebuildGoldDates runId names)) s := by
  refine ⟨trivial, fun _ t moved => ?_⟩
  have since : Grows s t := grows_of_meanwhile (o := .lockBatch) trivial moved
  have executed : Safe w i (fun r t => ∀ a, r = .ok a → Rebuilds s names t)
      (execute w.config triggers (rebuildGoldDates runId names)) t := by
    rw [execute_gold, dates_rebuildGoldDates]
    refine safe_computed (fun e a impossible => nomatch impossible) fun days parsed => ?_
    have allowed : Allowed w (.refresh days runId) := trivial
    apply (safe_critical allowed t).seq
    intro r u ended
    cases r with
    | error e => exact fun a impossible => nomatch impossible
    | ok _ =>
      intro a _
      exact ⟨since.trans ended.leaves.grows, fun p named _ => right_of_refreshed ended (mem_of_named parsed named)⟩
  apply executed.closes
  intro r u rebuilds
  refine ⟨trivial, fun _ x moved a returned => ?_⟩
  exact (rebuilds a returned).grows (grows_of_meanwhile (o := .unlockBatch) trivial moved)

/-! ## Both -/

/-- A request of a run that has not begun ends as it must. -/
theorem ends_of_request {life n : Nat} {args : Args} {Q : Except PyException Reply → State w → Prop}
    (safe : Safe w (.request life n) Q (request w.config (w.triggers (.request life n)) args) s)
    (asked : w.payload life n = args) (reached : (platform w).Reachable threads s)
    (waiting : threads (.request life n) = (platform w).program (.request life n))
    (run : (platform w).Run threads s threads' t) {r : Except PyException Reply}
    (ended : threads' (.request life n) = .done r) : ∃ u, Grows u t ∧ Q r u := by
  have begun : threads (.request life n) = request w.config (w.triggers (.request life n)) args := by
    rw [waiting, ← asked]
    rfl
  have rest : Prog.Always (Meanwhile w (.request life n)) (fun _ _ => True) Q (threads (.request life n)) s := by
    rw [begun]
    exact safe.mono (fun _ _ _ => trivial) fun _ _ post => post
  obtain ⟨u, rely, post⟩ := (cooperation w).post_from reached rest run ended
  exact ⟨u, rely.grows, post⟩

/-- **The Gold refresh.** Whatever the driver does meanwhile: when the request of
`find_touched_dates` has been answered with names, and the request of `rebuild_gold_dates`
with these names has returned, Gold has the right counts for every pair whose Silver rows are
still those it had when the first request began. -/
theorem gold_refresh_right {life life' n n' : Nat} {runId start stop : String} {names : List String} {a : Reply}
    (reached : (platform w).Reachable threads s)
    (asked : w.payload life n = findTouchedDates runId start stop)
    (asked' : w.payload life' n' = rebuildGoldDates runId names)
    (waiting : threads (.request life n) = (platform w).program (.request life n))
    (run : (platform w).Run threads s threads' t) (answered : threads' (.request life n) = .done (.ok (some names)))
    (waiting' : threads' (.request life' n') = (platform w).program (.request life' n'))
    (run' : (platform w).Run threads' t threads'' u) (returned : threads'' (.request life' n') = .done (.ok a))
    (p : Pair) (same : rowsOf u.lake.silver.rows p = rowsOf s.lake.silver.rows p) :
    countsAt u.lake.gold p = aggregateAt u.lake.silver.rows p := by
  obtain ⟨x, x_t, finds⟩ := ends_of_request (safe_findTouchedDates _ runId start stop s) asked reached waiting run answered
  obtain ⟨y, y_u, rebuilds⟩ :=
    ends_of_request (safe_rebuildGoldDates _ runId names t) asked' (reached.run run) waiting' run' returned
  have finds := (finds names rfl).grows x_t
  have rebuilds := (rebuilds a rfl).grows y_u
  have between := rowsOf_between finds.1.silver rebuilds.1.silver same
  have same_t : rowsOf u.lake.silver.rows p = rowsOf t.lake.silver.rows p := same.trans between.symm
  by_contra stale
  exact rebuilds.2 p (finds.2 p (rebuilds.1.right p stale same_t) between) same_t stale

/-- The streams of the demo have merged the events of two days when the first request comes. -/
theorem gold_refresh_right_demo :
    countsAt demoRefreshed.2.lake.gold (some 0, some "UI") =
      aggregateAt demoRefreshed.2.lake.silver.rows (some 0, some "UI") ∧
    countsAt demoRefreshed.2.lake.gold (some 1, some "UI") =
      aggregateAt demoRefreshed.2.lake.silver.rows (some 1, some "UI") := by
  have found : (demoFound.1 (.request 1 0)).returned = some (some ["1970-01-02", "1970-01-01"]) ∧
      (demoRefreshed.1 (.request 1 1)).returned = some none ∧
      demoRefreshed.2.lake.silver.rows.length = demoMerged.2.lake.silver.rows.length := by
    decide +kernel
  have asked : demoPlatform.payload 1 0 = findTouchedDates "gold" "" "" := rfl
  have asked' : demoPlatform.payload 1 1 = rebuildGoldDates "gold" ["1970-01-02", "1970-01-01"] := rfl
  have waiting : demoMerged.1 (.request 1 0) = (platform demoPlatform).program (.request 1 0) :=
    Interleaving.play_other (by decide) _
  have waiting' : demoFound.1 (.request 1 1) = (platform demoPlatform).program (.request 1 1) :=
    (Interleaving.play_other (by decide) _).trans (Interleaving.play_other (by decide) _)
  have grows := (grows_of_run demoMerged_reachable.1 (demoFound_run.1.trans demoRefreshed_run.1)).silver.rows
  have same : demoRefreshed.2.lake.silver.rows = demoMerged.2.lake.silver.rows :=
    (grows.eq_of_length found.2.2.symm).symm
  have right : ∀ pair, countsAt demoRefreshed.2.lake.gold pair = aggregateAt demoRefreshed.2.lake.silver.rows pair :=
    fun pair => gold_refresh_right demoMerged_reachable.1 asked asked' waiting demoFound_run.1
      (Prog.eq_of_returned found.1) waiting' demoRefreshed_run.1 (Prog.eq_of_returned found.2.1) pair (by rw [same])
  exact ⟨right _, right _⟩

end Tikblog.Driver
