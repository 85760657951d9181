import Tikblog.Topics.Apply

/-!
# What a run of apply_topics leaves

A pass touches its own topic and no other, so that the metadata of the start still holds for
every topic that is to come. From one pass the run follows (`applyEach_spec`): what it
completes, what it leaves alone, and where it refuses. A second run finds every topic as the
file says and only reads (`applyTopics_again`).
-/

namespace Tikblog.Topics

open Python Program

/-- The topic is as the file says. -/
structure Topic.Meets (t : Topic) (spec : TopicSpec) : Prop where
  partitions : t.partitions.length = spec.partitions
  replicas : ∀ replicas ∈ t.partitions, replicas.length = spec.replicationFactor
  config : ∀ key value, (key, value) ∈ spec.config → t.config key = some (some value)

def Converged (spec : TopicSpec) (s : Cluster) : Prop := ∃ t, s spec.name = some t ∧ t.Meets spec

/-- A topic that was there keeps its partitions and the keys that the file does not mention. -/
def Kept (spec : TopicSpec) (s s' : Cluster) : Prop :=
  ∀ t, s spec.name = some t → ∃ t', s' spec.name = some t' ∧ t'.error = t.error ∧
    t.partitions <+: t'.partitions ∧ ∀ key, key ∉ spec.config.map Prod.fst → t'.config key = t.config key

/-- The broker reports an error, the replication factor differs, or there are more partitions. -/
def Topic.Refused (t : Topic) (spec : TopicSpec) : Prop :=
  t.error ≠ none ∨ checkReplicationFactor spec t.toTopicMetadata ≠ .ok () ∨
    spec.partitions < t.partitions.length

def RefusedIn (s : Cluster) (spec : TopicSpec) : Prop := ∃ t, s spec.name = some t ∧ t.Refused spec

/-- No other topic has changed. -/
def Only (name : String) (s s' : Cluster) : Prop := ∀ other ≠ name, s' other = s other

section

variable {s s' : Cluster} {spec : TopicSpec} {t : Topic} {timeout : ℚ}

/-! ## Configurations -/

theorem set_of_notMem {config : Config} {changes : List (String × String)} {key : String}
    (other : key ∉ changes.map Prod.fst) : config.set changes key = config key := by
  induction changes generalizing config with
  | nil => rfl
  | cons change changes ih =>
    rw [List.map_cons, List.mem_cons, not_or] at other
    exact (ih other.2).trans (Function.update_of_ne other.1 ..)

theorem set_of_mem {config : Config} {changes : List (String × String)} {key value : String}
    (distinct : (changes.map Prod.fst).Nodup) (member : (key, value) ∈ changes) :
    config.set changes key = some (some value) := by
  induction changes generalizing config with
  | nil => cases member
  | cons change changes ih =>
    rw [List.map_cons, List.nodup_cons] at distinct
    obtain rfl | later := List.mem_cons.1 member
    · exact (set_of_notMem distinct.1).trans (Function.update_self ..)
    · exact ih distinct.2 later

/-- The changes are the pairs of the file that differ. -/
theorem configChanges_eq_ok {current : Config} {config changes : List (String × String)}
    (found : configChanges current config = .ok changes) :
    changes = config.filter fun pair => current pair.1 ≠ some (some pair.2) := by
  induction config generalizing changes with
  | nil =>
    cases found
    rfl
  | cons pair config ih =>
    obtain ⟨key, value⟩ := pair
    rw [configChanges] at found
    cases entry : current key with
    | none =>
      rw [entry] at found
      cases found
    | some actual =>
      cases rest : configChanges current config with
      | error e =>
        rw [entry, rest] at found
        cases found
      | ok later =>
        rw [entry, rest] at found
        cases found
        rw [List.filter_cons, entry, ih rest]
        simp

/-- Once the changes are set, every key of the file has its value, and no other key has changed. -/
theorem set_configChanges {current : Config} {changes : List (String × String)}
    (found : configChanges current spec.config = .ok changes) :
    (∀ key value, (key, value) ∈ spec.config → current.set changes key = some (some value)) ∧
      ∀ key, key ∉ spec.config.map Prod.fst → current.set changes key = current key := by
  rw [configChanges_eq_ok found]
  have subset : ((spec.config.filter fun pair => current pair.1 ≠ some (some pair.2)).map Prod.fst).Sublist
      (spec.config.map Prod.fst) := List.filter_sublist.map Prod.fst
  constructor
  · intro key value member
    by_cases same : current key = some (some value)
    · rw [set_of_notMem, same]
      intro changed
      obtain ⟨⟨other, v⟩, listed, rfl⟩ := List.mem_map.1 changed
      rw [List.mem_filter] at listed
      have pairs := List.inj_on_of_nodup_map spec.config_nodup listed.1 member rfl
      cases pairs
      simp [same] at listed
    · refine set_of_mem (subset.nodup spec.config_nodup) (List.mem_filter.2 ⟨member, ?_⟩)
      exact decide_eq_true same
  · intro key other
    exact set_of_notMem fun changed => other (subset.subset changed)

/-! ## One pass -/

/-- Waiting for the future of a call. -/
theorem always_call {o : Op} {G : Op → Cluster → Prop} {Q : Except PyException (Value o) → Cluster → Prop}
    (guard : G o s) (succeeded : ∀ value s', Effect o s value s' → Q (.ok value) s')
    (failed : ∀ e, Q (.error e) s) (unanswered : ∀ e value s', Effect o s value s' → Q (.error e) s') :
    Prog.Always AdminExec G Q (call o) s := by
  refine ⟨guard, fun answer s' answered => ?_⟩
  cases answered with
  | succeeded effect => exact succeeded _ _ effect
  | failed => exact failed _
  | unanswered effect => exact unanswered _ _ _ effect

theorem Only.refl {name : String} : Only name s s := fun _ _ => rfl

theorem Only.update {name : String} (before : Only name s s') (value : Option Topic) :
    Only name s (Function.update s' name value) := fun other apart =>
  (Function.update_of_ne apart ..).trans (before other apart)

/-- A pass over a topic that is there raises at once, or its checks pass and it goes on. -/
theorem applyTopic_cases {topics : String → Option TopicMetadata}
    (listed : topics spec.name = (s spec.name).map Topic.toTopicMetadata) (here : s spec.name = some t) :
    (∃ e, applyTopic timeout spec topics = .done (.error e)) ∨
      t.error = none ∧ checkReplicationFactor spec t.toTopicMetadata = .ok () ∧
        applyTopic timeout spec topics = (do
          let _ ← updatePartitions timeout spec t.partitions.length
          let _ ← updateConfig timeout spec) := by
  rw [here] at listed
  simp only [Option.map_some] at listed
  cases error : t.error with
  | some text =>
    simp only [applyTopic, listed, error]
    exact .inl ⟨_, rfl⟩
  | none =>
    simp only [applyTopic, listed, error]
    cases checked : checkReplicationFactor spec t.toTopicMetadata with
    | error e => exact .inl ⟨e, rfl⟩
    | ok _ => exact .inr ⟨trivial, rfl, rfl⟩

/-- A refused topic ends the run before anything is called. -/
theorem applyTopic_refused {topics : String → Option TopicMetadata}
    (listed : topics spec.name = (s spec.name).map Topic.toTopicMetadata) (refused : RefusedIn s spec) :
    ∃ e, applyTopic timeout spec topics = .done (.error e) := by
  obtain ⟨t, here, refused⟩ := refused
  obtain raises | ⟨error, checked, continues⟩ := @applyTopic_cases s spec t timeout topics listed here
  · exact raises
  · obtain failed | differs | more := refused
    · exact absurd error failed
    · exact absurd checked differs
    · rw [continues, updatePartitions, if_pos more]
      exact ⟨_, rfl⟩

theorem replicas_of_checked (checked : checkReplicationFactor spec t.toTopicMetadata = .ok ()) :
    ∀ replicas ∈ t.partitions, replicas.length = spec.replicationFactor := by
  intro replicas member
  unfold checkReplicationFactor at checked
  dsimp only at checked
  split at checked
  · cases checked
  · next same =>
    rw [not_not] at same
    have counted : replicas.length ∈ (t.partitions.map List.length).dedup :=
      List.mem_dedup.2 (List.mem_map_of_mem member)
    rw [same] at counted
    exact List.mem_singleton.1 counted

/-- The topic has the partitions that the file asks for, and is otherwise as it was. -/
structure Grown (spec : TopicSpec) (t t' : Topic) : Prop where
  error : t'.error = t.error
  config : t'.config = t.config
  kept : t.partitions <+: t'.partitions
  partitions : t'.partitions.length = spec.partitions
  replicas : ∀ replicas ∈ t'.partitions, replicas.length = spec.replicationFactor

theorem updatePartitions_spec (here : s spec.name = some t)
    (replicas : ∀ replicas ∈ t.partitions, replicas.length = spec.replicationFactor) :
    Prog.Always AdminExec (fun _ s' => Only spec.name s s')
      (fun r s' => Only spec.name s s' ∧ ∀ changed, r = .ok changed →
        ∃ t', s' spec.name = some t' ∧ Grown spec t t')
      (updatePartitions timeout spec t.partitions.length) s := by
  unfold updatePartitions
  split
  · exact ⟨.refl, fun _ returned => nomatch returned⟩
  · split
    · next same => exact ⟨.refl, fun _ _ => ⟨t, here, rfl, rfl, List.prefix_refl _, same, replicas⟩⟩
    · apply Prog.Always.bind
      apply always_call (o := .createPartitions spec.name spec.partitions timeout)
      · exact .refl
      · intro _ s' effect
        cases effect with
        | @grown _ _ _ _ t₀ added found total likely =>
          obtain rfl : t₀ = t := Option.some.inj (found.symm.trans here)
          refine ⟨Only.refl.update _, fun _ _ => ⟨_, Function.update_self .., rfl, rfl, ?_, ?_, ?_⟩⟩
          · exact List.prefix_append ..
          · rw [List.length_append, total]
          · intro replicas' member
            obtain old | new := List.mem_append.1 member
            · exact replicas _ old
            · obtain ⟨old, there, same⟩ := likely _ new
              rw [same, replicas _ there]
      · exact fun e => ⟨.refl, fun _ returned => nomatch returned⟩
      · intro e _ s' effect
        cases effect with
        | grown => exact ⟨Only.refl.update _, fun _ returned => nomatch returned⟩

/-- The keys of the file have their values, and everything else is as it was. -/
structure Configured (spec : TopicSpec) (t t' : Topic) : Prop where
  error : t'.error = t.error
  partitions : t'.partitions = t.partitions
  config : ∀ key value, (key, value) ∈ spec.config → t'.config key = some (some value)
  kept : ∀ key, key ∉ spec.config.map Prod.fst → t'.config key = t.config key

theorem updateConfig_spec (here : s spec.name = some t) :
    Prog.Always AdminExec (fun _ s' => Only spec.name s s')
      (fun r s' => Only spec.name s s' ∧ ∀ changed, r = .ok changed →
        ∃ t', s' spec.name = some t' ∧ Configured spec t t')
      (updateConfig timeout spec) s := by
  apply Prog.Always.bind
  apply always_call
  · exact .refl
  · intro current s' effect
    cases effect with
    | @described _ _ _ t₀ found =>
      obtain rfl : t₀ = t := Option.some.inj (found.symm.trans here)
      cases changed : configChanges t₀.config spec.config with
      | error e =>
        simp only [Prog.ofExcept, Prog.bind_eq, changed]
        exact ⟨.refl, fun _ returned => nomatch returned⟩
      | ok changes =>
        obtain ⟨set, kept⟩ := set_configChanges changed
        simp only [Prog.ofExcept, Prog.bind_eq, changed, Prog.bind_ok]
        split
        · next none =>
          rw [none] at set kept
          exact ⟨.refl, fun _ _ => ⟨t₀, here, rfl, rfl, set, fun _ _ => rfl⟩⟩
        · apply Prog.Always.bind
          apply always_call (o := .incrementalAlterConfigs spec.name changes timeout)
          · exact .refl
          · intro _ s' effect
            cases effect with
            | @altered _ _ _ _ t₁ found' =>
              obtain rfl : t₁ = t₀ := Option.some.inj (found'.symm.trans here)
              exact ⟨Only.refl.update _, fun _ _ => ⟨_, Function.update_self .., rfl, rfl, set, kept⟩⟩
          · exact fun e => ⟨.refl, fun _ returned => nomatch returned⟩
          · intro e _ s' effect
            cases effect with
            | altered => exact ⟨Only.refl.update _, fun _ returned => nomatch returned⟩
  · exact fun e => ⟨.refl, fun _ returned => nomatch returned⟩
  · intro e _ s' effect
    cases effect with
    | described => exact ⟨.refl, fun _ returned => nomatch returned⟩

/-- What a pass over one topic leaves. -/
structure Pass (spec : TopicSpec) (s : Cluster) (r : Except PyException Unit) (s' : Cluster) : Prop where
  only : Only spec.name s s'
  completed : r = .ok () → Converged spec s' ∧ Kept spec s s'

theorem Pass.of_error {e : PyException} (only : Only spec.name s s') : Pass spec s (.error e) s' :=
  ⟨only, fun returned => nomatch returned⟩

theorem Pass.of_configured {t' t'' : Topic} (here : s spec.name = some t) (grown : Grown spec t t')
    (there : s' spec.name = some t'') (configured : Configured spec t' t'') (only : Only spec.name s s') :
    Pass spec s (.ok ()) s' where
  only := only
  completed _ := by
    have meets : t''.Meets spec := by
      refine ⟨?_, ?_, configured.config⟩
      · rw [configured.partitions, grown.partitions]
      · rw [configured.partitions]
        exact grown.replicas
    refine ⟨⟨t'', there, meets⟩, fun t₀ found => ?_⟩
    obtain rfl : t₀ = t := Option.some.inj (found.symm.trans here)
    refine ⟨t'', there, configured.error.trans grown.error, ?_, fun key other => ?_⟩
    · rw [configured.partitions]
      exact grown.kept
    · rw [configured.kept key other, grown.config]

theorem Only.trans {name : String} {s'' : Cluster} (first : Only name s s') (second : Only name s' s'') :
    Only name s s'' := fun other apart => (second other apart).trans (first other apart)

/-- **One pass.** -/
theorem applyTopic_spec {topics : String → Option TopicMetadata}
    (listed : topics spec.name = (s spec.name).map Topic.toTopicMetadata) :
    Prog.Always AdminExec (fun _ s' => Only spec.name s s') (Pass spec s)
      (applyTopic timeout spec topics) s := by
  cases here : s spec.name with
  | none =>
    rw [here] at listed
    simp only [Option.map_none] at listed
    simp only [applyTopic, listed]
    apply always_call (o := .createTopics ⟨spec.name, spec.partitions, spec.replicationFactor, spec.config⟩
      timeout)
    · exact .refl
    · intro _ s' effect
      cases effect with
      | created makes =>
        refine ⟨Only.refl.update _, fun _ => ⟨⟨_, Function.update_self .., ?_⟩, fun t found => ?_⟩⟩
        · exact ⟨makes.partitions, makes.replicas, makes.config⟩
        · rw [here] at found
          cases found
    · exact fun e => .of_error .refl
    · intro e _ s' effect
      cases effect with
      | created => exact .of_error (Only.refl.update _)
  | some t =>
    obtain ⟨e, raises⟩ | ⟨-, checked, continues⟩ := @applyTopic_cases s spec t timeout topics listed here
    · rw [raises]
      exact .of_error .refl
    · rw [continues]
      apply Prog.Always.seq (updatePartitions_spec here (replicas_of_checked checked))
      rintro r s' ⟨only, grows⟩
      cases r with
      | error e => exact .of_error only
      | ok changed =>
        obtain ⟨t', there, grown⟩ := grows changed rfl
        apply Prog.Always.bind
        apply (updateConfig_spec there).mono (fun _ _ guard => only.trans guard)
        rintro r s'' ⟨later, configures⟩
        cases r with
        | error e => exact .of_error (only.trans later)
        | ok changed =>
          obtain ⟨t'', found, configured⟩ := configures changed rfl
          exact .of_configured here grown found configured (only.trans later)

/-! ## The run -/

/-- What a run over the topics has come to: nothing else has changed, and from a topic on that is
refused nothing at all. -/
structure Reached (specs : List TopicSpec) (s s' : Cluster) : Prop where
  untouched : ∀ name, name ∉ specs.map TopicSpec.name → s' name = s name
  refused : ∀ before spec later, specs = before ++ spec :: later → RefusedIn s spec →
    ∀ other ∈ spec :: later, s' other.name = s other.name

/-- What a run that completes has come to. -/
structure Completed (specs : List TopicSpec) (s s' : Cluster) : Prop where
  converged : ∀ spec ∈ specs, Converged spec s'
  kept : ∀ spec ∈ specs, Kept spec s s'

theorem Reached.refl {specs : List TopicSpec} : Reached specs s s :=
  ⟨fun _ _ => rfl, fun _ _ _ _ _ _ _ => rfl⟩

theorem name_ne {later : List TopicSpec} {other : TopicSpec}
    (distinct : ((spec :: later).map TopicSpec.name).Nodup) (member : other ∈ later) :
    other.name ≠ spec.name := by
  rw [List.map_cons, List.nodup_cons] at distinct
  exact fun same => distinct.1 (same ▸ List.mem_map_of_mem member)

/-- During a pass over the first topic, which is not refused. -/
theorem Reached.of_only {later : List TopicSpec} (only : Only spec.name s s') (accepted : ¬ RefusedIn s spec)
    (distinct : ((spec :: later).map TopicSpec.name).Nodup) : Reached (spec :: later) s s' where
  untouched name other := by
    rw [List.map_cons, List.mem_cons, not_or] at other
    exact only name other.1
  refused before refused rest split refusal other member := by
    cases before with
    | nil =>
      cases split
      exact absurd refusal accepted
    | cons first before =>
      cases split
      exact only _ (name_ne distinct (List.mem_append_right _ member))

/-- Once the pass over the first topic is done. -/
theorem Reached.cons {later : List TopicSpec} {s'' : Cluster} (only : Only spec.name s s')
    (accepted : ¬ RefusedIn s spec) (distinct : ((spec :: later).map TopicSpec.name).Nodup)
    (rest : Reached later s' s'') : Reached (spec :: later) s s'' where
  untouched name other := by
    rw [List.map_cons, List.mem_cons, not_or] at other
    exact (rest.untouched name other.2).trans (only name other.1)
  refused before refused after split refusal other member := by
    cases before with
    | nil =>
      cases split
      exact absurd refusal accepted
    | cons first before =>
      cases split
      have same := fun (other : TopicSpec) (member : other ∈ refused :: after) =>
        only _ (name_ne distinct (List.mem_append_right before member))
      have refusal : RefusedIn s' refused := by
        obtain ⟨t, here, why⟩ := refusal
        exact ⟨t, (same refused List.mem_cons_self).trans here, why⟩
      exact (rest.refused before refused after rfl refusal other member).trans (same other member)

theorem Completed.cons {later : List TopicSpec} {s'' : Cluster} (rest : Completed later s' s'')
    (distinct : ((spec :: later).map TopicSpec.name).Nodup) (pass : Pass spec s (.ok ()) s')
    (reached : Reached later s' s'') : Completed (spec :: later) s s'' := by
  obtain ⟨converged, kept⟩ := pass.completed rfl
  have same : s'' spec.name = s' spec.name := reached.untouched _ (List.nodup_cons.1 distinct).1
  constructor
  · intro other member
    obtain rfl | member := List.mem_cons.1 member
    · obtain ⟨t, here, meets⟩ := converged
      exact ⟨t, same.trans here, meets⟩
    · exact rest.converged other member
  · intro other member
    obtain rfl | member := List.mem_cons.1 member
    · intro t here
      obtain ⟨t', there, unchanged⟩ := kept t here
      exact ⟨t', same.trans there, unchanged⟩
    · intro t here
      exact rest.kept other member t ((pass.only _ (name_ne distinct member)).trans here)

/-- The metadata of the start tells of every topic that is still to come. -/
abbrev Lists (topics : String → Option TopicMetadata) (specs : List TopicSpec) (s : Cluster) : Prop :=
  ∀ spec ∈ specs, topics spec.name = (s spec.name).map Topic.toTopicMetadata

theorem applyEach_spec {topics : String → Option TopicMetadata} {specs : List TopicSpec}
    (distinct : (specs.map TopicSpec.name).Nodup) (listed : Lists topics specs s) :
    Prog.Always AdminExec (fun _ s' => Reached specs s s')
      (fun r s' => Reached specs s s' ∧ (r = .ok () → Completed specs s s'))
      (applyEach timeout topics specs) s := by
  induction specs generalizing s with
  | nil =>
    have nothing : Completed [] s s := ⟨fun _ member => (nomatch member), fun _ member => (nomatch member)⟩
    exact ⟨.refl, fun _ => nothing⟩
  | cons spec later ih =>
    by_cases refused : RefusedIn s spec
    · obtain ⟨e, raises⟩ : ∃ e, applyTopic timeout spec topics = .done (.error e) :=
        applyTopic_refused (listed spec List.mem_cons_self) refused
      simp only [applyEach, raises, Prog.bind_eq, Prog.bind_error]
      exact ⟨.refl, fun returned => nomatch returned⟩
    · apply Prog.Always.bind
      apply (applyTopic_spec (listed spec List.mem_cons_self)).mono
      · exact fun _ _ only => .of_only only refused distinct
      · intro r s' pass
        cases r with
        | error e => exact ⟨.of_only pass.only refused distinct, fun returned => nomatch returned⟩
        | ok _ =>
          have listed' : Lists topics later s' := by
            intro other member
            rw [listed other (List.mem_cons_of_mem _ member), pass.only _ (name_ne distinct member)]
          apply (ih (List.nodup_cons.1 distinct).2 listed').mono
          · exact fun _ _ reached => .cons pass.only refused distinct reached
          · rintro r s'' ⟨reached, completed⟩
            refine ⟨.cons pass.only refused distinct reached, fun returned => ?_⟩
            exact (completed returned).cons distinct pass reached

/-! ## The second run -/

/-- Nothing is changed, nor meant to be. -/
abbrev Quiet (p : AdminM Unit) (s : Cluster) : Prop :=
  Prog.Always AdminExec (fun o s' => ¬ o.Mutating ∧ s' = s) (fun _ s' => s' = s) p s

theorem updateConfig_again (here : s spec.name = some t) (meets : t.Meets spec) :
    Prog.Always AdminExec (fun o s' => ¬ o.Mutating ∧ s' = s) (fun _ s' => s' = s)
      (updateConfig timeout spec) s := by
  apply Prog.Always.bind
  apply always_call
  · exact ⟨id, rfl⟩
  · intro current s' effect
    cases effect with
    | @described _ _ _ t₀ found =>
      obtain rfl : t₀ = t := Option.some.inj (found.symm.trans here)
      cases changed : configChanges t₀.config spec.config with
      | error e =>
        simp only [Prog.ofExcept, Prog.bind_eq, changed]
        rfl
      | ok changes =>
        have none : changes = [] := by
          rw [configChanges_eq_ok changed, List.filter_eq_nil_iff]
          intro pair member
          simp [meets.config pair.1 pair.2 member]
        simp only [Prog.ofExcept, Prog.bind_eq, changed, Prog.bind_ok, if_pos none]
        rfl
  · exact fun e => rfl
  · intro e _ s' effect
    cases effect
    rfl

/-- A topic that is as the file says is only read. -/
theorem applyTopic_again {topics : String → Option TopicMetadata}
    (listed : topics spec.name = (s spec.name).map Topic.toTopicMetadata) (converged : Converged spec s) :
    Quiet (applyTopic timeout spec topics) s := by
  obtain ⟨t, here, meets⟩ := converged
  obtain ⟨e, raises⟩ | ⟨-, -, continues⟩ := @applyTopic_cases s spec t timeout topics listed here
  · rw [raises]
    rfl
  · have count : ¬ t.partitions.length > spec.partitions := meets.partitions.not_gt
    simp only [continues, Prog.bind_eq, Prog.bind_ok, updatePartitions, if_neg count, if_pos meets.partitions,
      Prog.pure_eq]
    apply Prog.Always.seq (updateConfig_again here meets)
    rintro r _ rfl
    cases r <;> rfl

theorem applyEach_again {topics : String → Option TopicMetadata} {specs : List TopicSpec}
    (listed : Lists topics specs s) (converged : ∀ spec ∈ specs, Converged spec s) :
    Quiet (applyEach timeout topics specs) s := by
  induction specs with
  | nil => rfl
  | cons spec later ih =>
    rw [Lists, List.forall_mem_cons] at listed
    rw [List.forall_mem_cons] at converged
    apply Prog.Always.seq (applyTopic_again listed.1 converged.1)
    rintro r _ rfl
    cases r with
    | error e => rfl
    | ok _ => exact ih listed.2 converged.2

/-- The metadata is that of the cluster at the start. -/
theorem always_listTopics {G : Op → Cluster → Prop} {Q : Except PyException Unit → Cluster → Prop}
    {specs : List TopicSpec} (guard : G (.listTopics timeout) s) (failed : ∀ e, Q (.error e) s)
    (rest : ∀ topics, Lists topics specs s → Prog.Always AdminExec G Q (applyEach timeout topics specs) s) :
    Prog.Always AdminExec G Q (applyTopics timeout specs) s := by
  apply Prog.Always.bind
  apply always_call
  · exact guard
  · intro topics s' effect
    cases effect
    exact rest _ fun _ _ => rfl
  · exact failed
  · intro e topics s' effect
    cases effect
    exact failed e

end

/-- **A run converges, keeps to its topics, and is idempotent.** From every cluster, at every
point of a run over distinct topics nothing but these topics has changed, and nothing from the
first refused one on; a run that completes leaves every topic as the file says and the keys it
does not mention as they were, and a run after it only reads. -/
theorem applyTopics_converges (timeout : ℚ) (specs : List TopicSpec) (s : Cluster)
    (distinct : (specs.map TopicSpec.name).Nodup) :
    Prog.Always AdminExec (fun _ s' => Reached specs s s')
      (fun r s' => Reached specs s s' ∧
        (r = .ok () → Completed specs s s' ∧ Quiet (applyTopics timeout specs) s'))
      (applyTopics timeout specs) s := by
  apply always_listTopics
  · exact .refl
  · exact fun e => ⟨.refl, fun returned => nomatch returned⟩
  · intro topics listed
    apply (applyEach_spec distinct listed).mono (fun _ _ guard => guard)
    rintro r s' ⟨reached, completed⟩
    refine ⟨reached, fun returned => ⟨completed returned, ?_⟩⟩
    apply always_listTopics
    · exact ⟨id, rfl⟩
    · exact fun _ => rfl
    · exact fun topics listed => applyEach_again listed (completed returned).converged

/-- A topic of `topics.yaml`: they differ in name and retention. -/
def threeReplicas (name retentionMs : String) : TopicSpec where
  name := name
  partitions := 3
  replicationFactor := 3
  config := [("retention.ms", retentionMs), ("min.insync.replicas", "2")]
  config_nodup := by simp

/-- `topics.yaml`. -/
def topicsYaml : List TopicSpec :=
  [threeReplicas "unsubscribe-priority" "604800000", threeReplicas "unsubscribe-legal" "604800000",
    threeReplicas "unsubscribe-priority.dlq" "2592000000",
    threeReplicas "unsubscribe-legal.dlq" "2592000000"]

/-- One topic of the file with a single partition and the retention of the broker, and one
that is not in the file. -/
def youngCluster : Cluster := fun name =>
  if name = "unsubscribe-priority" ∨ name = "_schemas" then
    some { partitions := [[1, 2, 3]], error := none, config := fun _ => some (some "1") }
  else none

theorem applyTopics_converges_topicsYaml :
    Prog.Always AdminExec (fun _ s' => Reached topicsYaml youngCluster s')
      (fun r s' => Reached topicsYaml youngCluster s' ∧
        (r = .ok () → Completed topicsYaml youngCluster s' ∧ Quiet (applyTopics 10 topicsYaml) s'))
      (applyTopics 10 topicsYaml) youngCluster :=
  applyTopics_converges 10 topicsYaml youngCluster (by decide)

end Tikblog.Topics
