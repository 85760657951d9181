import Mathlib.Data.List.Dedup
import Mathlib.Data.Rat.Init
import Tikblog.Program.Prog
import Tikblog.Python.Runtime

/-!
# Applying the topics of topics.yaml

`apply_topics` over the calls it makes on the Kafka admin client. The metadata of every topic
is fetched once, at the start; then each topic of the file is created, refused, or brought up
to what the file says. What the script prints is left out.
-/

namespace Tikblog.Topics

open Python Program

/-- One entry of `topics.yaml`; the keys of a dict are distinct. -/
structure TopicSpec where
  name : String
  partitions : Nat
  replicationFactor : Nat
  config : List (String × String)
  config_nodup : (config.map Prod.fst).Nodup

/-- The replicas of each partition of a topic, or the error of its metadata entry. -/
structure TopicMetadata where
  partitions : List (List Nat)
  error : Option String

/-- The configuration of a topic by key; the value of an entry may be null. -/
abbrev Config := String → Option (Option String)

/-- `NewTopic`. -/
structure NewTopic where
  topic : String
  numPartitions : Nat
  replicationFactor : Nat
  config : List (String × String)

inductive Op where
  | listTopics (timeout : ℚ)
  | createTopics (new : NewTopic) (timeout : ℚ)
  | createPartitions (topic : String) (newTotalCount : Nat) (timeout : ℚ)
  | describeConfigs (topic : String) (timeout : ℚ)
  | incrementalAlterConfigs (topic : String) (changes : List (String × String)) (timeout : ℚ)

/-- What a call returns when its future succeeds. -/
abbrev Value : Op → Type
  | .listTopics _ => String → Option TopicMetadata
  | .createTopics _ _ => Unit
  | .createPartitions _ _ _ => Unit
  | .describeConfigs _ _ => Config
  | .incrementalAlterConfigs _ _ _ => Unit

abbrev Ans (o : Op) : Type := Except PyException (Value o)

abbrev AdminM := Prog Op Ans PyException

/-- Make a call and wait for its future. -/
def call (o : Op) : AdminM (Value o) := Prog.perform o >>= Prog.ofExcept

/-- A call that is meant to change the cluster. -/
def Op.Mutating : Op → Prop
  | .listTopics _ | .describeConfigs _ _ => False
  | _ => True

/-- How a set of numbers prints; its order is not specified. -/
def setText : List Nat → String
  | [] => "set()"
  | numbers => "\x7b" ++ String.intercalate ", " (numbers.map toString) ++ "\x7d"

section

variable (timeout : ℚ) (topic : TopicSpec)

def createTopic : AdminM Unit :=
  call (.createTopics ⟨topic.name, topic.partitions, topic.replicationFactor, topic.config⟩ timeout)

/-- `check_replication_factor`. -/
def checkReplicationFactor (kafkaTopic : TopicMetadata) : Except PyException Unit :=
  let actualReplicationFactors := (kafkaTopic.partitions.map List.length).dedup
  if actualReplicationFactors ≠ [topic.replicationFactor] then
    .error (.runtimeError ("Topic " ++ topic.name ++ " has RF " ++ setText actualReplicationFactors ++
      ", expected " ++ toString topic.replicationFactor ++
      ". Changing RF requires partition reassignment."))
  else .ok ()

/-- `update_partitions`. -/
def updatePartitions (currentCount : Nat) : AdminM Bool :=
  if currentCount > topic.partitions then
    throw (.runtimeError ("Topic " ++ topic.name ++ " has " ++ toString currentCount ++
      " partitions, but topics.yaml requests " ++ toString topic.partitions ++
      ". Kafka cannot decrease partition count."))
  else if currentCount = topic.partitions then
    return false
  else do
    call (.createPartitions topic.name topic.partitions timeout)
    return true

/-- The comprehension of `update_config`: the pairs that differ, or the key there is no entry for. -/
def configChanges (currentConfig : Config) :
    List (String × String) → Except PyException (List (String × String))
  | [] => .ok []
  | (key, value) :: rest =>
    match currentConfig key with
    | none => .error (.keyError key)
    | some current => do
      let changes ← configChanges currentConfig rest
      return if current ≠ some value then (key, value) :: changes else changes

/-- `update_config`. -/
def updateConfig : AdminM Bool := do
  let currentConfig ← call (.describeConfigs topic.name timeout)
  let changes ← Prog.ofExcept (configChanges currentConfig topic.config)
  if changes = [] then
    return false
  else do
    call (.incrementalAlterConfigs topic.name changes timeout)
    return true

/-- One pass of the loop of `apply_topics`. -/
def applyTopic (topics : String → Option TopicMetadata) : AdminM Unit :=
  match topics topic.name with
  | none => createTopic timeout topic
  | some kafkaTopic =>
    match kafkaTopic.error with
    | some error =>
      throw (.runtimeError ("Kafka returned an error for " ++ topic.name ++ ": " ++ error))
    | none => do
      Prog.ofExcept (checkReplicationFactor topic kafkaTopic)
      let _ ← updatePartitions timeout topic kafkaTopic.partitions.length
      let _ ← updateConfig timeout topic

def applyEach (topics : String → Option TopicMetadata) : List TopicSpec → AdminM Unit
  | [] => pure ()
  | topic :: later => do
    applyTopic timeout topic topics
    applyEach topics later

/-- `apply_topics`. -/
def applyTopics (desiredTopics : List TopicSpec) : AdminM Unit := do
  let topics ← call (.listTopics timeout)
  applyEach timeout topics desiredTopics

end

/-! ## The cluster -/

/-- A topic of the cluster. -/
structure Topic extends TopicMetadata where
  config : Config

abbrev Cluster := String → Option Topic

/-- `key=value` for each of the changes. -/
def Config.set (config : Config) (changes : List (String × String)) : Config :=
  changes.foldl (fun config change => Function.update config change.1 (some (some change.2))) config

/-- A topic made as it was asked for; the broker sets the other keys. -/
structure NewTopic.Makes (new : NewTopic) (t : Topic) : Prop where
  partitions : t.partitions.length = new.numPartitions
  replicas : ∀ replicas ∈ t.partitions, replicas.length = new.replicationFactor
  config : ∀ key value, (key, value) ∈ new.config → t.config key = some (some value)

/-- What a call does when its future succeeds. A new partition has as many replicas as one
that was there. -/
inductive Effect : (o : Op) → Cluster → Value o → Cluster → Prop where
  | listed {timeout s} : Effect (.listTopics timeout) s (fun name => (s name).map Topic.toTopicMetadata) s
  | created {new timeout s t} : new.Makes t →
      Effect (.createTopics new timeout) s () (Function.update s new.topic (some t))
  | grown {topic newTotalCount timeout s t added} : s topic = some t →
      t.partitions.length + added.length = newTotalCount →
      (∀ replicas ∈ added, ∃ old ∈ t.partitions, replicas.length = old.length) →
      Effect (.createPartitions topic newTotalCount timeout) s ()
        (Function.update s topic (some { t with partitions := t.partitions ++ added }))
  | described {topic timeout s t} : s topic = some t → Effect (.describeConfigs topic timeout) s t.config s
  | altered {topic changes timeout s t} : s topic = some t →
      Effect (.incrementalAlterConfigs topic changes timeout) s ()
        (Function.update s topic (some { t with config := t.config.set changes }))

/-- A call whose future fails may have taken effect. -/
inductive AdminExec : Exec Op Ans Cluster where
  | succeeded {o s value t} : Effect o s value t → AdminExec o s (.ok value) t
  | failed {o s e} : AdminExec o s (.error e) s
  | unanswered {o s value t e} : Effect o s value t → AdminExec o s (.error e) t

end Tikblog.Topics
