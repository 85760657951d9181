import Tikblog.Python.Encoding
import Tikblog.Operational.Accounting

/-!
# Where a dead letter comes from

A dead-letter record says in its headers which record it is a copy of. Topic, partition and
offset are written as UTF-8 text, which says them unambiguously, and an offset names one
record of a partition; so the headers name one record of all the topics
(`dead_letters_traceable`).
-/

namespace Tikblog.Operational

open Python Contracts Kafka Program
open Consumer (CopyOf parkedCopy)

theorem encode_injective {a b : String} (same : encode a = encode b) : a = b := by
  have decoded : some a = some b := by rw [← decode_encode a, same, decode_encode b]
  exact Option.some.inj decoded

theorem toString_injective {m n : Nat} (same : toString m = toString n) : m = n := by
  have digits : Nat.toDigits 10 m = Nat.toDigits 10 n := by
    simpa [toString, Nat.repr] using congrArg String.toList same
  rw [← Nat.ofDigitChars_ten_toDigits (n := m), digits, Nat.ofDigitChars_ten_toDigits]

/-- The headers of the record say that it is a copy of the message. -/
structure Names (record : DlqRecord) (m : Message) : Prop where
  topic : record.headers.lookup "source_topic" = some (encode m.topic)
  partition : record.headers.lookup "source_partition" = some (encode (toString m.partition))
  offset : record.headers.lookup "source_offset" = some (encode (toString m.offset))

theorem CopyOf.names {settings : Consumer.Settings} {m : Message} {record : DlqRecord}
    (h : CopyOf settings m record) : Names record m := by
  obtain ⟨reason, text, error, attempts, failedAt, -, rfl⟩ := h
  exact ⟨rfl, rfl, rfl⟩

/-- A name is said unambiguously. -/
theorem Names.coordinates {record : DlqRecord} {m m' : Message} (h : Names record m) (h' : Names record m') :
    m.topic = m'.topic ∧ m.partition = m'.partition ∧ m.offset = m'.offset := by
  refine ⟨?_, ?_, ?_⟩
  · exact encode_injective (Option.some.inj (h.topic.symm.trans h'.topic))
  · exact toString_injective (encode_injective (Option.some.inj (h.partition.symm.trans h'.partition)))
  · exact toString_injective (encode_injective (Option.some.inj (h.offset.symm.trans h'.offset)))

variable {δ π : Type}

/-- Groups that read a topic of the same name read the same topic. -/
def OneCluster (w : Platform δ π) : Prop :=
  ∀ d d', (w.deployment d).topic.name = (w.deployment d').topic.name →
    (w.deployment d).topic = (w.deployment d').topic

theorem Names.unique {w : Platform δ π} (cluster : OneCluster w) {record : DlqRecord} {d d' : δ} {k k' : Nat}
    {m m' : Message} (recorded : Recorded w d k m) (recorded' : Recorded w d' k' m') (h : Names record m)
    (h' : Names record m') : m' = m := by
  obtain ⟨topic, partition, offset⟩ := h'.coordinates h
  have located := (w.deployment d).topic.located k m recorded
  have located' := (w.deployment d').topic.located k' m' recorded'
  have same : (w.deployment d').topic = (w.deployment d).topic :=
    cluster d' d (by rw [← located'.1, ← located.1, topic])
  have here : k' = k := by rw [← located'.2, ← located.2, partition]
  rw [Recorded, same, here] at recorded'
  exact PartitionLog.eq_of_offset recorded' recorded offset

/-- **A dead letter names its source.** At any point of any run, every record written to a
dead-letter topic, reported as not written or still queued repeats the key and the value of
a record of some group's topic byte for byte, under the dead-letter topic of that group, and
its headers name this record and no other of the platform's topics. -/
theorem dead_letters_traceable [DecidableEq δ] [DecidableEq π] (w : Platform δ π) (cluster : OneCluster w)
    (reads : ∀ event, Sourced w event → ReadsTime w.web event)
    {threads : π ⊕ Nat → PathM Unit} {s : State δ π} (reached : (operational w).Reachable threads s) :
    ∀ record, (record ∈ s.deadLetters ∨ record ∈ s.undelivered ∨ ∃ p, record ∈ s.queue p) →
      ∃ d k m, Recorded w d k m ∧ record.topic = (w.deployment d).settings.dlqTopic ∧
        record.key = m.key ∧ record.value = m.value ∧ Names record m ∧
        ∀ d' k' m', Recorded w d' k' m' → Names record m' → m' = m := by
  intro record copied
  obtain ⟨d, k, m, recorded, copy⟩ := ((operational_cooperates reads).invariant reached).copies record copied
  have names : Names record m := CopyOf.names copy
  refine ⟨d, k, m, recorded, ?_, ?_, ?_, names, fun d' k' m' recorded' names' =>
    names.unique cluster recorded recorded' names'⟩
  all_goals
    obtain ⟨reason, text, error, attempts, failedAt, -, rfl⟩ := copy
    rfl

/-- The registry is out of reach, and the records are parked one after the other. -/
def demoParked : DemoState :=
  demoRest demoPlatform (.error (PyStr.ofString "unavailable")) (List.replicate 6 (.inl ()))
    (demoRest demoPlatform (.error (PyStr.ofString "unavailable")) (List.replicate 9 (.inl ())) (demoRead demoPlatform))

theorem dead_letters_traceable_demo :
    demoParked.2.deadLetters.length = 2 ∧ ∀ record ∈ demoParked.2.deadLetters,
    ∃ d k m, Recorded demoPlatform d k m ∧ record.topic = (demoPlatform.deployment d).settings.dlqTopic ∧
      record.key = m.key ∧ record.value = m.value ∧ Names record m ∧
      ∀ d' k' m', Recorded demoPlatform d' k' m' → Names record m' → m' = m := by
  have reached : (operational demoPlatform).Reachable demoParked.1 demoParked.2 :=
    demoRest_reached _ (demoRest_reached _ (demoRead_reached _) ⟨_, rfl⟩ .notDecoded _) ⟨_, rfl⟩ .notDecoded _
  have cluster : OneCluster demoPlatform := fun _ _ _ => rfl
  exact ⟨rfl, fun record member =>
    dead_letters_traceable demoPlatform cluster demo_reads reached record (.inl member)⟩

end Tikblog.Operational
