import Mathlib.Data.List.Nodup
import Tikblog.Contracts.Event

/-!
# Kafka messages

What the confluent client hands to the consumer, and what the dead-letter producer writes.
-/

namespace Tikblog.Kafka

open Python Contracts

structure KafkaError where
  code : Int
  name : String
  text : String
  deriving DecidableEq, Repr

/-- A polled message. A message with an `error` is an event of the client, not a record of
the partition. -/
structure Message where
  topic : String
  partition : Nat
  offset : Nat
  key : Option Bytes
  value : Option Bytes
  error : Option KafkaError
  deriving DecidableEq, Repr

/-- One message paired with its decoded event, if decoding succeeded. -/
structure ConsumedRecord where
  message : Message
  event : Option UnsubscribeEvent
  deserializationError : Option PyStr

/-- A record of the dead-letter topic. -/
structure DlqRecord where
  topic : String
  key : Option Bytes
  value : Option Bytes
  headers : List (String × Bytes)
  deriving DecidableEq, Repr

/-- The records of one partition, offsets increasing. -/
structure PartitionLog where
  records : List Message
  ordered : records.Pairwise fun m n => m.offset < n.offset
  noError : ∀ m ∈ records, m.error = none

/-- The record a consumer at `position` is handed next. -/
def PartitionLog.next (log : PartitionLog) (position : Nat) : Option Message :=
  log.records.find? fun m => position ≤ m.offset

theorem PartitionLog.next_mem {log : PartitionLog} {position : Nat} {m : Message}
    (h : log.next position = some m) : m ∈ log.records := List.mem_of_find?_eq_some h

/-- No record lies between the position and the record handed out. -/
theorem PartitionLog.lt_of_lt_next {log : PartitionLog} {position : Nat} {m n : Message}
    (h : log.next position = some m) (hn : n ∈ log.records) (lt : n.offset < m.offset) :
    n.offset < position := by
  obtain ⟨-, before, after, split, skipped⟩ := List.find?_eq_some_iff_append.1 h
  have sorted := log.ordered
  rw [split] at sorted hn
  rcases List.mem_append.1 hn with hn | hn
  · simpa using skipped n hn
  · rcases List.mem_cons.1 hn with rfl | hn
    · exact absurd lt (Nat.lt_irrefl _)
    · have := (List.pairwise_cons.1 (List.pairwise_append.1 sorted).2.1).1 n hn
      omega

/-- An offset names one record. -/
theorem PartitionLog.eq_of_offset {log : PartitionLog} {m n : Message} (hm : m ∈ log.records)
    (hn : n ∈ log.records) (same : m.offset = n.offset) : m = n := by
  have distinct : (log.records.map Message.offset).Nodup :=
    List.pairwise_map.2 (log.ordered.imp Nat.ne_of_lt)
  exact List.inj_on_of_nodup_map distinct hm hn same

end Tikblog.Kafka
