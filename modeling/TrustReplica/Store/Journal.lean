import TrustReplica.Json.Maps

/-! A bounded record of what arrived on the push stream, newest first. Every message gets the next
    sequence number, whether or not there is room to keep it; a journal never holds more than its
    capacity. The time of arrival, which an entry is told with as well, is left out: no clock is modelled. -/

namespace TrustReplica

/-- One message as it was received, with what became of it. -/
structure JournalEntry where
  seq : Nat
  eventType : Option String
  outcome : String
  payload : Json

/-- The newest messages, up to a capacity. -/
structure Journal where
  capacity : Nat
  /-- Newest first. -/
  entries : List JournalEntry
  /-- The number of the next message. It has no largest value; one that is kept in a word begins to differ
      after 2^64 messages. -/
  nextSeq : Nat
  length_le : entries.length ≤ capacity

namespace Journal

/-- A journal that has recorded nothing; sequence numbers start at one. -/
def empty (capacity : Nat) : Journal := ⟨capacity, [], 1, Nat.zero_le _⟩

/-- Records a message in front of the others and drops what no longer fits. -/
def record (j : Journal) (eventType : Option String) (outcome : String) (payload : Json) : Journal where
  capacity := j.capacity
  entries := (⟨j.nextSeq, eventType, outcome, payload⟩ :: j.entries).take j.capacity
  nextSeq := j.nextSeq + 1
  length_le := List.length_take_le _ _

/-- At most `limit` of the newest entries. -/
def newest (j : Journal) (limit : Nat) : List JournalEntry := j.entries.take limit

/-- The number of entries that are kept. -/
def size (j : Journal) : Nat := j.entries.length

end Journal

/-- An entry as an object. -/
def JournalEntry.toJson (e : JournalEntry) : Json :=
  .object [("eventType", (e.eventType.map Json.text).getD .null), ("outcome", .text e.outcome),
    ("payload", e.payload), ("seq", .natural (UInt64.ofNat e.seq))]

end TrustReplica
