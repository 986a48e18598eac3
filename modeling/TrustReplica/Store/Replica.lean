import TrustReplica.Store.Journal
import TrustReplica.Store.Transition

/-! A replica: a store, and a journal of the messages that it received as they came. `receive` never
    fails; a message that cannot be read is recorded as malformed and changes nothing else. -/

namespace TrustReplica

/-- A store with the journal of its push stream. -/
structure Replica where
  store : Store
  journal : Journal

namespace Replica

/-- The capacity of the journal when none is chosen. -/
def defaultCapacity : Nat := 1000

/-- The replica that knows nothing. -/
def empty (capacity : Nat) : Replica := ⟨.empty, .empty capacity⟩

/-- Records a message with what became of it. -/
def record (r : Replica) (eventType : Option String) (outcome : Outcome) (payload : Json) : Replica :=
  { r with journal := r.journal.record eventType outcome.label payload }

/-- Applies one event without recording it. -/
def apply (r : Replica) (e : Event) : Outcome × Replica :=
  ((r.store.apply e).1, { r with store := (r.store.apply e).2 })

/-- Applies many events without recording them, and counts the outcomes. -/
def applyAllCounting (r : Replica) (events : List Event) : Tally × Replica :=
  ((r.store.applyAllCounting events).1, { r with store := (r.store.applyAllCounting events).2 })

/-- Applies the event that a value writes; a value that is no event is malformed. -/
def applyJson (r : Replica) (payload : Json) : Outcome × Replica :=
  match Event.ofJson payload with
  | .ok e => r.apply e
  | .error _ => (.malformed, r)

/-- Reads, applies and records one message. -/
def receive (r : Replica) (raw : String) : Outcome × Replica :=
  match Json.parse raw with
  | .error _ => (.malformed, r.record none .malformed (.text raw))
  | .ok payload =>
    let (outcome, after) := r.applyJson payload
    (outcome, after.record (Event.tagOf? payload) outcome payload)

/-- Receives one message and counts its outcome. -/
def receiveCounting (acc : Tally × Replica) (raw : String) : Tally × Replica :=
  (acc.1.count (acc.2.receive raw).1, (acc.2.receive raw).2)

/-- Receives many messages, in their order, and counts the outcomes. -/
def receiveAll (r : Replica) (raws : List String) : Tally × Replica :=
  raws.foldl receiveCounting (Tally.zero, r)

/-! ### Description -/

/-- The sizes of a replica as text. -/
def describe (r : Replica) : String :=
  "Replica \x7b sessions: " ++ Nat.repr r.store.sessions.size ++ ", tmis: " ++ Nat.repr r.store.tmis.size ++
    ", logged_events: " ++ Nat.repr r.journal.size ++ " \x7d"

/-- A loader of snapshots is described by the replica that it fills. -/
def describeLoader (r : Replica) : String :=
  "SnapshotLoader \x7b replica: " ++ r.describe ++ ", .. \x7d"

end Replica

end TrustReplica
