import TrustReplica.Json.Maps

/-! What applying an event to a store did, and how often each outcome occurred. -/

namespace TrustReplica

/-- What applying one event did. -/
inductive Outcome where
  | applied
  /-- The version was claimed before; the payload was filed under another. -/
  | deferred (target : Version)
  /-- The version was claimed before, and there was no payload. -/
  | duplicate
  | unknownEntity
  | ignored
  | unrecognized
  | malformed
deriving DecidableEq, Repr

/-- The name of an outcome. -/
def Outcome.label : Outcome → String
  | applied => "applied"
  | deferred _ => "deferred"
  | duplicate => "duplicate"
  | unknownEntity => "unknown_entity"
  | ignored => "ignored"
  | unrecognized => "unrecognized"
  | malformed => "malformed"

/-- How often each outcome occurred. The counts have no largest value; those that are kept in 32 bits begin to
    differ at 2^32. -/
structure Tally where
  applied : Nat
  deferred : Nat
  duplicate : Nat
  unknownEntity : Nat
  ignored : Nat
  unrecognized : Nat
  malformed : Nat
deriving DecidableEq, Repr

namespace Tally

/-- Counts of nothing. -/
def zero : Tally := ⟨0, 0, 0, 0, 0, 0, 0⟩

/-- Counts one more outcome. -/
def count (s : Tally) : Outcome → Tally
  | .applied => { s with applied := s.applied + 1 }
  | .deferred _ => { s with deferred := s.deferred + 1 }
  | .duplicate => { s with duplicate := s.duplicate + 1 }
  | .unknownEntity => { s with unknownEntity := s.unknownEntity + 1 }
  | .ignored => { s with ignored := s.ignored + 1 }
  | .unrecognized => { s with unrecognized := s.unrecognized + 1 }
  | .malformed => { s with malformed := s.malformed + 1 }

/-- The number of outcomes that were counted. -/
def total (s : Tally) : Nat :=
  s.applied + s.deferred + s.duplicate + s.unknownEntity + s.ignored + s.unrecognized + s.malformed

end Tally

end TrustReplica
