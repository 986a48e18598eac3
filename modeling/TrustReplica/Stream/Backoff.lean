import TrustReplica.Duration

/-! Delays between attempts to connect. The first is the initial one; each doubles the one before, up to a
    largest delay, until a connection resets them. -/

namespace TrustReplica

/-- The delays to come. -/
structure Backoff where
  initial : Duration
  max : Duration
  current : Duration
deriving DecidableEq, Repr

namespace Backoff

/-- Delays from the initial one on. -/
def start (initial max : Duration) : Backoff := ⟨initial, max, initial⟩

/-- The delays after the next one; that is the `current` one. -/
def advance (b : Backoff) : Backoff := { b with current := b.current.double.shorter b.max }

/-- The delays when they start anew. -/
def reset (b : Backoff) : Backoff := { b with current := b.initial }

/-- The next delay, and the delays after it. -/
def next (b : Backoff) : Duration × Backoff := (b.current, b.advance)

end Backoff

end TrustReplica
