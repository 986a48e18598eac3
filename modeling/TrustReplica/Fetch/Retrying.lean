import TrustReplica.Duration
import TrustReplica.Fetch.Source

/-! Trying a fetch again. After a failure that may pass, a source is asked once more, up to a number of
    retries; the delays before them grow by a factor up to a largest one. `Source.retrying` wraps a
    source, counts the retries and adds up the time that was waited. -/

namespace TrustReplica

/-- When a failed fetch is tried again, and after how many milliseconds. -/
structure RetryPolicy where
  maxRetries : UInt32
  baseDelay : UInt64
  maxDelay : UInt64
  multiplier : Float
  /-- How far a delay may be spread around its value. -/
  jitterFactor : Float

namespace RetryPolicy

/-- The product times `x` to the power `n`: squares are multiplied in from the lowest bit of `n` up. -/
def powerFrom (product x : Float) (n : Nat) : Float :=
  let product := if n % 2 = 1 then product * x else product
  if n < 2 then product else powerFrom product (x * x) (n / 2)
termination_by n
decreasing_by omega

/-- A whole power; a negative one divides. -/
def power (x : Float) (e : Int) : Float :=
  if e < 0 then 1.0 / powerFrom 1.0 x e.natAbs else powerFrom 1.0 x e.natAbs

/-- The smaller of two floats; one that is no number loses. -/
def smaller (x y : Float) : Float := if x.isNaN then y else if y < x then y else x

/-- The delay before retry number `attempt`, counted from zero, in milliseconds. The number is read as a
    signed one of 32 bits. What is drawn at random, by the `jitterFactor` at most, and added to the delay is left
    out, so this is the delay of a policy that draws nothing. -/
def delay (p : RetryPolicy) (attempt : UInt32) : UInt64 :=
  let grown := p.baseDelay.toFloat * power p.multiplier attempt.toInt32.toInt
  (smaller grown p.maxDelay.toFloat).toUInt64

end RetryPolicy

/-- A source's state with what trying again has cost so far. -/
structure Retrying (σ : Type) where
  inner : σ
  /-- All retries so far; a count that is kept in a word begins to differ at 2^64. -/
  retries : Nat
  /-- Milliseconds. -/
  waited : Nat

namespace Retrying

variable {σ α : Type}

/-- A source that was not asked yet. -/
def start (inner : σ) : Retrying σ := ⟨inner, 0, 0⟩

/-- The longest time that is waited at once, thirty years of 365 days, in milliseconds. -/
def longestWait : Nat := 30 * 365 * 86400000

/-- The state when one more delay has passed. -/
def waiting (w : Retrying σ) (inner : σ) (delay : UInt64) : Retrying σ :=
  ⟨inner, w.retries + 1, w.waited + min delay.toNat longestWait⟩

/-- Calls until there is a result that is final, or `left` retries are used up; `attempt` retries were made
    before. -/
def callFrom (policy : RetryPolicy) (call : σ → Except FetchError α × σ) :
    Nat → UInt32 → Retrying σ → Except FetchError α × Retrying σ
  | 0, _, w => ((call w.inner).1, { w with inner := (call w.inner).2 })
  | left + 1, attempt, w =>
    match call w.inner with
    | (.ok a, inner) => (.ok a, { w with inner })
    | (.error e, inner) =>
      if e.isTransient then callFrom policy call left (attempt + 1) (w.waiting inner (policy.delay attempt))
      else (.error e, { w with inner })

/-- Calls, and calls again as a policy says. -/
def call (policy : RetryPolicy) (call : σ → Except FetchError α × σ) (w : Retrying σ) :
    Except FetchError α × Retrying σ :=
  callFrom policy call policy.maxRetries.toNat 0 w

end Retrying

/-- A source that is asked again after failures that may pass. -/
def Source.retrying {σ : Type} (policy : RetryPolicy) (source : Source σ) : Source (Retrying σ) where
  list := Retrying.call policy source.list
  fetch request := Retrying.call policy (source.fetch request)

end TrustReplica
