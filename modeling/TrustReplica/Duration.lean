/-! Lengths of time in nanoseconds, and their text in messages: the largest unit that is reached, with the
    rest as decimals and no zeros at their end. -/

namespace TrustReplica

/-- A length of time. -/
structure Duration where
  nanos : Nat
deriving DecidableEq, Repr

namespace Duration

/-- A number of milliseconds. -/
def ofMillis (n : Nat) : Duration := ⟨n * 1000000⟩

/-- The whole milliseconds of a duration. -/
def millis (d : Duration) : Nat := d.nanos / 1000000

/-- The shorter of two durations. -/
def shorter (a b : Duration) : Duration := if a.nanos ≤ b.nanos then a else b

/-- Twice a duration. -/
def double (d : Duration) : Duration := ⟨d.nanos * 2⟩

/-- The decimals of `part` out of `10 ^ places`, without zeros at their end. -/
def decimals (places part : Nat) : List Char :=
  let digits := Nat.toDigits 10 part
  let padded := List.replicate (places - digits.length) '0' ++ digits
  (padded.reverse.dropWhile (· == '0')).reverse

/-- A count of units of `10 ^ places` nanoseconds, with decimals. -/
def inUnits (nanos places : Nat) (unit : String) : String :=
  let whole := Nat.repr (nanos / Nat.pow 10 places)
  let fraction := decimals places (nanos % Nat.pow 10 places)
  if fraction.isEmpty then whole ++ unit else whole ++ "." ++ String.ofList fraction ++ unit

/-- A duration in the largest unit that it reaches. -/
def toText (d : Duration) : String :=
  if 1000000000 ≤ d.nanos then inUnits d.nanos 9 "s"
  else if 1000000 ≤ d.nanos then inUnits d.nanos 6 "ms"
  else if 1000 ≤ d.nanos then inUnits d.nanos 3 "µs"
  else inUnits d.nanos 0 "ns"

end Duration

end TrustReplica
