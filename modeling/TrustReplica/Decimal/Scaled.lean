import TrustReplica.Decimal.Whole

/-! The float that decimal digits stand for when at most twenty of them are used. As many leading digits
    as fit in 64 bits become a float, which is multiplied or divided by one power of ten. The result is
    the nearest float for up to fifteen digits and small exponents; for longer texts it may be one place
    off. -/

namespace TrustReplica.Decimal

/-- Shifts digits into `n` while the result fits in 64 bits; returns it with the digits left over. -/
def accumulate (n : Nat) : List Char → Nat × List Char
  | [] => (n, [])
  | c :: rest =>
    let next := n * 10 + (c.toNat - '0'.toNat)
    if next ≤ maxWord then accumulate next rest else (n, c :: rest)

/-- The float nearest to `10 ^ k`. -/
def powerOfTen (k : Nat) : Float := Float.ofScientific 1 false k

/-- Divides by `10 ^ k`, in steps that a float can hold. -/
def divideByPower (x : Float) (k : Nat) : Float :=
  if k ≤ 308 then x / powerOfTen k
  else if x == 0.0 then x
  else divideByPower (x / powerOfTen 308) (k - 308)
termination_by k

/-- Multiplies by `10 ^ k`; nothing if the result is too large for a float. -/
def multiplyByPower (x : Float) (k : Nat) : Option Float :=
  if k ≤ 308 then
    let y := x * powerOfTen k
    if y.isInf then none else some y
  else if x == 0.0 then some x
  else none

/-- The float of `n * 10 ^ e`; nothing if it is too large. -/
def scale? (n : Nat) (e : Int) : Option Float :=
  let x := (UInt64.ofNat n).toFloat
  match e with
  | .ofNat k => multiplyByPower x k
  | .negSucc k => some (divideByPower x (k + 1))

end TrustReplica.Decimal
