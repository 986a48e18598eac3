/-! The fewest decimal digits that read back as a given float. A finite float is `mantissa * 2 ^
    exponent`; the reals that round to it form an interval, whose ends belong to it when the mantissa is
    even. `shortest` tries the decimal grids of 1, 2, … 17 digits and takes the first that has a point
    in the interval, of two points the nearer. How the digits are laid out is chosen by a `Layout`. -/

namespace TrustReplica.Decimal

/-- A positive rational, as numerator and denominator. -/
structure Ratio where
  num : Nat
  den : Nat

/-- The rational `n * 2 ^ e`. -/
def Ratio.ofBinary (n : Nat) (e : Int) : Ratio :=
  match e with
  | .ofNat k => ⟨n * Nat.pow 2 k, 1⟩
  | .negSucc k => ⟨n, Nat.pow 2 (k + 1)⟩

/-- The rational `r * 10 ^ (-p)`. -/
def Ratio.scaleDown (r : Ratio) (p : Int) : Ratio :=
  match p with
  | .ofNat k => ⟨r.num, r.den * Nat.pow 10 k⟩
  | .negSucc k => ⟨r.num * Nat.pow 10 (k + 1), r.den⟩

/-- The number of decimal digits of `n`. -/
def digitCount (n : Nat) : Nat := (Nat.toDigits 10 n).length

/-- The exponent `e` with `10 ^ e ≤ r < 10 ^ (e + 1)`. -/
def Ratio.magnitude (r : Ratio) : Int :=
  if r.den ≤ r.num then (digitCount (r.num / r.den) : Int) - 1
  else -(digitCount ((r.den + r.num - 1) / r.num - 1) : Int)

/-- A positive finite float: `mantissa * 2 ^ exponent`, with the gap below it halved at a power of two. -/
structure Binary where
  mantissa : Nat
  exponent : Int
  narrowBelow : Bool

/-- The bit above the 52 bits of a fraction, which a normal float leaves out. -/
def hiddenBit : Nat := Nat.pow 2 52

/-- The parts of a positive finite float, from its bits. -/
def Binary.ofBits (bits : UInt64) : Binary :=
  let fraction := bits.toNat % hiddenBit
  let biased := bits.toNat / hiddenBit % 2048
  if biased = 0 then ⟨fraction, -1074, false⟩
  else ⟨hiddenBit + fraction, Int.ofNat biased - 1075, fraction == 0 && decide (1 < biased)⟩

/-- Digits `digits * 10 ^ exponent`. -/
structure Digits where
  digits : Nat
  exponent : Int
deriving DecidableEq, Repr

/-- Whether the point `d * 10 ^ p` rounds to `b`; `b` times four keeps the ends of the interval whole. -/
def Binary.covers (b : Binary) (p : Int) (d : Nat) : Bool :=
  let low := (Ratio.ofBinary (4 * b.mantissa - if b.narrowBelow then 1 else 2) (b.exponent - 2)).scaleDown p
  let high := (Ratio.ofBinary (4 * b.mantissa + 2) (b.exponent - 2)).scaleDown p
  if b.mantissa % 2 = 0 then low.num ≤ d * low.den && d * high.den ≤ high.num
  else low.num < d * low.den && d * high.den < high.num

/-- The point of the grid with spacing `10 ^ p` that is nearest to `b` among those that round to it. -/
def Binary.gridPoint? (b : Binary) (p : Int) : Option Digits :=
  let value := (Ratio.ofBinary b.mantissa b.exponent).scaleDown p
  let below := value.num / value.den
  match b.covers p below, b.covers p (below + 1) with
  | true, true =>
    let rest := 2 * (value.num % value.den)
    let up := value.den < rest || (rest == value.den && below % 2 == 1)
    some ⟨if up then below + 1 else below, p⟩
  | true, false => some ⟨below, p⟩
  | false, true => some ⟨below + 1, p⟩
  | false, false => none

/-- The fewest digits that read back as `b`: the first grid, from one digit up, with a point for it. -/
def Binary.shortest (b : Binary) : Digits :=
  let magnitude := (Ratio.ofBinary b.mantissa b.exponent).magnitude
  let grids := (List.range 17).map fun (k : Nat) => magnitude - k
  (grids.findSome? b.gridPoint?).getD ⟨b.mantissa, 0⟩

/-- How the digits of a float are laid out. -/
structure Layout where
  /-- Least magnitude written without an exponent, if there is one. -/
  leastPlain : Option Int
  /-- Least magnitude from which an exponent is written again, if there is one. -/
  leastScientific : Option Int
  /-- Whether a whole number still gets a point and a zero. -/
  keepPoint : Bool
  infinityText : String
  nanText : String

/-- Digits before and after the point when the first digit has place value `10 ^ magnitude`. -/
def placePoint (ds : List Char) (magnitude : Int) : List Char × List Char :=
  match magnitude with
  | .ofNat k => (ds.take (k + 1) ++ List.replicate (k + 1 - ds.length) '0', ds.drop (k + 1))
  | .negSucc k => (['0'], List.replicate k '0' ++ ds)

/-- A list of digits without the zeros at its end. -/
def dropZerosAtEnd (ds : List Char) : List Char := (ds.reverse.dropWhile (· == '0')).reverse

/-- Text of the digits before and after a point. -/
def joinPoint (l : Layout) (parts : List Char × List Char) : List Char :=
  match parts.2 with
  | [] => if l.keepPoint then parts.1 ++ ['.', '0'] else parts.1
  | fraction => parts.1 ++ '.' :: fraction

/-- Text of a positive finite float given by its digits. -/
def Layout.writeDigits (l : Layout) (d : Digits) : List Char :=
  let all := Nat.toDigits 10 d.digits
  let magnitude := d.exponent + (all.length : Int) - 1
  let ds := dropZerosAtEnd all
  let plain := (l.leastPlain.all (· ≤ magnitude)) && (l.leastScientific.all (magnitude < ·))
  if plain then joinPoint l (placePoint ds magnitude)
  else
    let sign := if magnitude < 0 then '-' else '+'
    let exponent := Nat.toDigits 10 magnitude.natAbs
    let head := match ds with
      | [] => ['0']
      | [c] => [c]
      | c :: rest => c :: '.' :: rest
    head ++ 'e' :: sign :: exponent

/-- The bit that holds the sign of a float. -/
def signBit : Nat := Nat.pow 2 63

/-- Text of any float. -/
def Layout.write (l : Layout) (x : Float) : String :=
  let bits := x.toBits
  let minus := if signBit ≤ bits.toNat then "-" else ""
  let size := bits.toNat % signBit
  if x.isNaN then l.nanText
  else if x.isInf then minus ++ l.infinityText
  else if size = 0 then minus ++ String.ofList (joinPoint l (['0'], []))
  else minus ++ String.ofList (l.writeDigits (Binary.ofBits (UInt64.ofNat size)).shortest)

/-- Floats without an exponent, a whole one without a point. -/
def plainLayout : Layout := ⟨none, none, false, "inf", "NaN"⟩

end TrustReplica.Decimal
