import TrustReplica.Text.Split

/-! Writing a label of any characters with ASCII letters and digits, and reading it again. The code points
    outside ASCII are taken in ascending order; for each place where one occurs, the number of places
    skipped since the last one is written with digits of base 36, whose thresholds adapt as they are
    used. -/

namespace TrustReplica.Url.Punycode

/-- The digit of a value below 36: letters first, then figures. -/
def digit (n : Nat) : Char := if n < 26 then Char.ofNat (97 + n) else Char.ofNat (22 + n)

/-- The value of a digit. -/
def digitValue? (c : Char) : Option Nat :=
  if 'a' ≤ c ∧ c ≤ 'z' then some (c.toNat - 97)
  else if 'A' ≤ c ∧ c ≤ 'Z' then some (c.toNat - 65)
  else if '0' ≤ c ∧ c ≤ '9' then some (c.toNat - 22)
  else none

/-- The threshold of the digit at place `k`. -/
def threshold (k bias : Nat) : Nat := if k ≤ bias then 1 else min 26 (k - bias)

/-- Divides a delta until it is small, and counts 36 for each time. -/
def shrink (delta k : Nat) : Nat × Nat :=
  if 455 < delta then shrink (delta / 35) (k + 36) else (delta, k)
termination_by delta
decreasing_by omega

/-- The bias after a delta was written. -/
def adapt (delta points : Nat) (first : Bool) : Nat :=
  let delta := if first then delta / 700 else delta / 2
  let (delta, k) := shrink (delta + delta / points) 0
  k + 36 * delta / (delta + 38)

/-- A delta as digits, the least significant first. -/
def digits (bias k n : Nat) : List Char :=
  let t := threshold k bias
  if n < t then [digit n] else digit (t + (n - t) % (36 - t)) :: digits bias (k + 36) ((n - t) / (36 - t))
termination_by n
decreasing_by
  have h : 1 ≤ threshold k bias := by unfold threshold; split <;> omega
  have h' := Nat.div_le_self (n - threshold k bias) (36 - threshold k bias)
  omega

/-! ### Writing -/

/-- What has been written so far. -/
structure Progress where
  written : List Char
  delta : Nat
  bias : Nat
  handled : Nat

/-- Passes one character of the label while code point `n` is written; `basic` characters are ASCII. -/
def pass (basic n : Nat) (p : Progress) (c : Char) : Progress :=
  if c.toNat < n then { p with delta := p.delta + 1 }
  else if c.toNat = n then
    ⟨p.written ++ digits p.bias 36 p.delta, 0, adapt p.delta (p.handled + 1) (p.handled == basic),
      p.handled + 1⟩
  else p

/-- Writes one code point wherever it occurs; `next` is the least that was not looked at before. -/
def writePoint (label : List Char) (basic : Nat) (acc : Nat × Progress) (n : Nat) : Nat × Progress :=
  let p := { acc.2 with delta := acc.2.delta + (n - acc.1) * (acc.2.handled + 1) }
  let p := label.foldl (pass basic n) p
  (n + 1, { p with delta := p.delta + 1 })

/-- A label in ASCII, without the mark that it is encoded. -/
def encode (label : List Char) : List Char :=
  let basic := label.filter fun c => c.toNat < 0x80
  let others := ((label.filter fun c => 0x80 ≤ c.toNat).map Char.toNat).mergeSort.eraseDups
  let start : Progress := ⟨[], 0, 72, basic.length⟩
  let result := (others.foldl (writePoint label basic.length) (0x80, start)).2.written
  basic ++ (if basic.isEmpty then [] else ['-']) ++ result

/-! ### Reading -/

/-- What has been read so far: the characters that were put in place, the last of the code points, and a
    number of which the digits up to a place are read; it started at `start`. -/
structure Reading where
  text : List Char
  point : Nat
  bias : Nat
  start : Nat
  number : Nat
  weight : Nat
  place : Nat

namespace Reading

/-- Puts in place the character that a number stands for, when all its digits are read. -/
def insert? (r : Reading) : Option Reading :=
  let size := r.text.length + 1
  let point := r.point + r.number / size
  let index := r.number % size
  if point < 0xD800 ∨ (0xDFFF < point ∧ point < 0x110000) then
    some ⟨r.text.take index ++ Char.ofNat point :: r.text.drop index, point,
      adapt (r.number - r.start) size (r.start == 0), index + 1, index + 1, 1, 36⟩
  else none

/-- Reads one digit; numbers and weights have 32 bits. -/
def digit? (r : Reading) (c : Char) : Option Reading := do
  let d ← digitValue? c
  let t := threshold r.place r.bias
  let r := { r with number := r.number + d * r.weight }
  if 0xFFFFFFFF < r.number then none
  else if d < t then r.insert?
  else if 0xFFFFFFFF < r.weight * (36 - t) then none
  else some { r with weight := r.weight * (36 - t), place := r.place + 36 }

end Reading

/-- The text before the last hyphen, and the digits behind it; a hyphen in front counts as a digit. -/
def cutDigits (cs : List Char) : List Char × List Char :=
  match (Text.splitOn '-' cs).reverse with
  | last :: first :: more =>
    if first.isEmpty && more.isEmpty then ([], cs)
    else (Text.joinWith '-' (first :: more).reverse, last)
  | _ => ([], cs)

/-- The label that a text in ASCII writes, without the mark that it is encoded. -/
def decode? (cs : List Char) : Option (List Char) := do
  let (basic, digits) := cutDigits cs
  let r ← digits.foldlM Reading.digit? ⟨basic, 0x80, 72, 0, 0, 1, 36⟩
  if r.place = 36 then some r.text else none

end TrustReplica.Url.Punycode
