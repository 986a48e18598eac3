/-! Whole numbers in decimal. `digitsValue?` reads a non-empty run of ASCII digits, leading zeros allowed;
    `parse?` also takes one plus sign and a largest value, `parseSigned?` a plus or a minus sign.
    Nothing else is accepted: no blanks, no separators, no other digits. -/

namespace TrustReplica.Decimal

/-- The largest number of 64 bits. -/
def maxWord : Nat := UInt64.size - 1

/-- The value of one more decimal digit after `n`. -/
def shiftIn (n : Nat) (c : Char) : Nat := n * 10 + (c.toNat - '0'.toNat)

/-- The number that a non-empty run of ASCII digits writes. -/
def digitsValue? (cs : List Char) : Option Nat :=
  if cs.isEmpty then none
  else if cs.all Char.isDigit then some (cs.foldl shiftIn 0)
  else none

/-- A list of characters without one leading plus sign. -/
def dropPlus : List Char → List Char
  | '+' :: rest => rest
  | cs => cs

/-- Reads an optional plus sign and digits, as a number of at most `limit`. -/
def parse? (limit : Nat) (s : String) : Option Nat :=
  (digitsValue? (dropPlus s.toList)).filter (· ≤ limit)

/-- Reads an optional plus sign and digits, as a number within a range. -/
def parseWithin? (least most : Nat) (s : String) : Option Nat := (parse? most s).filter (least ≤ ·)

/-- Reads an optional sign and digits. -/
def parseSigned? (s : String) : Option Int :=
  match s.toList with
  | '-' :: rest => (digitsValue? rest).map fun n => -(n : Int)
  | cs => (digitsValue? (dropPlus cs)).map Int.ofNat

end TrustReplica.Decimal
