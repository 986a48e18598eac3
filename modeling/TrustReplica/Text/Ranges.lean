import Std.Data.ExtTreeMap
import TrustReplica.Text.Hexadecimal
import TrustReplica.Text.Split

/-! What is known of characters, by ranges of code points. A table is written as lines of hexadecimal
    ranges with a blank between each two, as in `30-39 41`, and is searched by the last range that starts
    at a code point or before it. -/

namespace TrustReplica.Text

/-- Disjoint ranges of code points: the first of each, with its last and what is known of it. -/
abbrev Ranges (α : Type) := Std.ExtTreeMap Nat (Nat × α)

/-- The number that hexadecimal digits write. -/
def hexNumber (cs : List Char) : Nat := cs.foldl (fun n c => n * 16 + (hexValue? c).getD 0) 0

/-- The characters whose code points are listed with plus signs between them. -/
def hexChars (cs : List Char) : List Char := (splitOn '+' cs).map fun digits => Char.ofNat (hexNumber digits)

/-- The items of a line. -/
def lineItems (line : String) : List (List Char) := splitOn ' ' line.toList

namespace Ranges

variable {α : Type}

/-- The first and the last code point of a range, which may be one and the same. -/
def ends (cs : List Char) : Nat × Nat :=
  let (first, last) := cutAt '-' cs
  (hexNumber first, hexNumber (last.getD first))

/-- Adds the ranges of a line. -/
def addLine (t : Ranges α) (a : α) (line : String) : Ranges α :=
  (lineItems line).foldl (fun t item => t.insert (ends item).1 ((ends item).2, a)) t

/-- The ranges of lines, each line with what is known of its ranges. -/
def ofLines (lines : List (α × String)) : Ranges α :=
  lines.foldl (fun t line => addLine t line.1 line.2) ∅

/-- What is known of a character. -/
def find? (t : Ranges α) (c : Char) : Option α :=
  match t.getEntryLE? c.toNat with
  | some (_, last, a) => if c.toNat ≤ last then some a else none
  | none => none

end Ranges

end TrustReplica.Text
