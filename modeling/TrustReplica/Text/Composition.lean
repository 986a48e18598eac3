import TrustReplica.Text.Decomposition

/-! The composed form of a text: characters are taken apart, marks are put in the order of their classes,
    and what can be composed is composed again. Texts that look the same have the same composed form. -/

namespace TrustReplica.Text

/-! ### Hangul -/

/-- The parts of a syllable of Hangul: a leading consonant, a vowel and perhaps a trailing consonant. -/
def syllableParts? (c : Char) : Option (List Char) :=
  if 0xAC00 ≤ c.toNat ∧ c.toNat ≤ 0xD7A3 then
    let n := c.toNat - 0xAC00
    let vowel := [Char.ofNat (0x1100 + n / 588), Char.ofNat (0x1161 + n % 588 / 28)]
    some (if n % 28 = 0 then vowel else vowel ++ [Char.ofNat (0x11A7 + n % 28)])
  else none

/-- The syllable that a consonant and a vowel, or a syllable and a trailing consonant make. -/
def syllable? (a b : Char) : Option Char :=
  if 0x1100 ≤ a.toNat ∧ a.toNat ≤ 0x1112 ∧ 0x1161 ≤ b.toNat ∧ b.toNat ≤ 0x1175 then
    some (Char.ofNat (0xAC00 + ((a.toNat - 0x1100) * 21 + (b.toNat - 0x1161)) * 28))
  else if 0xAC00 ≤ a.toNat ∧ a.toNat ≤ 0xD7A3 ∧ (a.toNat - 0xAC00) % 28 = 0 ∧
      0x11A8 ≤ b.toNat ∧ b.toNat ≤ 0x11C2 then
    some (Char.ofNat (a.toNat + (b.toNat - 0x11A7)))
  else none

/-! ### Taking apart -/

/-- How often the parts of a character may have parts of their own. -/
def decompositionDepth : Nat := 3

/-- The parts of a character that has parts, taken apart a number of times. -/
def parts : Nat → Char → List Char
  | 0, c => [c]
  | depth + 1, c =>
    match syllableParts? c, decompositions[c]? with
    | some cs, _ => cs
    | none, some cs => cs.flatMap (parts depth)
    | none, none => [c]

/-- Puts a mark behind those of lower classes that it meets. -/
def placeMark (c : Char) : List Char → List Char
  | [] => [c]
  | d :: rest =>
    if 0 < markClass d ∧ markClass d < markClass c then d :: placeMark c rest else c :: d :: rest

/-- A text with all its characters taken apart, and the marks in order. -/
def decomposed (cs : List Char) : List Char :=
  (cs.flatMap (parts decompositionDepth)).foldr placeMark []

/-! ### Composing -/

/-- What two characters compose to. -/
def compose? (a b : Char) : Option Char :=
  match syllable? a b with
  | some c => some c
  | none => (compositions[a]?).bind fun pairs => pairs.lookup b

/-- A text that is being composed: the last character that takes marks, and the marks that it did not
    take. Texts before them are kept in reverse. -/
structure Composing where
  front : List Char
  base : Option Char
  marks : List Char

namespace Composing

/-- All that has been read, in reverse. -/
def all (t : Composing) : List Char := t.marks ++ t.base.toList ++ t.front

/-- Whether a mark of the same class, or of a higher one, stands before a character. -/
def blocks (t : Composing) (c : Char) : Bool :=
  match t.marks with
  | d :: _ => markClass c ≤ markClass d
  | [] => false

/-- Reads one more character. -/
def push (t : Composing) (c : Char) : Composing :=
  match (if t.blocks c then none else t.base.bind fun b => compose? b c) with
  | some composite => { t with base := some composite }
  | none =>
    if markClass c = 0 then ⟨t.all, some c, []⟩
    else { t with marks := c :: t.marks }

end Composing

/-- The composed form of a text. -/
def composed (cs : List Char) : List Char :=
  ((decomposed cs).foldl Composing.push ⟨[], none, []⟩).all.reverse

end TrustReplica.Text
