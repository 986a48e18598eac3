import TrustReplica.Text.Composition
import TrustReplica.Text.Direction
import TrustReplica.Text.Joining
import TrustReplica.Url.Domain.Letters
import TrustReplica.Url.Punycode

/-! Domains and their form in ASCII. A domain is a list of labels between dots. A label of other characters
    is written in Punycode behind a mark; one that has the mark already must hold such a label. What a label
    shows has to be sound: no mark in front, no joiner where nothing is joined, and directions that do not
    mix. -/

namespace TrustReplica.Url.Domain

open Text

/-- Whether a character is one of ASCII. -/
def isAscii (c : Char) : Bool := c.toNat < 0x80

/-- The characters that no domain contains. -/
def isBarred (c : Char) : Bool :=
  c.toNat ≤ 0x20 || c.toNat == 0x7F || "%#/:<>?@[\\]^\x60\x7b|\x7d".toList.contains c

/-- A domain in plain letters, composed. -/
def plain? (cs : List Char) : Option (List Char) := do
  let letters ← cs.mapM letters?
  return composed letters.flatten

/-! ### Labels -/

/-- How a label begins that is written in Punycode. -/
def codeMark : List Char := "xn--".toList

/-- The largest number of characters that are read as Punycode. -/
def maxCode : Nat := 2000

/-- The largest number of characters that are written in Punycode. -/
def maxLabel : Nat := 1000

/-- Whether a text needs Punycode, and is what comes of its letters in a domain. -/
def isEncodable (cs : List Char) : Bool :=
  !cs.all isAscii && !codeMark.isPrefixOf cs && (cs.all fun c => letters? c == some [c]) &&
    composed cs == cs

/-- What a label shows; one with the mark has to show what needs it. -/
def shown? (label : List Char) : Option (List Char) :=
  if codeMark.isPrefixOf label then do
    let code := label.drop codeMark.length
    if maxCode < code.length || code.getLast? == some '-' || !code.all isAscii then none
    else (Punycode.decode? code).filter isEncodable
  else some label

/-- A label in ASCII. -/
def asciiLabel? (label : List Char) : Option (List Char) :=
  if label.all isAscii then some label
  else if maxLabel < label.length then none
  else some (codeMark ++ Punycode.encode label)

/-! ### Joiners -/

/-- The class of the marks that take the vowel away from a consonant. -/
def viramaClass : Nat := 9

/-- Whether the nearest character is a mark that takes the vowel away. -/
def afterVirama (before : List Char) : Bool := (before.head?.map markClass) == some viramaClass

/-- Whether the nearest character that is not passed over joins on a side. -/
def joinsOn (side : Joining) (cs : List Char) : Bool :=
  match (cs.map joining?).find? fun j => j != some .transparent with
  | some (some j) => j == side || j == .both
  | _ => false

/-- Whether all joiners and non-joiners of a label make a difference; `before` is in reverse. -/
def joinersSound (before : List Char) : List Char → Bool
  | [] => true
  | c :: rest =>
    let sound :=
      if c = '\u200D' then afterVirama before
      else if c = '\u200C' then afterVirama before || (joinsOn .left before && joinsOn .right rest)
      else true
    sound && joinersSound (c :: before) rest

/-! ### Directions -/

/-- Whether a character makes a domain one that is partly written from right to left. -/
def runsLeft (d : Direction) : Bool := d == .rightToLeft || d == .arabicLetter || d == .arabicNumber

/-- Whether a character may stand in labels of both directions. -/
def fitsBoth (d : Direction) : Bool :=
  d == .europeanNumber || d == .numberSign || d == .numberUnit || d == .numberSeparator || d == .mark ||
    d == .boundary || d == .neutral

/-- Whether the characters of a label agree in direction with the first; marks at the end do not count. -/
def directionSound (label : List Char) : Bool :=
  match label.map direction with
  | [] => true
  | first :: rest =>
    let body := (rest.reverse.dropWhile (· == .mark)).reverse
    let last := body.getLast?.getD first
    if first = .leftToRight then
      (body.all fun d => d == .leftToRight || fitsBoth d) && (last == .leftToRight || last == .europeanNumber)
    else if first = .rightToLeft ∨ first = .arabicLetter then
      (body.all fun d => runsLeft d || fitsBoth d) && (runsLeft last || last == .europeanNumber) &&
        !(body.contains .europeanNumber && body.contains .arabicNumber)
    else false

/-! ### Domains -/

/-- Whether what a label shows is sound on its own. -/
def labelSound (label : List Char) : Bool :=
  ((label.head?.bind mark?).isNone) && joinersSound [] label

/-- Whether what the labels of a domain show is sound. -/
def sound (labels : List (List Char)) : Bool :=
  labels.all labelSound &&
    (!(labels.any fun label => (label.map direction).any runsLeft) || labels.all directionSound)

/-- A domain in ASCII. -/
def toAscii? (cs : List Char) : Option (List Char) := do
  let labels := splitOn '.' (← plain? cs)
  let shown ← labels.mapM shown?
  let ascii ← labels.mapM asciiLabel?
  if labels.any (·.any isBarred) || !sound shown then none else some (joinWith '.' ascii)

end TrustReplica.Url.Domain
