import TrustReplica.Decimal.Whole
import TrustReplica.Text.Split
import TrustReplica.Url.Domain.Basic
import TrustReplica.Url.Percent

/-! Hosts of URLs in their canonical text. A host of the common schemes is a domain in ASCII, an address of
    four bytes in any of its numeric forms, or an address of eight words in brackets; any other scheme takes an
    address in brackets or a text of its own. -/

namespace TrustReplica.Url

/-! ### Addresses of four bytes -/

/-- The number that digits of a base write. -/
def inBase? (base : Nat) (cs : List Char) : Option Nat :=
  cs.foldlM
    (fun n c => do
      let d ← Text.hexValue? c
      if d < base then some (n * base + d) else none)
    0

/-- A number in decimal, after a zero in octal, or after `0x` in hexadecimal. -/
def byteNumber? : List Char → Option Nat
  | [] => none
  | '0' :: 'x' :: rest => inBase? 16 rest
  | '0' :: 'X' :: rest => inBase? 16 rest
  | '0' :: c :: rest => inBase? 8 (c :: rest)
  | cs => inBase? 10 cs

/-- The parts of a domain between dots, without an empty one at the end. -/
def domainParts (cs : List Char) : List (List Char) :=
  let parts := Text.splitOn '.' cs
  if parts.getLast? == some [] then parts.dropLast else parts

/-- Whether a domain has to be an address of four bytes: its last part is a number. -/
def endsInNumber (cs : List Char) : Bool :=
  match (domainParts cs).getLast? with
  | some part => (!part.isEmpty && part.all Char.isDigit) || (byteNumber? part).isSome
  | none => false

/-- The bytes of an address as text. -/
def writeBytes (n : Nat) : List Char :=
  let byte (k : Nat) := (Nat.repr (n / Nat.pow 256 k % 256)).toList
  byte 3 ++ '.' :: byte 2 ++ '.' :: byte 1 ++ '.' :: byte 0

/-- Reads an address of four bytes, of which the last number may stand for several. -/
def readBytes? (cs : List Char) : Option (List Char) := do
  let numbers ← (domainParts cs).mapM byteNumber?
  let last ← numbers.getLast?
  let front := numbers.dropLast
  if front.length ≤ 3 ∧ front.all (· < 256) ∧ last < Nat.pow 256 (4 - front.length) then
    let high := front.foldl (fun n b => n * 256 + b) 0
    some (writeBytes (high * Nat.pow 256 (4 - front.length) + last))
  else none

/-! ### Addresses of eight words -/

/-- One word: one to four hexadecimal digits. -/
def word? (cs : List Char) : Option Nat :=
  if cs.isEmpty || 4 < cs.length then none else inBase? 16 cs

/-- One of four bytes at the end of an address: decimal without zeros in front. -/
def plainByte? (cs : List Char) : Option Nat := do
  let n ← Decimal.digitsValue? cs
  if (cs.length = 1 ∨ cs.head? ≠ some '0') ∧ n < 256 then some n else none

/-- Four bytes at the end of an address, as two words. -/
def byteWords? (cs : List Char) : Option (List Nat) := do
  match (← (Text.splitOn '.' cs).mapM plainByte?) with
  | [a, b, c, d] => some [a * 256 + b, c * 256 + d]
  | _ => none

/-- Words between colons; the last may be four bytes where the address ends. -/
def words? (atEnd : Bool) : List (List Char) → Option (List Nat)
  | [] => some []
  | [part] => if atEnd && part.contains '.' then byteWords? part else (word? part).map fun w => [w]
  | part :: rest => do
    let w ← word? part
    let ws ← words? atEnd rest
    return w :: ws

/-- The words of a text between colons; an empty text has none. -/
def wordsOf? (atEnd : Bool) (cs : List Char) : Option (List Nat) :=
  if cs.isEmpty then some [] else words? atEnd (Text.splitOn ':' cs)

/-- The texts on both sides of the first double colon. -/
def cutGap : List Char → Option (List Char × List Char)
  | ':' :: ':' :: rest => some ([], rest)
  | c :: rest => (cutGap rest).map fun sides => (c :: sides.1, sides.2)
  | [] => none

/-- The eight words of an address; a double colon stands for one or more zeros. -/
def eightWords? (cs : List Char) : Option (List Nat) := do
  match cutGap cs with
  | none =>
    let ws ← wordsOf? true cs
    if ws.length = 8 then some ws else none
  | some (left, right) =>
    let before ← wordsOf? false left
    let after ← wordsOf? true right
    let given := before.length + after.length
    if given ≤ 7 then some (before ++ List.replicate (8 - given) 0 ++ after) else none

/-- The number of zeros from a position on. -/
def zerosFrom (ws : List Nat) (i : Nat) : Nat := ((ws.drop i).takeWhile (· == 0)).length

/-- Words in hexadecimal with colons between them. -/
def writeWords (ws : List Nat) : List Char := Text.joinWith ':' (ws.map (Nat.toDigits 16))

/-- An address of eight words as text; the first longest run of zeros is left out. -/
def writeAddress (ws : List Nat) : List Char :=
  let best := (List.range 8).foldl (fun b i => if zerosFrom ws b < zerosFrom ws i then i else b) 0
  let run := zerosFrom ws best
  if run < 2 then writeWords ws
  else writeWords (ws.take best) ++ ':' :: ':' :: writeWords (ws.drop (best + run))

/-! ### Hosts -/

/-- The inside of brackets, if the text is one pair of them. -/
def inBrackets? (cs : List Char) : Option (List Char) :=
  match cs, cs.getLast? with
  | '[' :: rest, some ']' => some rest.dropLast
  | _, _ => none

/-- The canonical text of a host in brackets. -/
def bracketedHost? (cs : List Char) : Option (List Char) := do
  let inside ← inBrackets? cs
  let ws ← eightWords? inside
  return '[' :: writeAddress ws ++ [']']

/-- The canonical text of a host of the common schemes. -/
def commonHost? (cs : List Char) : Option (List Char) :=
  if cs.head? = some '[' then bracketedHost? cs
  else do
    let decoded ← decodeText? (String.ofList cs)
    let domain ← Domain.toAscii? decoded.toList
    if domain.isEmpty then none
    else if endsInNumber domain then readBytes? domain
    else some domain

/-- The characters that no host contains, whatever the scheme. -/
def barredFromHost (c : Char) : Bool := c.toNat == 0 || " #/:<>?@[\\]^|".toList.contains c

/-- The canonical text of a host of any other scheme. -/
def otherHost? (cs : List Char) : Option (List Char) :=
  if cs.head? = some '[' then bracketedHost? cs
  else if cs.any barredFromHost then none
  else some (percentEncode (fun _ => false) cs)

end TrustReplica.Url
