import TrustReplica.Decimal.Whole
import TrustReplica.Json.Basic
import TrustReplica.Text.Hexadecimal

/-! JSON text taken apart. `scan` turns any text into a `Document`: the tree of what is written, with
    the faults of the text standing where they were met. A reader walks the document from the left and
    reports the first fault on its way, so one that gives up early, or skips a member, never sees what
    comes later. Nothing after a fault that cannot even be skipped is part of the document. -/

namespace TrustReplica

namespace Json

/-- Why a JSON text or value was not accepted. -/
inductive Fault where
  /-- The text ended too early. -/
  | ended
  /-- The text is not JSON. -/
  | illFormed
  /-- The text is JSON of another shape. -/
  | mismatch
deriving DecidableEq, Repr

/-- The name of a member: as text, as the whole number it may write, and whether it can be skipped. -/
structure Key where
  name : Except Fault String
  number : Except Fault UInt64
  skipped : Option Fault

/-- What a text writes. The `ending` of a list is the fault that stands in place of its closing bracket;
    `surplus` is the fault of an array with more items than its reader has members for. -/
inductive Document where
  | null
  | flag (b : Bool)
  | number (n : Number)
  | text (s : String)
  | array (items : List Document) (ending : Option Fault) (surplus : Fault)
  | object (members : List (Key × Document)) (ending : Option Fault)
  /-- A value that cannot be read, and perhaps not skipped either. -/
  | unread (fault : Fault) (skipped : Option Fault)

/-! ### Numbers -/

/-- A number as written: sign, digits before and after the point, and the exponent. -/
structure Literal where
  negative : Bool
  whole : List Char
  fraction : Option (List Char)
  exponent : Option (Bool × List Char)

/-- The number a literal stands for; nothing if it is too large for a float. -/
def Literal.number? (l : Literal) : Option Number :=
  let whole := Decimal.accumulate 0 l.whole
  match l.fraction, l.exponent with
  | none, none =>
    if whole.2.isEmpty then
      if l.negative then
        if h : Int64.ofInt (-(whole.1 : Int)) < 0 ∧ whole.1 ≤ Nat.pow 2 63 then some (.negative _ h.1)
        else ofFloat? ((UInt64.ofNat whole.1).toFloat)
      else some (.natural (UInt64.ofNat whole.1))
    else scaled whole.1 whole.2.length
  | fraction, exponent =>
    let used := match fraction with
      | none => (whole.1, (whole.2.length : Int))
      | some digits =>
        let part := Decimal.accumulate whole.1 digits
        (part.1, (whole.2.length : Int) - ((digits.length - part.2.length : Nat) : Int))
    match exponent with
    | none => scaled used.1 used.2
    | some (isNegative, digits) =>
      let e := Int.ofNat (digits.foldl Decimal.shiftIn 0)
      scaled used.1 (if isNegative then used.2 - e else used.2 + e)
where
  /-- A float with the sign of the literal. -/
  ofFloat? (x : Float) : Option Number :=
    let y := if l.negative then -x else x
    if h : y.isFinite = true then some (.float y h) else none
  /-- The float of `n * 10 ^ e` with the sign of the literal. -/
  scaled (n : Nat) (e : Int) : Option Number := (Decimal.scale? n e).bind ofFloat?

/-- The faults of a text that stops in the middle of a number: one for a reader, one for skipping. -/
def cutNumber : List Char → Fault × Fault
  | [] => (.ended, .illFormed)
  | _ => (.illFormed, .illFormed)

/-- The digits at the front of a text, and the rest. -/
def spanDigits (cs : List Char) : List Char × List Char :=
  (cs.takeWhile Char.isDigit, cs.dropWhile Char.isDigit)

/-- Takes the digits before the point: one zero, or digits that start with none. -/
def scanWhole (cs : List Char) : Except (Fault × Fault) (List Char × List Char) :=
  match cs, spanDigits cs with
  | [], _ => .error (cutNumber [])
  | '0' :: rest, (_ :: _ :: _, _) => .error (cutNumber ('0' :: rest))
  | rest, ([], _) => .error (cutNumber rest)
  | _, digits => .ok digits

/-- Takes a point and digits, if there is a point. -/
def scanFraction : List Char → Except (Fault × Fault) (Option (List Char) × List Char)
  | '.' :: rest =>
    match spanDigits rest with
    | ([], after) => .error (cutNumber after)
    | (digits, after) => .ok (some digits, after)
  | cs => .ok (none, cs)

/-- Takes the sign and the digits of an exponent. -/
def scanExponentDigits (isNegative : Bool) (cs : List Char) :
    Except (Fault × Fault) (Option (Bool × List Char) × List Char) :=
  match spanDigits cs with
  | ([], after) => .error (cutNumber after)
  | (digits, after) => .ok (some (isNegative, digits), after)

/-- Takes an exponent, if there is one. -/
def scanExponent : List Char → Except (Fault × Fault) (Option (Bool × List Char) × List Char)
  | c :: rest =>
    if c = 'e' ∨ c = 'E' then
      match rest with
      | '+' :: digits => scanExponentDigits false digits
      | '-' :: digits => scanExponentDigits true digits
      | digits => scanExponentDigits false digits
    else .ok (none, c :: rest)
  | [] => .ok (none, [])

/-- Takes a number after its sign. -/
def scanLiteral (negative : Bool) (cs : List Char) : Except (Fault × Fault) (Literal × List Char) := do
  let (whole, cs) ← scanWhole cs
  let (fraction, cs) ← scanFraction cs
  let (exponent, cs) ← scanExponent cs
  return (⟨negative, whole, fraction, exponent⟩, cs)

/-- Takes a number with its sign. -/
def scanSigned : List Char → Except (Fault × Fault) (Literal × List Char)
  | '-' :: rest => scanLiteral true rest
  | cs => scanLiteral false cs

/-- The whole number that a member's name writes, when the rest of the text must be `closed`. -/
def keyNumber (closed : List Char → Bool) (cs : List Char) : Except Fault UInt64 :=
  match cs with
  | [] => .error .illFormed
  | c :: _ =>
    if c.isDigit ∨ c = '-' then
      match scanSigned cs with
      | .error faults => .error faults.1
      | .ok (literal, rest) =>
        match literal.number? with
        | none => .error .illFormed
        | some n =>
          match n.natural? with
          | none => .error .mismatch
          | some v => if closed rest then .ok v else .error .illFormed
    else .error .illFormed

/-! ### Strings -/

/-- The code unit that four hexadecimal digits write. -/
def codeUnit? (a b c d : Char) : Option Nat := do
  let a ← Text.hexValue? a
  let b ← Text.hexValue? b
  let c ← Text.hexValue? c
  let d ← Text.hexValue? d
  return ((a * 16 + b) * 16 + c) * 16 + d

/-- The fault of a code unit with fewer than four characters left: it ended if fewer than four bytes are. -/
def shortUnit (cs : List Char) : Fault :=
  if (String.ofList cs).utf8ByteSize < 4 then .ended else .illFormed

/-- The character that an escape stands for. -/
def unescape? : Char → Option Char
  | '"' => some '"'
  | '\\' => some '\\'
  | '/' => some '/'
  | 'b' => some '\x08'
  | 'f' => some '\x0c'
  | 'n' => some '\n'
  | 'r' => some '\r'
  | 't' => some '\t'
  | _ => none

/-- The fault of a high surrogate that no low one follows. -/
def loneHigh : List Char → Fault
  | [] => .ended
  | ['\\'] => .ended
  | '\\' :: 'u' :: a :: b :: c :: d :: _ => if (codeUnit? a b c d).isSome then .illFormed else .illFormed
  | '\\' :: 'u' :: rest => shortUnit rest
  | _ => .illFormed

/-- A string after its opening quote: what it holds and the text behind it, or the faults that cut it,
    one for a reader, one for skipping. -/
inductive ScannedString where
  | closed (content : Except Fault String) (rest : List Char)
  | cut (fault : Fault) (skipped : Fault)

/-- Takes a string after its opening quote. A surrogate alone is a fault for a reader only, kept in
    `pending`; the first fault stays. -/
def scanString (pending : Option Fault) (acc : List Char) : List Char → ScannedString
  | [] => .cut (pending.getD .ended) .ended
  | '"' :: rest =>
    match pending with
    | none => .closed (.ok (String.ofList acc.reverse)) rest
    | some f => .closed (.error f) rest
  | '\\' :: 'u' :: a :: b :: c :: d :: rest =>
    match codeUnit? a b c d with
    | none => .cut (pending.getD .illFormed) .illFormed
    | some unit =>
      if 0xDC00 ≤ unit ∧ unit ≤ 0xDFFF then
        scanString (pending <|> some .illFormed) acc rest
      else if 0xD800 ≤ unit ∧ unit ≤ 0xDBFF then
        match rest with
        | '\\' :: 'u' :: e :: f :: g :: h :: rest' =>
          match codeUnit? e f g h with
          | some low =>
            if 0xDC00 ≤ low ∧ low ≤ 0xDFFF then
              let code := 0x10000 + (unit - 0xD800) * 0x400 + (low - 0xDC00)
              scanString pending (Char.ofNat code :: acc) rest'
            else scanString (pending <|> some .illFormed) acc ('\\' :: 'u' :: e :: f :: g :: h :: rest')
          | none => .cut (pending.getD .illFormed) .illFormed
        | rest => scanString (pending <|> some (loneHigh rest)) acc rest
      else scanString pending (Char.ofNat unit :: acc) rest
  | '\\' :: 'u' :: rest => .cut (pending.getD (shortUnit rest)) (shortUnit rest)
  | ['\\'] => .cut (pending.getD .ended) .ended
  | '\\' :: c :: rest =>
    match unescape? c with
    | some e => scanString pending (e :: acc) rest
    | none => .cut (pending.getD .illFormed) .illFormed
  | c :: rest =>
    if c.toNat < 0x20 then .cut (pending.getD .illFormed) .illFormed
    else scanString pending (c :: acc) rest
termination_by cs => cs.length

/-- Takes a member's name after its opening quote; nothing follows a name that cannot be skipped. -/
def scanKey (cs : List Char) : Key × Option (List Char) :=
  let number := keyNumber (fun rest => rest.head? == some '"') cs
  match scanString none [] cs with
  | .closed content rest => (⟨content, number, none⟩, some rest)
  | .cut fault skipped => (⟨.error fault, number, some skipped⟩, none)

/-! ### Values -/

/-- White space between the parts of a JSON text. -/
def isSpace (c : Char) : Bool := c == ' ' || c == '\t' || c == '\n' || c == '\r'

/-- A text without the white space at its front. -/
def skipSpace (cs : List Char) : List Char := cs.dropWhile isSpace

/-- A value that is neither read nor skipped. -/
def broken (f : Fault) : Document × Option (List Char) := (.unread f (some f), none)

/-- Takes the rest of a word such as `null`. -/
def scanWord (value : Document) : List Char → List Char → Document × Option (List Char)
  | [], cs => (value, some cs)
  | _ :: _, [] => broken .ended
  | w :: word, c :: cs => if c = w then scanWord value word cs else broken .illFormed

/-- Takes a number with its sign. -/
def scanNumber (cs : List Char) : Document × Option (List Char) :=
  match scanSigned cs with
  | .error (fault, skipped) => (.unread fault (some skipped), none)
  | .ok (literal, rest) =>
    match literal.number? with
    | some n => (.number n, some rest)
    | none => (.unread .illFormed none, some rest)

/-- The fault of a text where a closing bracket or a comma should stand. -/
def unclosed : List Char → Option Fault
  | [] => some .ended
  | _ => some .illFormed

mutual

/-- The fault met when a value is skipped. -/
def Document.skipFault : Document → Option Fault
  | .array items ending _ => skipItemsFault items <|> ending
  | .object members ending => skipMembersFault members <|> ending
  | .unread _ skipped => skipped
  | _ => none

/-- The fault met when the items of an array are skipped. -/
def skipItemsFault : List Document → Option Fault
  | [] => none
  | item :: rest => item.skipFault <|> skipItemsFault rest

/-- The fault met when the members of an object are skipped. -/
def skipMembersFault : List (Key × Document) → Option Fault
  | [] => none
  | (key, value) :: rest => key.skipped <|> value.skipFault <|> skipMembersFault rest

end

/-- A value in brackets: not readable when no room is left for its bracket. -/
def inRoom (room : Nat) (value : Document) (rest : Option (List Char)) :
    Document × Option (List Char) :=
  if room = 0 then (.unread .illFormed value.skipFault, rest) else (value, rest)

mutual

/-- Takes one value; `room` is the number of brackets that may still be opened around values. -/
def scanValue (fuel room : Nat) (cs : List Char) : Document × Option (List Char) :=
  match fuel with
  | 0 => broken .ended
  | fuel + 1 =>
    match skipSpace cs with
    | [] => broken .ended
    | 'n' :: rest => scanWord .null ['u', 'l', 'l'] rest
    | 't' :: rest => scanWord (.flag true) ['r', 'u', 'e'] rest
    | 'f' :: rest => scanWord (.flag false) ['a', 'l', 's', 'e'] rest
    | '"' :: rest =>
      match scanString none [] rest with
      | .closed (.ok s) rest => (.text s, some rest)
      | .closed (.error f) rest => (.unread f none, some rest)
      | .cut fault skipped => (.unread fault (some skipped), none)
    | '[' :: rest =>
      match skipSpace rest with
      | [] => inRoom room (.array [] (some .ended) .illFormed) none
      | ']' :: rest => inRoom room (.array [] none .illFormed) (some rest)
      | rest =>
        let (items, ending, rest) := scanItems fuel (room - 1) rest
        inRoom room (.array items ending .illFormed) rest
    | '{' :: rest =>
      match skipSpace rest with
      | [] => inRoom room (.object [] (some .ended)) none
      | '}' :: rest => inRoom room (.object [] none) (some rest)
      | rest =>
        let (members, ending, rest) := scanMembers fuel (room - 1) rest
        inRoom room (.object members ending) rest
    | c :: rest => if c.isDigit ∨ c = '-' then scanNumber (c :: rest) else broken .illFormed

/-- Takes items up to the closing bracket of an array. -/
def scanItems (fuel room : Nat) (cs : List Char) :
    List Document × Option Fault × Option (List Char) :=
  match fuel with
  | 0 => ([], some .ended, none)
  | fuel + 1 =>
    match scanValue fuel room cs with
    | (item, none) => ([item], some .ended, none)
    | (item, some rest) =>
      match skipSpace rest with
      | ']' :: rest => ([item], none, some rest)
      | ',' :: rest =>
        let (items, ending, rest) := scanItems fuel room rest
        (item :: items, ending, rest)
      | rest => ([item], unclosed rest, none)

/-- Takes members up to the closing brace of an object. -/
def scanMembers (fuel room : Nat) (cs : List Char) :
    List (Key × Document) × Option Fault × Option (List Char) :=
  match fuel with
  | 0 => ([], some .ended, none)
  | fuel + 1 =>
    match skipSpace cs with
    | '"' :: rest =>
      match scanKey rest with
      | (key, none) => ([(key, .unread .ended (some .ended))], some .ended, none)
      | (key, some rest) =>
        match skipSpace rest with
        | ':' :: rest =>
          match scanValue fuel room rest with
          | (value, none) => ([(key, value)], some .ended, none)
          | (value, some rest) =>
            match skipSpace rest with
            | '}' :: rest => ([(key, value)], none, some rest)
            | ',' :: rest =>
              let (members, ending, rest) := scanMembers fuel room rest
              ((key, value) :: members, ending, rest)
            | rest => ([(key, value)], unclosed rest, none)
        | [] => ([(key, .unread .ended (some .ended))], some .ended, none)
        | _ => ([(key, .unread .illFormed (some .illFormed))], some .illFormed, none)
    | rest => ([], unclosed rest, none)

end

/-! ### Whole texts and values -/

/-- The most brackets that may be open at once in a text that is read. -/
def maxDepth : Nat := 127

/-- A text taken apart: its value, and the fault of what stands behind it. -/
def scanWithin (depth : Nat) (s : String) : Document × Option Fault :=
  match scanValue (2 * s.toList.length + 3) depth s.toList with
  | (value, none) => (value, some .ended)
  | (value, some rest) => (value, if (skipSpace rest).isEmpty then none else some .illFormed)

mutual

/-- The document of a value: nothing in it is broken, and no number is a name. -/
def toDocument : Json → Document
  | .null => .null
  | .flag b => .flag b
  | .number n => .number n
  | .text s => .text s
  | .array items => .array (documentItems items) none .mismatch
  | .object members => .object (documentMembers members) none

/-- The documents of the items of an array. -/
def documentItems : List Json → List Document
  | [] => []
  | v :: rest => v.toDocument :: documentItems rest

/-- The documents of the members of an object. -/
def documentMembers : List (String × Json) → List (Key × Document)
  | [] => []
  | (name, v) :: rest =>
    (⟨.ok name, keyNumber List.isEmpty name.toList, none⟩, v.toDocument) :: documentMembers rest

end

mutual

/-- Reads a document as a value, the last of the members with one name. -/
def Document.read : Document → Except Fault Json
  | .null => .ok .null
  | .flag b => .ok (.flag b)
  | .number n => .ok (.number n)
  | .text s => .ok (.text s)
  | .array items ending _ => do
    let values ← readItems items
    match ending with
    | none => .ok (.array values)
    | some f => .error f
  | .object members ending => do
    let values ← readMembers members
    match ending with
    | none => .ok (ofMembers values)
    | some f => .error f
  | .unread f _ => .error f

/-- Reads the items of an array from the left. -/
def readItems : List Document → Except Fault (List Json)
  | [] => .ok []
  | item :: rest => do
    let v ← item.read
    let vs ← readItems rest
    return v :: vs

/-- Reads the members of an object from the left. -/
def readMembers : List (Key × Document) → Except Fault (List (String × Json))
  | [] => .ok []
  | (key, value) :: rest => do
    let name ← key.name
    let v ← value.read
    let vs ← readMembers rest
    return (name, v) :: vs

end

/-- Reads a whole text as a value. -/
def readWithin (depth : Nat) (s : String) : Except Fault Json := do
  let (value, trailing) := scanWithin depth s
  let v ← value.read
  match trailing with
  | none => return v
  | some f => throw f

/-- Reads a whole text of ordinary depth as a value. -/
def parse (s : String) : Except Fault Json := readWithin maxDepth s

end Json

end TrustReplica
