import TrustReplica.Decimal.Shortest
import TrustReplica.Json.Basic
import TrustReplica.Text.Hexadecimal

/-! JSON values as compact text. A float always has a point or an exponent, so that it reads back as one;
    text is written as it is, but for quotes, backslashes and control characters. -/

namespace TrustReplica

/-- Floats keep a point, and take an exponent below `1e-5` and from `1e16` on. -/
def floatLayout : Decimal.Layout := ⟨some (-5), some 16, true, "null", "null"⟩

/-- The text of a number. -/
def Number.render : Number → String
  | natural n => Nat.repr n.toNat
  | negative n _ => "-" ++ Nat.repr n.toInt.natAbs
  | float x _ => floatLayout.write x

namespace Json

/-- A character inside a quoted text. -/
def escape (c : Char) : List Char :=
  if c = '"' then ['\\', '"']
  else if c = '\\' then ['\\', '\\']
  else if c.toNat < 0x20 then
    ['\\', 'u', '0', '0', Text.hexDigit (c.toNat / 16), Text.hexDigit (c.toNat % 16)]
  else [c]

/-- A text in quotes. -/
def quote (s : String) : String := "\"" ++ String.ofList (s.toList.flatMap escape) ++ "\""

mutual

/-- The compact text of a value. -/
def render : Json → String
  | null => "null"
  | flag b => if b then "true" else "false"
  | number n => n.render
  | text s => quote s
  | array items => "[" ++ ",".intercalate (renderItems items) ++ "]"
  | object members => "\x7b" ++ ",".intercalate (renderMembers members) ++ "\x7d"

/-- The texts of the items of an array. -/
def renderItems : List Json → List String
  | [] => []
  | v :: rest => v.render :: renderItems rest

/-- The texts of the members of an object. -/
def renderMembers : List (String × Json) → List String
  | [] => []
  | (name, v) :: rest => (quote name ++ ":" ++ v.render) :: renderMembers rest

end

end Json

end TrustReplica
