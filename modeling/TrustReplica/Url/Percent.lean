import TrustReplica.Text.Hexadecimal

/-! Percent encoding. A byte is written as a percent sign and two upper-case digits. Which characters
    have to be written so depends on the place in a URL; characters outside printable ASCII always are.
    Decoding leaves a percent sign alone that no two digits follow. -/

namespace TrustReplica.Url

/-- A byte in percent encoding. -/
def percentByte (b : UInt8) : List Char :=
  ['%', Text.upperHexDigit (b.toNat / 16), Text.upperHexDigit (b.toNat % 16)]

/-- A character, or its bytes in percent encoding if it is not printable ASCII or belongs to a set. -/
def encodeChar (reserved : Char → Bool) (c : Char) : List Char :=
  if c.toNat < 0x20 || 0x7F ≤ c.toNat || reserved c then (String.utf8EncodeChar c).flatMap percentByte
  else [c]

/-- A text with the characters of a set in percent encoding. -/
def percentEncode (reserved : Char → Bool) (cs : List Char) : List Char :=
  cs.flatMap (encodeChar reserved)

/-- Bytes with every percent encoding resolved. -/
def percentDecode : List UInt8 → List UInt8
  | a :: b :: c :: rest =>
    if a = 0x25 then
      match Text.hexValue? (Char.ofNat b.toNat), Text.hexValue? (Char.ofNat c.toNat) with
      | some high, some low => UInt8.ofNat (high * 16 + low) :: percentDecode rest
      | _, _ => a :: percentDecode (b :: c :: rest)
    else a :: percentDecode (b :: c :: rest)
  | bytes => bytes

/-- A text with every percent encoding resolved, if the result is valid UTF-8. -/
def decodeText? (s : String) : Option String := Text.ofBytes? (percentDecode (Text.toBytes s))

/-! ### What is encoded where -/

/-- The characters encoded in a query. -/
def inQuery (c : Char) : Bool := c == ' ' || c == '"' || c == '#' || c == '<' || c == '>'

/-- The characters encoded in a query of the common schemes. -/
def inSpecialQuery (c : Char) : Bool := inQuery c || c == '\''

/-- The characters encoded in a fragment. -/
def inFragment (c : Char) : Bool := c == ' ' || c == '"' || c == '<' || c == '>' || c == '\x60'

/-- The characters encoded in a path. -/
def inPath (c : Char) : Bool := inFragment c || c == '#' || c == '?' || c == '\x7b' || c == '\x7d'

/-- The characters encoded in a user name or a password. -/
def inUserInfo (c : Char) : Bool :=
  inPath c || c == '/' || c == ':' || c == ';' || c == '=' || c == '@' || c == '[' || c == '\\' ||
    c == ']' || c == '^' || c == '|'

end TrustReplica.Url
