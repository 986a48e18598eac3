import TrustReplica.Text.Unseen

/-! A text in quotes for a message. Quotes, backslashes, line ends, tabs and the null character are
    written with a backslash; every other character that does not show on its own is written by its code
    point. -/

namespace TrustReplica.Text

/-- A code point in braces, in lower-case hexadecimal. -/
def codePoint (c : Char) : List Char := ['\\', 'u', '\x7b'] ++ Nat.toDigits 16 c.toNat ++ ['\x7d']

/-- A character inside quotes. -/
def quoteChar (c : Char) : List Char :=
  if c = '"' then ['\\', '"']
  else if c = '\\' then ['\\', '\\']
  else if c = '\n' then ['\\', 'n']
  else if c = '\r' then ['\\', 'r']
  else if c = '\t' then ['\\', 't']
  else if c.toNat = 0 then ['\\', '0']
  else if isUnseen c then codePoint c
  else [c]

/-- A text in quotes. -/
def quoted (s : String) : String := "\"" ++ String.ofList (s.toList.flatMap quoteChar) ++ "\""

end TrustReplica.Text
