import TrustReplica.Text.Split

/-! Schemes of URLs. The common ones take a backslash for a slash; all of them but files listen on a number
    of their own. -/

namespace TrustReplica.Url

/-- The number that a common scheme listens on, if it has one. -/
def defaultPort (scheme : List Char) : Option Nat :=
  match String.ofList scheme with
  | "http" => some 80
  | "ws" => some 80
  | "https" => some 443
  | "wss" => some 443
  | "ftp" => some 21
  | _ => none

/-- Whether a scheme is that of files. -/
def isFile (scheme : List Char) : Bool := scheme == "file".toList

/-- Whether a scheme is one of the common ones. -/
def isCommon (scheme : List Char) : Bool := (defaultPort scheme).isSome || isFile scheme

/-- Whether a character is a slash, or a backslash where that is taken for one. -/
def isSlash (common : Bool) (c : Char) : Bool := c == '/' || (common && c == '\\')

/-- Whether a character may stand in a scheme behind its first letter. -/
def isSchemeChar (c : Char) : Bool := c.isAlphanum || c == '+' || c == '-' || c == '.'

/-- The scheme at the front of a text in lower case, and what is behind its colon. -/
def cutScheme (cs : List Char) : Option (List Char × List Char) :=
  match cs, Text.cutAt ':' cs with
  | c :: _, (name, some rest) =>
    if c.isAlpha && name.all isSchemeChar then some (name.map Char.toLower, rest) else none
  | _, _ => none

end TrustReplica.Url
