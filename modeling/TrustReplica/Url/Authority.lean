import TrustReplica.Url.Host
import TrustReplica.Url.Scheme

/-! The authority of a URL: user name and password, host, and the number that the host listens on. It ends
    before a slash; where a backslash is no slash, one still ends the number. -/

namespace TrustReplica.Url

/-- The parts of an authority, each in its canonical text. -/
structure Authority where
  /-- User name and password as they stand before the at sign; empty if there are none. -/
  userInfo : List Char
  host : List Char
  /-- The number behind the host, unless it is the one of the scheme. -/
  portNumber : Option Nat
deriving DecidableEq, Repr

/-- The text before the last at sign, and what is behind it. -/
def cutUserInfo (cs : List Char) : Option (List Char) × List Char :=
  match (Text.splitOn '@' cs).reverse with
  | last :: first :: more => (some (Text.joinWith '@' (first :: more).reverse), last)
  | _ => (none, cs)

/-- User name and password, encoded; nothing is written for an empty password. -/
def writeUserInfo (cs : List Char) : List Char :=
  match Text.cutAt ':' cs with
  | (name, none) => percentEncode inUserInfo name
  | (name, some []) => percentEncode inUserInfo name
  | (name, some password) => percentEncode inUserInfo name ++ ':' :: percentEncode inUserInfo password

/-- The host, and the number behind a colon; a colon in brackets belongs to the host. -/
def cutPort (inside : Bool) : List Char → List Char × Option (List Char)
  | [] => ([], none)
  | c :: rest =>
    if c = ':' ∧ !inside then ([], some rest)
    else
      let (host, portNumber) := cutPort (if c = '[' then true else if c = ']' then false else inside) rest
      (c :: host, portNumber)

/-- Reads the number behind a host; an empty one is none, and so is the one of the scheme. -/
def portNumber? (scheme : List Char) (cs : List Char) : Option (Option Nat) :=
  if cs.isEmpty then some none
  else do
    let n ← (Decimal.digitsValue? cs).filter (· < 65536)
    return if some n = defaultPort scheme then none else some n

/-- Reads a host; only a scheme that is not a common one may have an empty one. -/
def host? (scheme : List Char) (cs : List Char) : Option (List Char) :=
  if isCommon scheme then commonHost? cs else otherHost? cs

/-- Reads the authority at the front of a text, and gives what follows it; `more` says whether there is a
    query or a fragment behind the text. An empty host has neither user name nor number, and after an at
    sign it is the end of a URL. -/
def cutAuthority (scheme : List Char) (more : Bool) (cs : List Char) : Option (Authority × List Char) := do
  let common := isCommon scheme
  let (userText, hostPort) := cutUserInfo (cs.takeWhile fun c => !isSlash common c)
  let rest := cs.dropWhile fun c => !isSlash common c
  let (hostText, portText) := cutPort false hostPort
  let digits := (portText.getD []).takeWhile (· != '\\')
  let userInfo := writeUserInfo (userText.getD [])
  let host ← host? scheme hostText
  let portNumber ← portNumber? scheme digits
  if host.isEmpty && (portText.isSome || !userInfo.isEmpty) then none
  else if userText == some [] && hostPort.isEmpty && (more || !rest.isEmpty) then none
  else some (⟨userInfo, host, portNumber⟩, (portText.getD []).dropWhile (· != '\\') ++ rest)

end TrustReplica.Url
