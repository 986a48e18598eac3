import TrustReplica.Url.Authority
import TrustReplica.Url.Path

/-! URLs: their parts, how a text is read as one, also relative to another (`Url.join?`), and how one is
    written. A text is cut at its first hash sign, then at its first question mark; what remains is a
    scheme, an authority and a path. -/

namespace TrustReplica

/-- A URL, each part in its canonical text. -/
structure Url where
  scheme : List Char
  /-- User name and password as they stand before the at sign; empty if there are none. -/
  userInfo : List Char
  /-- The host, if the URL has an authority. -/
  host : Option (List Char)
  /-- The number behind the host, unless it is the one of the scheme. -/
  portNumber : Option Nat
  /-- A text that begins with a slash; without an authority it may be any text, and with one it may be
      empty. -/
  path : List Char
  query : Option (List Char)
  fragment : Option (List Char)
deriving DecidableEq, Repr

namespace Url

/-- Whether a path is a text of its own, on which no other path builds. -/
def isRootless (u : Url) : Bool := u.host.isNone && u.path.head? != some '/'

/-! ### Reading -/

/-- A text without control characters and blanks at its ends, and without tabs and line ends. -/
def cleaned (s : String) : List Char :=
  let outer (c : Char) : Bool := c.toNat ≤ 0x20
  let cs := ((s.toList.dropWhile outer).reverse.dropWhile outer).reverse
  cs.filter fun c => c != '\t' && c != '\n' && c != '\r'

/-- A text in its parts: what stands before the query, the query and the fragment. -/
structure Cut where
  front : List Char
  query : Option (List Char)
  fragment : Option (List Char)

/-- A text cut into its parts. -/
def Cut.ofText (s : String) : Cut :=
  let (rest, fragment) := Text.cutAt '#' (cleaned s)
  let (front, query) := Text.cutAt '?' rest
  ⟨front, query, fragment.map (percentEncode inFragment)⟩

/-- Whether anything follows what stands before the query. -/
def Cut.continues (t : Cut) : Bool := t.query.isSome || t.fragment.isSome

/-- The query as it stands in a URL of some scheme. -/
def Cut.queryFor (t : Cut) (scheme : List Char) : Option (List Char) :=
  t.query.map (percentEncode (if isCommon scheme then inSpecialQuery else inQuery))

/-- The path that follows an authority; a common scheme always has one. -/
def pathAfter (scheme cs : List Char) : List Char :=
  match cs with
  | [] => if isCommon scheme then ['/'] else []
  | c :: rest => extend scheme ['/'] (if isSlash (isCommon scheme) c then rest else cs)

/-- Reads an authority and the path behind it. -/
def withAuthority (scheme cs : List Char) (t : Cut) : Option Url := do
  let (authority, rest) ← cutAuthority scheme t.continues cs
  return ⟨scheme, authority.userInfo, some authority.host, authority.portNumber, pathAfter scheme rest,
    t.queryFor scheme, t.fragment⟩

/-- A URL with the parts of a text behind its path. -/
def withPath (u : Url) (path : List Char) (t : Cut) : Url :=
  { u with path := path, query := t.queryFor u.scheme, fragment := t.fragment }

/-- What an empty path names relative to a URL: the URL, with another query if there is one. -/
def withoutPath (u : Url) (t : Cut) : Url :=
  { u with query := t.queryFor u.scheme <|> u.query, fragment := t.fragment }

/-! ### Files -/

/-- The root of the files on a host. -/
def fileRoot (host : List Char) : Url := ⟨"file".toList, [], some host, none, ['/'], none, none⟩

/-- Reads the host of a file; the local one is not written. -/
def fileHost? (cs : List Char) : Option (List Char) :=
  if cs.isEmpty || isDrive cs then some []
  else (commonHost? cs).map fun host => if host = "localhost".toList then [] else host

/-- Reads a host and the path of a file on it; a drive letter is local whatever the host. -/
def fileWithHost (cs : List Char) (t : Cut) : Option Url := do
  let hostText := cs.takeWhile fun c => !isSlash true c
  let host ← fileHost? hostText
  let file := fileRoot host
  let rest := if isDrive hostText then cs else cs.drop hostText.length
  if host.isEmpty then return file.withPath (resolve file.scheme ['/'] rest) t
  else
    let path := pathAfter file.scheme rest
    let file := if isCanonicalDrive (firstSegment path) then fileRoot [] else file
    return file.withPath (withOneSlash path) t

/-- Reads a path that begins with one slash: it is on the drive of another file, or else on its host. -/
def fileOnHost (base : Option Url) (cs : List Char) (t : Cut) : Url :=
  match base.filter fun _ => !startsWithDrive (cs.drop 1) with
  | none => (fileRoot []).withPath (resolve "file".toList [] cs) t
  | some base =>
    let drive := firstSegment base.path
    if isCanonicalDrive drive then (fileRoot []).withPath (resolve base.scheme ('/' :: drive) cs) t
    else base.withPath (resolve base.scheme [] cs) t

/-- Reads what follows the scheme of files, relative to another file if there is one. -/
def file? (base : Option Url) (t : Cut) (cs : List Char) : Option Url :=
  match cs, base with
  | [], some base => some (base.withoutPath t)
  | cs, base =>
    match (cs.takeWhile (isSlash true)).length, base with
    | 0, some base =>
      if startsWithDrive cs then some ((fileRoot []).withPath (resolve base.scheme ['/'] cs) t)
      else some (base.withPath (resolve base.scheme (parent true base.path) cs) t)
    | 0, none => some ((fileRoot []).withPath (resolve "file".toList ['/'] cs) t)
    | 1, base => some (fileOnHost base cs t)
    | _, _ => fileWithHost (cs.drop 2) t

/-! ### Whole URLs -/

/-- Reads what has no scheme, relative to a URL that is no file. Two slashes begin an authority; more are
    passed over unless the first two are plain. -/
def relativeTo (base : Url) (t : Cut) (cs : List Char) : Option Url :=
  match cs with
  | [] => some (base.withoutPath t)
  | '/' :: '/' :: rest => withAuthority base.scheme rest t
  | c :: rest =>
    let slashes := (cs.takeWhile (isSlash true)).length
    if 2 ≤ slashes then withAuthority base.scheme (cs.drop slashes) t
    else if isSlash true c then some (base.withPath (resolve base.scheme ['/'] rest) t)
    else
      let front := parent false base.path
      some (base.withPath (resolve base.scheme (if front.isEmpty then ['/'] else front) cs) t)

/-- Reads what follows a scheme that is not a common one. -/
def other? (scheme : List Char) (t : Cut) (cs : List Char) : Option Url :=
  match cs with
  | '/' :: '/' :: rest => withAuthority scheme rest t
  | '/' :: rest =>
    some ⟨scheme, [], none, none, resolve scheme ['/'] rest, t.queryFor scheme, t.fragment⟩
  | cs =>
    some ⟨scheme, [], none, none, percentEncode (fun _ => false) cs, t.queryFor scheme, t.fragment⟩

/-- Reads what follows a scheme, which may be relative to a URL of the same common scheme. -/
def withScheme (base : Option Url) (scheme : List Char) (t : Cut) (cs : List Char) : Option Url :=
  let base := base.filter fun base => base.scheme == scheme
  let slashes := (cs.takeWhile (isSlash true)).length
  if isFile scheme then file? base t cs
  else if isCommon scheme then
    match base.filter fun _ => slashes < 2 with
    | some base => relativeTo base t cs
    | none => withAuthority scheme (cs.drop slashes) t
  else other? scheme t cs

/-- Reads a text as a URL. -/
def parse? (s : String) : Option Url := do
  let t := Cut.ofText s
  let (scheme, rest) ← cutScheme t.front
  withScheme none scheme t rest

/-- Reads a text relative to a URL; of one with a path of its own, only the fragment may be another. -/
def join? (base : Url) (s : String) : Option Url :=
  let t := Cut.ofText s
  match cutScheme t.front with
  | some (scheme, rest) => withScheme (some base) scheme t rest
  | none =>
    if base.isRootless then
      if t.front.isEmpty && t.query.isNone && t.fragment.isSome then some (base.withoutPath t) else none
    else if isFile base.scheme then file? (some base) t t.front
    else relativeTo base t t.front

/-! ### Writing -/

/-- A part behind its mark, if there is one. -/
def marked (mark : Char) : Option (List Char) → List Char
  | some cs => mark :: cs
  | none => []

/-- The authority of a URL behind its slashes; without one, a path does not look like one. -/
def authorityText (u : Url) : List Char :=
  match u.host with
  | some host =>
    let userInfo := if u.userInfo.isEmpty then [] else u.userInfo ++ ['@']
    '/' :: '/' :: userInfo ++ host ++ marked ':' (u.portNumber.map fun n => (Nat.repr n).toList)
  | none => if u.path.take 2 == ['/', '/'] then ['/', '.'] else []

/-- A URL as text. -/
def toText (u : Url) : String :=
  String.ofList (u.scheme ++ ':' :: u.authorityText ++ u.path ++ marked '?' u.query ++
    marked '#' u.fragment)

/-- What a server is asked for: path and query. -/
def target (u : Url) : String := String.ofList (u.path ++ marked '?' u.query)

end Url

end TrustReplica
