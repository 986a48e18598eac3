import TrustReplica.Url.Percent
import TrustReplica.Url.Scheme

/-! Paths of URLs, each a text that begins with a slash. `extend` puts segments behind a path one after the
    other: one dot is passed over, and two take the last segment away. A drive letter such as `C:` stays in
    its place, and begins the paths of files that have one. -/

namespace TrustReplica.Url

/-! ### Drive letters -/

/-- Whether a text is a drive letter, or begins with one as its first segment. -/
def startsWithDrive (cs : List Char) : Bool :=
  match cs with
  | a :: b :: rest => a.isAlpha && (b == ':' || b == '|') && rest.head?.all (isSlash true)
  | _ => false

/-- Whether a text is a drive letter. -/
def isDrive (cs : List Char) : Bool := cs.length == 2 && startsWithDrive cs

/-- Whether a text is a drive letter in its canonical form. -/
def isCanonicalDrive (cs : List Char) : Bool := isDrive cs && cs.getLast? == some ':'

/-- The first segment of a path. -/
def firstSegment (path : List Char) : List Char := (path.drop 1).takeWhile (· != '/')

/-! ### The end of a path -/

/-- A path up to its last slash, and the last segment. -/
def cutLast (path : List Char) : List Char × List Char :=
  let last := (path.reverse.takeWhile (· != '/')).reverse
  (path.take (path.length - last.length), last)

/-- A path without its last segment; the one of a file keeps a drive letter. -/
def parent (file : Bool) (path : List Char) : List Char :=
  let (front, last) := cutLast path
  if file && isCanonicalDrive last then path else front

/-- A path that ends in a slash. -/
def closedPath (path : List Char) : List Char :=
  if path.getLast? == some '/' then path else path ++ ['/']

/-- A path without a slash at its end; the one of the root stays, and one behind a drive letter. -/
def openPath (path : List Char) : List Char :=
  let (front, last) := cutLast path.dropLast
  if path.getLast? == some '/' && !front.isEmpty && !startsWithDrive (last ++ ['/']) then path.dropLast
  else path

/-! ### Segments -/

/-- A segment with the encoded dots resolved. -/
def plainDots : List Char → List Char
  | '%' :: '2' :: 'e' :: rest => '.' :: plainDots rest
  | '%' :: '2' :: 'E' :: rest => '.' :: plainDots rest
  | c :: rest => c :: plainDots rest
  | [] => []

/-- Puts a segment behind a path, and a slash if more segments follow. -/
def addSegment (file more : Bool) (path segment : List Char) : List Char :=
  let path := if file && !segment.isEmpty && isCanonicalDrive (path.drop 1) then closedPath path else path
  let encoded := percentEncode inPath segment
  let dots := plainDots encoded
  if dots = ['.', '.'] then
    let up := parent file (openPath path)
    if more then closedPath up else up
  else if dots = ['.'] then closedPath path
  else
    let canonical := if file && path == ['/'] && isDrive encoded then encoded.take 1 ++ [':'] else encoded
    path ++ canonical ++ if more then ['/'] else []

/-- Puts segments behind a path. -/
def addSegments (file : Bool) (path : List Char) : List (List Char) → List Char
  | [] => path
  | [segment] => addSegment file false path segment
  | segment :: rest => addSegments file (addSegment file true path segment) rest

/-- Puts the segments of a text behind a path. -/
def extend (scheme path cs : List Char) : List Char :=
  let common := isCommon scheme
  addSegments (isFile scheme) path (Text.splitOn '/' (cs.map fun c => if isSlash common c then '/' else c))

/-- A path with one slash in front. -/
def withOneSlash (path : List Char) : List Char := '/' :: path.dropWhile (· == '/')

/-- The path that a text names when it is put behind another; files have one slash in front. -/
def resolve (scheme path cs : List Char) : List Char :=
  if isFile scheme then withOneSlash (extend scheme path cs) else extend scheme path cs

end TrustReplica.Url
