import TrustReplica.Identifier
import TrustReplica.Json.Maps

/-! What a fetch asks for. A `Selector` names all versions of a TMI, its latest or one; a `Request` is the
    address of one TMI with a selector, and its path is what a server of snapshots is asked. -/

namespace TrustReplica

/-- Which versions of a TMI are asked for. -/
inductive Selector where
  | all
  | latest
  | at (v : Version)
deriving DecidableEq, Repr

namespace Selector

/-- A selector as it stands in a path. -/
def toText : Selector → String
  | all => "all"
  | latest => "latest"
  | .at v => v.toText

/-- Reads a selector: a word, or a version with an optional plus sign and leading zeros. -/
def ofText? (s : String) : Option Selector :=
  if s = "all" then some all
  else if s = "latest" then some latest
  else (Decimal.parse? Decimal.maxWord s).map fun n => .at (UInt64.ofNat n)

/-- What a message says about a text that is no selector. -/
def invalid (s : String) : String := "invalid version selector: " ++ s

end Selector

/-- The address of one TMI on the fetch API. -/
structure Request where
  application : String
  session : String
  template : String
  id : String
  selector : Selector
deriving DecidableEq, Repr

namespace Request

/-- The path of a request, relative to the root of the API. -/
def path (r : Request) : String :=
  "tmis/" ++ r.application ++ "/" ++ r.session ++ "/" ++ r.template ++ "/" ++ r.id ++ "/" ++
    r.selector.toText

/-- The identifier of the TMI that is asked for. -/
def tmi (r : Request) : TmiId := TmiId.canonical r.application r.session r.template r.id

end Request

/-- The path of the listing of all TMIs. -/
def listingPath : String := "tmis"

end TrustReplica
