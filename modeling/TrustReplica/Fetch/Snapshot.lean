import TrustReplica.Model.Instance

/-! The answers of the fetch API: the listing of all TMIs with a `Summary` of each, and the `Detail` of
    one, which holds either one version or all of them. The two kinds of payload are told apart by their
    form when they are read; each reader stands beside its writer. -/

namespace TrustReplica

/-- What the listing says of one TMI. -/
structure Summary where
  id : String
  fullId : TmiId
  template : String
  active : Bool
  latestVersion : Version
deriving DecidableEq

/-- The listing: a summary under each key. -/
abbrev Listing := NameMap Summary

/-- The bundles in a detail: one alone, or those of many versions. -/
inductive BundleContent where
  | single (bundle : AtlBundle)
  | byVersion (bundles : VersionMap AtlBundle)

/-- The update payloads in a detail: those of one version, those of many, or some other value. -/
inductive UpdateContent where
  | list (payloads : List Json)
  | byVersion (payloads : VersionMap (List Json))
  | other (value : Json)

/-- What a fetch says of one TMI. -/
structure Detail where
  fullId : TmiId
  id : String
  template : String
  active : Bool
  latestVersion : Version
  atls : Option BundleContent
  state : Option TmiState
  states : Option (VersionMap TmiState)
  updates : Option UpdateContent

open Json

/-- Reads the full identifier of a TMI. -/
def TmiId.read (v : Json) : Option TmiId := (readText v).map TmiId.mk

namespace Summary

/-- The summary of a TMI. -/
def ofTmi (t : Tmi) : Summary := ⟨t.id, t.fullId, t.template, t.active, t.latestVersion⟩

/-- A summary as a record. -/
def toJson (s : Summary) : Json :=
  .object [("active", .flag s.active), ("fullTMI", .text s.fullId.text), ("id", .text s.id),
    ("latestVersion", .natural s.latestVersion), ("template", .text s.template)]

/-- Reads a summary. -/
def read (v : Json) : Option Summary :=
  if v.isRecord 5 then do
    let id ← required readText (v.member 0 "id")
    let fullId ← required TmiId.read (v.member 1 "fullTMI")
    let template ← defaulted "" readText (v.member 2 "template")
    let active ← defaulted false readFlag (v.member 3 "active")
    let latestVersion ← defaulted 0 readNatural (v.member 4 "latestVersion")
    return ⟨id, fullId, template, active, latestVersion⟩
  else none

/-- The shape of a summary. -/
def shape : Shape :=
  .record [("id", false, .text), ("fullTMI", false, .text), ("template", true, .text),
    ("active", true, .flag), ("latestVersion", true, .natural)]

/-- Summaries in JSON. -/
def format : Format Summary := ⟨shape, read⟩

end Summary

namespace Listing

/-- A listing as an object. -/
def toJson (l : Listing) : Json := ofNames Summary.toJson l

/-- Reads a listing. -/
def read : Json → Option Listing := readNames Summary.read

/-- Listings in JSON. -/
def format : Format Listing := ⟨.named Summary.shape, read⟩

end Listing

namespace BundleContent

/-- The payload as a bundle or as an object by version. -/
def toJson : BundleContent → Json
  | single bundle => bundle.toJson
  | byVersion bundles => ofVersions AtlBundle.toJson bundles

/-- Reads a payload: a value with a member `Version` is one bundle. -/
def read (v : Json) : Option BundleContent :=
  if (v.get? "Version").isSome then (AtlBundle.read v).map single
  else (readVersions AtlBundle.read v).map byVersion

/-- Payloads of bundles in JSON. -/
def format : Format BundleContent := ⟨.anything fun v => (read v).isSome, read⟩

end BundleContent

namespace UpdateContent

/-- The payload as an array, as an object by version, or as the value it is. -/
def toJson : UpdateContent → Json
  | list payloads => .array payloads
  | byVersion payloads => ofVersions .array payloads
  | other value => value

/-- Reads lists of payloads by version. -/
def readByVersion : Json → Option (VersionMap (List Json)) := readVersions (readList some)

/-- Tells the kind of a payload by its form. -/
def ofJson (v : Json) : UpdateContent :=
  match v with
  | .array payloads => list payloads
  | .object members =>
    match readByVersion (.object members) with
    | some payloads => byVersion payloads
    | none => other (.object members)
  | value => other value

/-- Payloads of updates in JSON; every value is one. -/
def format : Format UpdateContent := ⟨.anything fun _ => true, fun v => some (ofJson v)⟩

end UpdateContent

namespace Detail

/-- What a detail of any kind says of a TMI. -/
def header (t : Tmi) : Detail :=
  ⟨t.fullId, t.id, t.template, t.active, t.latestVersion, none, none, none, none⟩

/-- The detail of one version; nothing if no state of it is recorded. -/
def atVersion? (t : Tmi) (v : Version) : Option Detail :=
  t.states[v]?.map fun state =>
    { header t with
      atls := t.atls[v]?.map .single
      state := some state
      updates := some (.list (t.updatesAt v)) }

/-- The detail of every version. -/
def complete (t : Tmi) : Detail :=
  { header t with
    atls := some (.byVersion t.atls)
    states := some t.states
    updates := some (.byVersion t.updates) }

/-- A member that is left out when there is nothing to write. -/
def memberOf {α : Type} (name : String) (write : α → Json) : Option α → List (String × Json)
  | none => []
  | some a => [(name, write a)]

/-- A detail as a record. -/
def toJson (d : Detail) : Json :=
  .object (("active", .flag d.active) :: memberOf "atls" BundleContent.toJson d.atls ++
    [("fullTMI", .text d.fullId.text), ("id", .text d.id), ("latestVersion", .natural d.latestVersion)] ++
    memberOf "state" TmiState.toJson d.state ++
    memberOf "states" (ofVersions TmiState.toJson) d.states ++
    [("template", .text d.template)] ++ memberOf "updates" UpdateContent.toJson d.updates)

/-- Reads a detail. -/
def read (v : Json) : Option Detail :=
  if v.isRecord 9 then do
    let fullId ← required TmiId.read (v.member 0 "fullTMI")
    let id ← required readText (v.member 1 "id")
    let template ← defaulted "" readText (v.member 2 "template")
    let active ← defaulted false readFlag (v.member 3 "active")
    let latestVersion ← defaulted 0 readNatural (v.member 4 "latestVersion")
    let atls ← optional BundleContent.read (v.member 5 "atls")
    let state ← optional TmiState.read (v.member 6 "state")
    let states ← optional (readVersions TmiState.read) (v.member 7 "states")
    let updates ← optional (fun u => some (UpdateContent.ofJson u)) (v.member 8 "updates")
    return ⟨fullId, id, template, active, latestVersion, atls, state, states, updates⟩
  else none

/-- The shape of a detail. -/
def shape : Shape :=
  .record [("fullTMI", false, .text), ("id", false, .text), ("template", true, .text),
    ("active", true, .flag), ("latestVersion", true, .natural),
    ("atls", true, .nullable BundleContent.format.shape), ("state", true, .nullable TmiState.shape),
    ("states", true, .nullable (.numbered TmiState.shape)),
    ("updates", true, .nullable UpdateContent.format.shape)]

/-- Details in JSON. -/
def format : Format Detail := ⟨shape, read⟩

end Detail

end TrustReplica
