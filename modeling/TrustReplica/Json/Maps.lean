import Std.Data.ExtTreeMap
import TrustReplica.Decimal.Whole
import TrustReplica.Json.Record
import TrustReplica.Json.Shape

/-! Ordered maps written as objects: by name, or by version. A version is written as its canonical decimal
    text, and only that text is read as one. -/

namespace TrustReplica

/-- The number of a state of a TMI. -/
abbrev Version := UInt64

/-- Values by name, in the order of the names. -/
abbrev NameMap (α : Type) := Std.ExtTreeMap String α

/-- Values by version, in the order of the versions. -/
abbrev VersionMap (α : Type) := Std.ExtTreeMap Version α

namespace Version

/-- The decimal text of a version. -/
def toText (v : Version) : String := Nat.repr v.toNat

/-- The version that a canonical decimal text writes. -/
def ofText? (s : String) : Option Version :=
  match Decimal.parse? Decimal.maxWord s with
  | some n => if Nat.repr n = s then some (UInt64.ofNat n) else none
  | none => none

/-- The version after `v`, or `v` itself if it is the last. -/
def next (v : Version) : Version := if v.toNat < Decimal.maxWord then v + 1 else v

end Version

namespace Json

variable {α : Type}

/-- A map by name as an object. -/
def ofNames (write : α → Json) (m : NameMap α) : Json :=
  object (m.toList.map fun e => (e.1, write e.2))

/-- An object as a map by name. -/
def readNames (read : Json → Option α) (v : Json) : Option (NameMap α) :=
  (readEntries some read v).map fun entries => Std.ExtTreeMap.ofList entries

/-- A map by version as an object, with its members in the order of the versions. That is the order in which
    they are written; a value that is held by the order of its names has them as texts are ordered. -/
def ofVersions (write : α → Json) (m : VersionMap α) : Json :=
  object (m.toList.map fun e => (e.1.toText, write e.2))

/-- An object with versions for names as a map by version. -/
def readVersions (read : Json → Option α) (v : Json) : Option (VersionMap α) :=
  (readEntries Version.ofText? read v).map fun entries => Std.ExtTreeMap.ofList entries

end Json

end TrustReplica
