import Std.Data.ExtTreeMap
import TrustReplica.Text.Quoted
import TrustReplica.Text.Split

/-! Identifiers of sessions, clients and trust model instances (TMIs). The full identifier of a TMI is
    `<scheme>/<scheme>/<application>/<session>/<template>/<id>`; `TmiId.canonical` builds the canonical
    one and `TmiId.identity` takes one apart. All identifiers are ordered as their texts are. -/

namespace TrustReplica

/-- The identifier of a session. -/
structure SessionId where
  text : String
deriving DecidableEq, Repr

/-- The identifier of a client. -/
structure ClientId where
  text : String
deriving DecidableEq, Repr

/-- The full identifier of a trust model instance. -/
structure TmiId where
  text : String
deriving DecidableEq, Repr

/-! ### Order -/

instance : Ord SessionId := ⟨compareOn SessionId.text⟩

instance : Ord TmiId := ⟨compareOn TmiId.text⟩

instance : Ord ClientId := ⟨compareOn ClientId.text⟩

instance : Std.TransOrd SessionId := inferInstanceAs (Std.TransCmp (compareOn SessionId.text))

instance : Std.TransOrd TmiId := inferInstanceAs (Std.TransCmp (compareOn TmiId.text))

instance : Std.LawfulEqOrd SessionId where
  eq_of_compare {a b} h := by
    cases a; cases b
    exact congrArg SessionId.mk (Std.LawfulEqOrd.eq_of_compare h)

instance : Std.LawfulEqOrd TmiId where
  eq_of_compare {a b} h := by
    cases a; cases b
    exact congrArg TmiId.mk (Std.LawfulEqOrd.eq_of_compare h)

/-! ### Identity -/

/-- The four fields that a full identifier names. -/
structure Identity where
  application : String
  session : SessionId
  template : String
  id : String
deriving DecidableEq, Repr

/-- A full identifier lacks one of its fields, or has it empty. -/
structure MissingField where
  raw : String
  field : Nat
deriving DecidableEq, Repr

/-- What a message says about a missing field. -/
def MissingField.message (e : MissingField) : String :=
  "malformed full TMI identifier " ++ Text.quoted e.raw ++ ": field " ++ Nat.repr e.field ++ " missing"

namespace TmiId

/-- The canonical identifier of four fields. -/
def canonical (application session template id : String) : TmiId :=
  ⟨"//" ++ application ++ "/" ++ session ++ "/" ++ template ++ "/" ++ id⟩

/-- The parts of an identifier between slashes. -/
def segments (f : TmiId) : List String := Text.pieces '/' f.text

/-- The position of the application among the segments. -/
def applicationField : Nat := 2

/-- The position of the session among the segments. -/
def sessionField : Nat := 3

/-- The position of the template among the segments. -/
def templateField : Nat := 4

/-- The position of the short identifier among the segments. -/
def idField : Nat := 5

/-- The application as it stands, which may be empty. -/
def application? (f : TmiId) : Option String := f.segments[applicationField]?

/-- The session as it stands, which may be empty. -/
def session? (f : TmiId) : Option SessionId := f.segments[sessionField]?.map SessionId.mk

/-- A segment that has to be there and may not be empty. -/
def requiredField (f : TmiId) (index : Nat) : Except MissingField String :=
  match f.segments[index]? with
  | some s => if s.isEmpty then .error ⟨f.text, index⟩ else .ok s
  | none => .error ⟨f.text, index⟩

/-- All four fields, or the first that is missing. -/
def identity (f : TmiId) : Except MissingField Identity := do
  let application ← f.requiredField applicationField
  let session ← f.requiredField sessionField
  let template ← f.requiredField templateField
  let id ← f.requiredField idField
  return ⟨application, ⟨session⟩, template, id⟩

end TmiId

end TrustReplica
