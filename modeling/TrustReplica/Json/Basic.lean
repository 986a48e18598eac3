import TrustReplica.Decimal.Scaled

/-! JSON values. A number is a whole number of 64 bits, a negative one of 63 bits, or a finite float; the
    three never stand for each other. The members of an object are listed by name; in a canonical value
    the names of every object strictly ascend, and `insertMember` keeps them so. -/

namespace TrustReplica

/-- A JSON number as it was written: whole, negative whole, or any other finite number. -/
inductive Number where
  | natural (n : UInt64)
  | negative (n : Int64) (isNegative : n < 0)
  | float (x : Float) (isFinite : x.isFinite = true)
deriving DecidableEq

namespace Number

/-- The float nearest to a number. -/
def toFloat : Number → Float
  | natural n => n.toFloat
  | negative n _ => -(UInt64.ofNat n.toInt.natAbs).toFloat
  | float x _ => x

/-- The whole number of 64 bits that was written, if it was one. -/
def natural? : Number → Option UInt64
  | natural n => some n
  | _ => none

end Number

/-- A JSON value. -/
inductive Json where
  | null
  | flag (b : Bool)
  | number (n : Number)
  | text (s : String)
  | array (items : List Json)
  | object (members : List (String × Json))
deriving Inhabited

namespace Json

/-- A whole number of 64 bits. -/
def natural (n : UInt64) : Json := number (.natural n)

/-- A float as a number; the floats that JSON cannot write become null. -/
def ofFloat (x : Float) : Json :=
  if h : x.isFinite = true then number (.float x h) else null

/-- The value of the first member with a name. -/
def lookup (name : String) (members : List (String × Json)) : Option Json :=
  (members.find? fun m => m.1 == name).map Prod.snd

/-- Puts a member in the place of its name, over one that is there. -/
def insertMember (name : String) (value : Json) : List (String × Json) → List (String × Json)
  | [] => [(name, value)]
  | (k, v) :: rest =>
    if name = k then (name, value) :: rest
    else if name < k then (name, value) :: (k, v) :: rest
    else (k, v) :: insertMember name value rest

/-- An object of members in any order, the last of each name. -/
def ofMembers (members : List (String × Json)) : Json :=
  object (members.foldl (fun acc m => insertMember m.1 m.2 acc) [])

/-- The value of a member of an object; nothing in any other value. -/
def get? (name : String) : Json → Option Json
  | object members => lookup name members
  | _ => none

/-- The text of a value that is text. -/
def text? : Json → Option String
  | text s => some s
  | _ => none

/-- Whether a value is null. -/
def isNull : Json → Bool
  | null => true
  | _ => false

mutual

/-- The names of every object in the value strictly ascend. -/
def Canonical : Json → Prop
  | array items => CanonicalItems items
  | object members => (members.map Prod.fst).Pairwise (· < ·) ∧ CanonicalMembers members
  | _ => True

/-- Every value of a list is canonical. -/
def CanonicalItems : List Json → Prop
  | [] => True
  | v :: rest => Canonical v ∧ CanonicalItems rest

/-- Every value of a list of members is canonical. -/
def CanonicalMembers : List (String × Json) → Prop
  | [] => True
  | (_, v) :: rest => Canonical v ∧ CanonicalMembers rest

end

end Json

end TrustReplica
