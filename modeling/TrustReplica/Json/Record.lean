import TrustReplica.Json.Basic

/-! Records and lists written in JSON. A record is an object with its members by name, or an array of
    them in order; `member` finds one in either form and `isRecord` says that there are not too many.
    The readers of members differ in what an absent or a null member means. -/

namespace TrustReplica.Json

/-- Member number `index` of a record, called `name`, as it is written. -/
def member (index : Nat) (name : String) : Json → Option Json
  | object members => lookup name members
  | array items => items[index]?
  | _ => none

/-- A value that may be a record of at most `size` members: any object, or an array no longer than that. -/
def isRecord (size : Nat) : Json → Bool
  | object _ => true
  | array items => items.length ≤ size
  | _ => false

section Members

variable {α : Type}

/-- A member that has to be there. -/
def required (read : Json → Option α) (m : Option Json) : Option α := m.bind read

/-- A member with a value of its own when it is absent. -/
def defaulted (absent : α) (read : Json → Option α) : Option Json → Option α
  | none => some absent
  | some v => read v

/-- A member that may be absent or null. -/
def optional (read : Json → Option α) : Option Json → Option (Option α)
  | none => some none
  | some null => some none
  | some v => (read v).map some

/-- A member that stands for `absent` when it is absent or null. -/
def nullable (absent : α) (read : Json → Option α) : Option Json → Option α
  | none => some absent
  | some null => some absent
  | some v => read v

end Members

/-! ### Readers of plain values -/

/-- A truth value. -/
def readFlag : Json → Option Bool
  | flag b => some b
  | _ => none

/-- A text. -/
def readText : Json → Option String
  | text s => some s
  | _ => none

/-- A whole number of 64 bits, written as one. -/
def readNatural : Json → Option UInt64
  | number n => n.natural?
  | _ => none

/-- A whole number of at most `limit`, written as one. -/
def readUpTo (limit : Nat) (v : Json) : Option Nat :=
  ((readNatural v).map UInt64.toNat).filter (· ≤ limit)

/-- Any number, as the nearest float. -/
def readFloat : Json → Option Float
  | number n => some n.toFloat
  | _ => none

/-- Any number, or a truth value as one or zero. -/
def readScore : Json → Option Float
  | number n => some n.toFloat
  | flag b => some (if b then 1.0 else 0.0)
  | _ => none

/-- A list of values of one kind. -/
def readList {α : Type} (read : Json → Option α) : Json → Option (List α)
  | array items => items.mapM read
  | _ => none

/-- The named values of one kind, in the order in which they are written. -/
def readEntries {α κ : Type} (readKey : String → Option κ) (read : Json → Option α) :
    Json → Option (List (κ × α))
  | object members => members.mapM fun m => do return (← readKey m.1, ← read m.2)
  | _ => none

end TrustReplica.Json
