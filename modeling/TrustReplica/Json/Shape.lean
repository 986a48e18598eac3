import TrustReplica.Json.Document

/-! Reading a text straight into a record. A `Shape` says what is expected at each place; `Shape.read`
    walks the document of a text from the left and stops at the first fault, be it of the text or of its
    shape. What it returns holds only what the shape names. A value is walked the same way to learn why
    it was refused (`Shape.faultOf`). -/

namespace TrustReplica.Json

/-- What is expected at a place of a document. -/
inductive Shape where
  /-- Any value, as long as it passes a test once it is read. -/
  | anything (accepts : Json → Bool)
  | natural
  | float
  | flag
  | text
  /-- A value that may be null. -/
  | nullable (shape : Shape)
  | list (items : Shape)
  /-- An object with any names. -/
  | named (values : Shape)
  /-- An object whose names are whole numbers. -/
  | numbered (values : Shape)
  /-- A record: name of each member, whether it may be absent, and its shape. -/
  | record (members : List (String × Bool × Shape))

/-- The position of a name in a list of members. -/
def positionOf (name : String) (members : List (String × Bool × Shape)) : Option Nat :=
  members.findIdx? fun m => m.1 == name

/-- The fault of a value that is not what was expected. -/
def refuse : Document → Fault
  | .unread f _ => f
  | _ => .mismatch

/-- Goes on if there is no fault. -/
def stopAt (fault : Option Fault) : Except Fault Unit :=
  match fault with
  | none => .ok ()
  | some f => .error f

mutual

/-- Reads a document of the expected shape, from the left. -/
def Shape.read (shape : Shape) (d : Document) : Except Fault Json :=
  match shape with
  | .anything accepts => do
    let v ← d.read
    if accepts v then .ok v else .error .mismatch
  | .natural =>
    match d with
    | .number (.natural n) => .ok (.natural n)
    | d => .error (refuse d)
  | .float =>
    match d with
    | .number n => .ok (.number n)
    | d => .error (refuse d)
  | .flag =>
    match d with
    | .flag b => .ok (.flag b)
    | d => .error (refuse d)
  | .text =>
    match d with
    | .text s => .ok (.text s)
    | d => .error (refuse d)
  | .nullable shape =>
    match d with
    | .null => .ok .null
    | d => shape.read d
  | .list shape =>
    match d with
    | .array items ending _ => do
      let values ← items.mapM fun item => shape.read item
      stopAt ending
      return .array values
    | d => .error (refuse d)
  | .named shape =>
    match d with
    | .object members ending => do
      let values ← members.mapM fun m => do
        let name ← m.1.name
        return (name, ← shape.read m.2)
      stopAt ending
      return ofMembers values
    | d => .error (refuse d)
  | .numbered shape =>
    match d with
    | .object members ending => do
      let values ← members.mapM fun m => do
        let n ← m.1.number
        return (Nat.repr n.toNat, ← shape.read m.2)
      stopAt ending
      return ofMembers values
    | d => .error (refuse d)
  | .record expected =>
    match d with
    | .object members ending => do
      let values ← members.foldlM
        (fun (acc : List (String × Json)) m => do
          let name ← m.1.name
          match positionOf name expected with
          | none => do
            stopAt m.2.skipFault
            return acc
          | some _ =>
            if (lookup name acc).isSome then throw .mismatch
            let v ← readMember expected name m.2
            return acc ++ [(name, v)])
        []
      stopAt ending
      if expected.all fun m => m.2.1 || (lookup m.1 values).isSome then return ofMembers values
      else throw .mismatch
    | .array items ending surplus => do
      let values ← readInOrder expected items ending surplus
      return .array values
    | d => .error (refuse d)

/-- Reads the value of the member with a name. -/
def readMember (expected : List (String × Bool × Shape)) (name : String) (d : Document) :
    Except Fault Json :=
  match expected with
  | [] => .error .mismatch
  | (n, _, shape) :: rest => if n = name then shape.read d else readMember rest name d

/-- Reads the members of a record that is written as an array. -/
def readInOrder (expected : List (String × Bool × Shape)) (items : List Document)
    (ending : Option Fault) (surplus : Fault) : Except Fault (List Json) :=
  match expected with
  | [] =>
    match items with
    | [] => do
      stopAt ending
      return []
    | _ :: _ => .error surplus
  | (_, mayBeAbsent, shape) :: rest =>
    match items with
    | item :: items => do
      let v ← shape.read item
      let vs ← readInOrder rest items ending surplus
      return v :: vs
    | [] => do
      stopAt ending
      if mayBeAbsent then readInOrder rest [] none surplus else .error .mismatch

end

/-- Reads a whole text of the expected shape. -/
def Shape.readText (shape : Shape) (s : String) : Except Fault Json := do
  let (d, trailing) := scanWithin maxDepth s
  let v ← shape.read d
  stopAt trailing
  return v

/-- Why a value is not of the expected shape. -/
def Shape.faultOf (shape : Shape) (v : Json) : Fault :=
  match shape.read v.toDocument with
  | .ok _ => .mismatch
  | .error f => f

/-- A reader of values together with the shape that explains its refusals. -/
structure Format (α : Type) where
  shape : Shape
  read : Json → Option α

namespace Format

variable {α : Type}

/-- Reads a value, or says why it is refused. -/
def ofJson (format : Format α) (v : Json) : Except Fault α :=
  match format.read v with
  | some a => .ok a
  | none => .error (format.shape.faultOf v)

/-- Reads a text, or says why it is refused. -/
def ofText (format : Format α) (s : String) : Except Fault α := do
  let v ← format.shape.readText s
  match format.read v with
  | some a => .ok a
  | none => .error .mismatch

end Format

end TrustReplica.Json
