import TrustReplica.Json.Maps

/-! Subjective-logic opinions: belief, disbelief and uncertainty as masses, and a base rate. They are
    kept as they were received; `wellFormed` is offered to whoever wants to check one. -/

namespace TrustReplica

/-- A subjective-logic opinion. -/
structure Opinion where
  belief : Float
  disbelief : Float
  uncertainty : Float
  baseRate : Float

namespace Opinion

/-- Whether a float lies between zero and one. -/
def isFraction (x : Float) : Bool := 0.0 ≤ x && x ≤ 1.0

/-- The masses and the base rate are fractions, and the masses sum to one within a tolerance. -/
def wellFormed (o : Opinion) (tolerance : Float) : Bool :=
  isFraction o.belief && isFraction o.disbelief && isFraction o.uncertainty &&
    (o.belief + o.disbelief + o.uncertainty - 1.0).abs ≤ tolerance && isFraction o.baseRate

/-- All four numbers can be written in JSON. -/
def IsFinite (o : Opinion) : Prop :=
  o.belief.isFinite = true ∧ o.disbelief.isFinite = true ∧ o.uncertainty.isFinite = true ∧
    o.baseRate.isFinite = true

/-- An opinion as a record. -/
def toJson (o : Opinion) : Json :=
  .object [("base_rate", .ofFloat o.baseRate), ("belief", .ofFloat o.belief),
    ("disbelief", .ofFloat o.disbelief), ("uncertainty", .ofFloat o.uncertainty)]

open Json in
/-- Reads an opinion. -/
def read (v : Json) : Option Opinion :=
  if v.isRecord 4 then do
    let belief ← required readFloat (v.member 0 "belief")
    let disbelief ← required readFloat (v.member 1 "disbelief")
    let uncertainty ← required readFloat (v.member 2 "uncertainty")
    let baseRate ← required readFloat (v.member 3 "base_rate")
    return ⟨belief, disbelief, uncertainty, baseRate⟩
  else none

/-- The shape of an opinion. -/
def shape : Json.Shape :=
  .record [("belief", false, .float), ("disbelief", false, .float), ("uncertainty", false, .float),
    ("base_rate", false, .float)]

/-- Opinions in JSON. -/
def format : Json.Format Opinion := ⟨shape, read⟩

end Opinion

end TrustReplica
