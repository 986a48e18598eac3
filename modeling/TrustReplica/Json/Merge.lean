import TrustReplica.Json.Basic

/-! Merging one value over another. Two objects merge member by member, and a null member of the source
    leaves the target alone; in every other case the source takes the target's place. -/

namespace TrustReplica.Json

mutual

/-- The source merged over the target. -/
def mergeOver (target : Json) : Json → Json
  | object source =>
    match target with
    | object members => object (mergeMembers members source)
    | _ => object source
  | source => source

/-- The members of the source merged over those of the target, one after the other. -/
def mergeMembers (members : List (String × Json)) : List (String × Json) → List (String × Json)
  | [] => members
  | (name, value) :: rest =>
    if value.isNull then mergeMembers members rest
    else
      match lookup name members with
      | some old => mergeMembers (insertMember name (mergeOver old value) members) rest
      | none => mergeMembers (insertMember name value members) rest

end

end TrustReplica.Json
