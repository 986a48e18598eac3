import TrustReplica.Duration

/-! Why a fetch fails. Failures of the server, of the network and of time may pass, so a fetch is tried
    again after them; the others are final. -/

namespace TrustReplica

/-- Why a fetch of snapshots failed. -/
inductive FetchError where
  | notFound (detail : String)
  | invalidRequest (detail : String)
  | undecodable (detail : String)
  | server (status : UInt16) (body : String)
  | network (detail : String)
  | timeout (after : Duration)
deriving DecidableEq, Repr

namespace FetchError

/-- Whether the fetch may be tried again. -/
def isTransient : FetchError → Bool
  | server _ _ => true
  | network _ => true
  | timeout _ => true
  | _ => false

/-- A short name for the kind of failure. -/
def kind : FetchError → String
  | notFound _ => "not_found"
  | invalidRequest _ => "invalid_request"
  | undecodable _ => "decode"
  | server _ _ => "server_error"
  | network _ => "network_error"
  | timeout _ => "timeout"

/-- What a message says about a failure. -/
def message : FetchError → String
  | notFound detail => "not found: " ++ detail
  | invalidRequest detail => "invalid request: " ++ detail
  | undecodable detail => "undecodable response: " ++ detail
  | server status body => "server error " ++ Nat.repr status.toNat ++ ": " ++ body
  | network detail => "network error: " ++ detail
  | timeout after => "timeout after " ++ after.toText

/-- The failure that a status other than success stands for. -/
def ofStatus (status : UInt16) (body : String) : FetchError :=
  if status = 404 then notFound body
  else if status = 408 ∨ status = 429 ∨ (500 ≤ status ∧ status ≤ 599) then server status body
  else invalidRequest ("unexpected status " ++ Nat.repr status.toNat ++ ": " ++ body)

end FetchError

end TrustReplica
