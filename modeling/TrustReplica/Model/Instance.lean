import TrustReplica.Identifier
import TrustReplica.Model.State

/-! Sessions and trust model instances (TMIs) as the replica holds them. A TMI keeps its states, its
    bundles of trustworthiness levels and its update payloads by version; `raiseLatest` never lowers the
    latest version, and `addUpdate` adds at the end of one version's list. -/

namespace TrustReplica

/-- A session and the TMIs spawned in it, in order of arrival. -/
structure Session where
  id : SessionId
  client : ClientId
  active : Bool
  template : String
  tmis : List TmiId

/-- A trust model instance with everything recorded of it. -/
structure Tmi where
  id : String
  fullId : TmiId
  application : String
  session : SessionId
  template : String
  active : Bool
  latestVersion : Version
  states : VersionMap TmiState
  atls : VersionMap AtlBundle
  updates : VersionMap (List Json)

namespace Session

/-- A session that was just created. -/
def create (id : SessionId) (client : ClientId) (template : String) : Session :=
  ⟨id, client, true, template, []⟩

/-- Adds a TMI at the end of the session's list, once. -/
def link (s : Session) (f : TmiId) : Session :=
  if f ∈ s.tmis then s else { s with tmis := s.tmis ++ [f] }

/-- The session when it is no longer active. -/
def tearDown (s : Session) : Session := { s with active := false }

/-- A session as an object. -/
def toJson (s : Session) : Json :=
  .object [("active", .flag s.active), ("clientId", .text s.client.text), ("sessionId", .text s.id.text),
    ("template", .text s.template), ("tmis", .array (s.tmis.map fun f => .text f.text))]

end Session

namespace Tmi

/-- A TMI with its identity and no versions. -/
def empty (fullId : TmiId) (identity : Identity) (active : Bool) (latestVersion : Version) : Tmi :=
  ⟨identity.id, fullId, identity.application, identity.session, identity.template, active, latestVersion,
    ∅, ∅, ∅⟩

/-- Whether a state of a version is recorded. -/
def isClaimed (t : Tmi) (v : Version) : Bool := t.states.contains v

/-- The latest version raised to `v`, if `v` is larger. -/
def raiseLatest (t : Tmi) (v : Version) : Tmi :=
  if t.latestVersion < v then { t with latestVersion := v } else t

/-- The update payloads filed under a version, in order of arrival. -/
def updatesAt (t : Tmi) (v : Version) : List Json := t.updates[v]?.getD []

/-- Files one more update payload under a version. -/
def addUpdate (t : Tmi) (v : Version) (payload : Json) : Tmi :=
  { t with updates := t.updates.insert v (t.updatesAt v ++ [payload]) }

/-- The state of the latest version, if it is recorded. -/
def currentState? (t : Tmi) : Option TmiState := t.states[t.latestVersion]?

/-- Records a state under its version, over one that is there. -/
def setState (t : Tmi) (s : TmiState) : Tmi := { t with states := t.states.insert s.version s }

/-- Records a state under its version, unless one is there. -/
def claimState (t : Tmi) (s : TmiState) : Tmi :=
  { t with states := t.states.insertIfNew s.version s }

/-- Records a bundle under its own version. -/
def setBundle (t : Tmi) (a : AtlBundle) : Tmi := { t with atls := t.atls.insert a.version a }

/-- A TMI as an object. -/
def toJson (t : Tmi) : Json :=
  .object [("active", .flag t.active), ("application", .text t.application),
    ("atls", Json.ofVersions AtlBundle.toJson t.atls), ("fullTMI", .text t.fullId.text),
    ("id", .text t.id), ("latestVersion", .natural t.latestVersion), ("sessionId", .text t.session.text),
    ("states", Json.ofVersions TmiState.toJson t.states), ("template", .text t.template),
    ("updates", Json.ofVersions .array t.updates)]

end Tmi

end TrustReplica
