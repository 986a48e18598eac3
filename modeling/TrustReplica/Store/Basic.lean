import TrustReplica.Model.Instance

/-! What is known at one time: the sessions and the trust model instances (TMIs), each under its
    identifier and in the order of the identifiers. Sessions and TMIs are looked up with `session?` and
    `tmi?`, and replaced one at a time. -/

namespace TrustReplica

/-- All sessions and TMIs that are known. -/
structure Store where
  sessions : Std.ExtTreeMap SessionId Session
  tmis : Std.ExtTreeMap TmiId Tmi

namespace Store

/-- The store that knows nothing. -/
def empty : Store := ⟨∅, ∅⟩

/-- The session with an identifier. -/
def session? (s : Store) (id : SessionId) : Option Session := s.sessions[id]?

/-- The TMI with a full identifier. -/
def tmi? (s : Store) (f : TmiId) : Option Tmi := s.tmis[f]?

/-- Stores a session under its identifier, over one that is there. -/
def insertSession (s : Store) (session : Session) : Store :=
  { s with sessions := s.sessions.insert session.id session }

/-- Stores a TMI under its full identifier, over one that is there. -/
def insertTmi (s : Store) (t : Tmi) : Store := { s with tmis := s.tmis.insert t.fullId t }

/-- Changes a session, if it is known. -/
def modifySession (s : Store) (id : SessionId) (change : Session → Session) : Store :=
  match s.session? id with
  | some session => { s with sessions := s.sessions.insert id (change session) }
  | none => s

/-- Changes a TMI, if it is known. -/
def modifyTmi (s : Store) (f : TmiId) (change : Tmi → Tmi) : Store :=
  match s.tmi? f with
  | some t => { s with tmis := s.tmis.insert f (change t) }
  | none => s

/-- All sessions, in the order of their identifiers. -/
def sessionList (s : Store) : List Session := s.sessions.toList.map Prod.snd

/-- All TMIs, in the order of their identifiers. -/
def tmiList (s : Store) : List Tmi := s.tmis.toList.map Prod.snd

/-- The TMIs that name a session, whether or not the session is known. -/
def tmisOf (s : Store) (id : SessionId) : List Tmi := s.tmiList.filter fun t => t.session == id

end Store

end TrustReplica
