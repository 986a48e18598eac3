import TrustReplica.Model.Event
import TrustReplica.Store.Basic
import TrustReplica.Store.Outcome

/-! Applying events to a store, one after the other. The first event for a version of a TMI claims it
    and its state stays; a later update for the same version leaves the state alone and files its
    payload under the next version. What names an unknown session or TMI is dropped. `Store.apply` also
    reports what an event did. -/

namespace TrustReplica

/-! ### One TMI -/

namespace Tmi

/-- The TMI that a first spawn makes; its short identifier is the one of the event, if that has one. -/
def ofSpawn (snapshot : Snapshot) (identity : Identity) : Tmi :=
  let t := empty snapshot.fullId identity true snapshot.version
  { t with id := if snapshot.id.isEmpty then identity.id else snapshot.id }.setState snapshot.state

/-- A TMI that is spawned again: what was recorded is kept, and it is active. -/
def respawn (t : Tmi) (snapshot : Snapshot) : Tmi :=
  { (t.claimState snapshot.state).raiseLatest snapshot.version with active := true }

/-- Files the payload of an event, if it has one. -/
def addUpdateIfAny (t : Tmi) (v : Version) : Option Json → Tmi
  | some payload => t.addUpdate v payload
  | none => t

/-- An update claims its version, or is put off to the next one. -/
def update (t : Tmi) (snapshot : Snapshot) : Outcome × Tmi :=
  if t.isClaimed snapshot.version then
    match snapshot.update with
    | some payload => (.deferred snapshot.version.next, t.addUpdate snapshot.version.next payload)
    | none => (.duplicate, t)
  else
    (.applied, ((t.setState snapshot.state).addUpdateIfAny snapshot.version snapshot.update).raiseLatest
      snapshot.version)

/-- A TMI that is no longer active. -/
def delete (t : Tmi) : Tmi := { t with active := false }

end Tmi

/-! ### The store -/

namespace Store

/-- Creates a session, or starts it anew with an empty list of TMIs. -/
def createSession (s : Store) (id : SessionId) (client : ClientId) (template : String) :
    Outcome × Store :=
  (.applied, s.insertSession (.create id client template))

/-- Ends a session that is known. -/
def tearDownSession (s : Store) (id : SessionId) : Outcome × Store :=
  match s.session? id with
  | some _ => (.applied, s.modifySession id .tearDown)
  | none => (.unknownEntity, s)

/-- Changes a TMI that is known and reports what that did. -/
def changeTmi (s : Store) (f : TmiId) (change : Tmi → Outcome × Tmi) : Outcome × Store :=
  match s.tmi? f with
  | some t => ((change t).1, { s with tmis := s.tmis.insert f (change t).2 })
  | none => (.unknownEntity, s)

/-- The TMI that a spawn leaves, whether it was known or not. -/
def spawned (s : Store) (snapshot : Snapshot) (identity : Identity) : Tmi :=
  match s.tmi? snapshot.fullId with
  | some t => t.respawn snapshot
  | none => .ofSpawn snapshot identity

/-- Spawns a TMI and links it to its session, if that is known. -/
def spawnTmi (s : Store) (snapshot : Snapshot) : Outcome × Store :=
  match snapshot.fullId.identity with
  | .error _ => (.malformed, s)
  | .ok identity =>
    let linked := s.modifySession identity.session fun session => session.link snapshot.fullId
    (.applied, { linked with tmis := s.tmis.insert snapshot.fullId (s.spawned snapshot identity) })

/-- Applies one event. -/
def apply (s : Store) : Event → Outcome × Store
  | .sessionCreated session client template => s.createSession session client template
  | .sessionTorndown session => s.tearDownSession session
  | .spawned snapshot => s.spawnTmi snapshot
  | .updated snapshot => s.changeTmi snapshot.fullId fun t => t.update snapshot
  | .deleted f => s.changeTmi f fun t => (.applied, t.delete)
  | .atlUpdated f _ bundle => s.changeTmi f fun t => (.applied, t.setBundle bundle)
  | .atlRemoved _ => (.ignored, s)
  | .unrecognized _ => (.unrecognized, s)

/-- The store after many events, in their order. -/
def applyAll (s : Store) (events : List Event) : Store := events.foldl (fun s e => (s.apply e).2) s

/-- Applies one event and counts its outcome. -/
def applyCounting (acc : Tally × Store) (e : Event) : Tally × Store :=
  (acc.1.count (acc.2.apply e).1, (acc.2.apply e).2)

/-- Applies many events, in their order, and counts the outcomes. -/
def applyAllCounting (s : Store) (events : List Event) : Tally × Store :=
  events.foldl applyCounting (Tally.zero, s)

end Store

end TrustReplica
