import TrustReplica.Fetch.Snapshot

/-! Events of the push stream. Seven tags are known (`EventKind`); `Event.ofJson` reads the event of the
    tag that a value carries, keeps an unknown tag as `unrecognized`, and tells a value without a tag
    from one whose members do not fit its tag. `Event.toJson?` writes what it reads. -/

namespace TrustReplica

/-- What a spawn or an update tells of a TMI. -/
structure Snapshot where
  fullId : TmiId
  id : String
  version : Version
  fingerprint : UInt64
  graph : TrustGraph
  values : Option (NameMap (List Relationship))
  rtls : Option (NameMap Opinion)
  update : Option Json

/-- One message of the push stream. -/
inductive Event where
  | sessionCreated (session : SessionId) (client : ClientId) (template : String)
  | sessionTorndown (session : SessionId)
  | spawned (snapshot : Snapshot)
  | updated (snapshot : Snapshot)
  | deleted (tmi : TmiId)
  | atlUpdated (tmi : TmiId) (nominal : Option Version) (bundle : AtlBundle)
  | atlRemoved (tmi : Option TmiId)
  | unrecognized (tag : String)

/-- The kinds of events that are known. -/
inductive EventKind where
  | sessionCreated
  | sessionTorndown
  | spawned
  | updated
  | deleted
  | atlUpdated
  | atlRemoved
deriving DecidableEq, Repr

/-- Why a message is not an event. -/
inductive EventError where
  | notJson (fault : Json.Fault)
  | missingEventType
  | malformed (tag : String)
deriving DecidableEq, Repr

open Json

/-! ### Snapshots -/

namespace Snapshot

/-- The state that a snapshot describes. -/
def state (s : Snapshot) : TmiState :=
  ⟨s.version, s.fingerprint, s.graph, s.values.getD ∅, s.rtls.getD ∅⟩

/-- A value, or null if there is none. -/
def orNull {α : Type} (write : α → Json) : Option α → Json
  | none => .null
  | some a => write a

/-- The members of a snapshot; a missing update is left out. -/
def toMembers (s : Snapshot) : List (String × Json) :=
  [("Fingerprint", .natural s.fingerprint), ("FullTMI", .text s.fullId.text), ("ID", .text s.id),
    ("RTLs", orNull opinionsToJson s.rtls), ("Structure", s.graph.toJson)] ++
    Detail.memberOf "Update" (fun u => u) s.update ++
    [("Values", orNull relationshipsToJson s.values), ("Version", .natural s.version)]

/-- A snapshot as a record. -/
def toJson (s : Snapshot) : Json := .object s.toMembers

/-- Reads a snapshot. -/
def read (v : Json) : Option Snapshot :=
  if v.isRecord 8 then do
    let fullId ← required TmiId.read (v.member 0 "FullTMI")
    let id ← defaulted "" readText (v.member 1 "ID")
    let version ← required readNatural (v.member 2 "Version")
    let fingerprint ← defaulted 0 readNatural (v.member 3 "Fingerprint")
    let graph ← defaulted .empty TrustGraph.read (v.member 4 "Structure")
    let values ← optional readRelationships (v.member 5 "Values")
    let rtls ← optional readOpinions (v.member 6 "RTLs")
    let update ← optional some (v.member 7 "Update")
    return ⟨fullId, id, version, fingerprint, graph, values, rtls, update⟩
  else none

/-- The shape of a snapshot. -/
def shape : Shape :=
  .record [("FullTMI", false, .text), ("ID", true, .text), ("Version", false, .natural),
    ("Fingerprint", true, .natural), ("Structure", true, TrustGraph.shape),
    ("Values", true, .nullable relationshipsShape), ("RTLs", true, .nullable opinionsShape),
    ("Update", true, .anything fun _ => true)]

/-- Snapshots in JSON. -/
def format : Format Snapshot := ⟨shape, read⟩

end Snapshot

/-! ### Kinds -/

namespace EventKind

/-- The tag of a kind. -/
def tag : EventKind → String
  | sessionCreated => "SESSION_CREATED"
  | sessionTorndown => "SESSION_TORNDOWN"
  | spawned => "TRUST_MODEL_INSTANCE_SPAWNED"
  | updated => "TRUST_MODEL_INSTANCE_UPDATED"
  | deleted => "TRUST_MODEL_INSTANCE_DELETED"
  | atlUpdated => "ATL_UPDATED"
  | atlRemoved => "ATL_REMOVED"

/-- All kinds. -/
def all : List EventKind :=
  [sessionCreated, sessionTorndown, spawned, updated, deleted, atlUpdated, atlRemoved]

/-- The kind of a tag, if it is known. -/
def ofTag? (s : String) : Option EventKind := all.find? fun k => k.tag == s

end EventKind

/-! ### Events -/

namespace Event

/-- The kind of an event, if it is known. -/
def kind? : Event → Option EventKind
  | sessionCreated _ _ _ => some .sessionCreated
  | sessionTorndown _ => some .sessionTorndown
  | spawned _ => some .spawned
  | updated _ => some .updated
  | deleted _ => some .deleted
  | atlUpdated _ _ _ => some .atlUpdated
  | atlRemoved _ => some .atlRemoved
  | unrecognized _ => none

/-- The tag that an event carries. -/
def tag : Event → String
  | unrecognized tag => tag
  | sessionCreated _ _ _ => EventKind.sessionCreated.tag
  | sessionTorndown _ => EventKind.sessionTorndown.tag
  | spawned _ => EventKind.spawned.tag
  | updated _ => EventKind.updated.tag
  | deleted _ => EventKind.deleted.tag
  | atlUpdated _ _ _ => EventKind.atlUpdated.tag
  | atlRemoved _ => EventKind.atlRemoved.tag

/-- The TMI that an event is about, if there is one. -/
def tmi? : Event → Option TmiId
  | spawned s => some s.fullId
  | updated s => some s.fullId
  | deleted f => some f
  | atlUpdated f _ _ => some f
  | atlRemoved f => f
  | _ => none

/-- The snapshot of a spawn or an update. -/
def snapshot? : Event → Option Snapshot
  | spawned s => some s
  | updated s => some s
  | _ => none

/-- Reads the members of an event of a known kind. -/
def readKind (kind : EventKind) (v : Json) : Option Event :=
  match kind with
  | .sessionCreated => do
    let session ← required readText (v.get? "SessionID")
    let client ← defaulted "" readText (v.get? "ClientID")
    let template ← defaulted "" readText (v.get? "TrustModelTemplate")
    return sessionCreated ⟨session⟩ ⟨client⟩ template
  | .sessionTorndown => do
    let session ← required readText (v.get? "SessionID")
    return sessionTorndown ⟨session⟩
  | .spawned => (Snapshot.read v).map spawned
  | .updated => (Snapshot.read v).map updated
  | .deleted => do
    let f ← required TmiId.read (v.get? "FullTMI")
    return deleted f
  | .atlUpdated => do
    let f ← required TmiId.read (v.get? "FullTMI")
    let nominal ← optional readNatural (v.get? "Version")
    let bundle ← required AtlBundle.read (v.get? "NewATLs")
    return atlUpdated f nominal bundle
  | .atlRemoved => do
    let f ← optional TmiId.read (v.get? "FullTMI")
    return atlRemoved f

/-- The tag that a value carries, if it is an object with a text for a tag. -/
def tagOf? (v : Json) : Option String := (v.get? "EventType").bind Json.text?

/-- Reads an event. -/
def ofJson (v : Json) : Except EventError Event :=
  match tagOf? v with
  | none => .error .missingEventType
  | some tag =>
    match EventKind.ofTag? tag with
    | none => .ok (unrecognized tag)
    | some kind =>
      match readKind kind v with
      | some e => .ok e
      | none => .error (.malformed tag)

/-- Reads an event from a text. -/
def ofText (s : String) : Except EventError Event :=
  match Json.parse s with
  | .ok v => ofJson v
  | .error fault => .error (.notJson fault)

/-- The members of an event beside its tag; an event of no known kind has none that are kept. -/
def toMembers? : Event → Option (List (String × Json))
  | sessionCreated session client template =>
    some [("ClientID", .text client.text), ("SessionID", .text session.text),
      ("TrustModelTemplate", .text template)]
  | sessionTorndown session => some [("SessionID", .text session.text)]
  | spawned s => some s.toMembers
  | updated s => some s.toMembers
  | deleted f => some [("FullTMI", .text f.text)]
  | atlUpdated f nominal bundle =>
    some [("FullTMI", .text f.text), ("NewATLs", bundle.toJson),
      ("Version", Snapshot.orNull .natural nominal)]
  | atlRemoved f => some [("FullTMI", Snapshot.orNull (fun f => .text f.text) f)]
  | unrecognized _ => none

/-- An event of a known kind as an object. -/
def toJson? (e : Event) : Option Json :=
  e.toMembers?.map fun members => .object (("EventType", .text e.tag) :: members)

end Event

namespace EventError

/-- What a message says about a text that is no event; a fault of the text is told by its kind alone. -/
def message : EventError → String
  | notJson _ => "message is not valid JSON"
  | missingEventType => "message has no string EventType field"
  | malformed tag => "malformed " ++ tag ++ " event"

end EventError

end TrustReplica
