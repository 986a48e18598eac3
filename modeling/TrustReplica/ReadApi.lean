import TrustReplica.Fetch.Address
import TrustReplica.Store.Replica
import TrustReplica.Url.Percent

/-! The read API of a replica. A request names a resource by its path; `Route.ofPath?` takes the path
    apart before anything in it is decoded, so that an encoded slash belongs to its segment. `respond`
    answers a request, and `get` one that only reads. -/

namespace TrustReplica.ReadApi

/-- An answer: status, where to look instead, and the content. -/
structure Response where
  status : Nat
  location : Option String
  body : Option Json

/-- An answer with content. -/
def Response.ofJson (status : Nat) (body : Json) : Response := ⟨status, none, some body⟩

/-- An answer without content. -/
def Response.ofStatus (status : Nat) : Response := ⟨status, none, none⟩

/-- What a path names; the names in it are still percent-encoded. -/
inductive Route where
  | health
  | sessions
  | session (id : String)
  | tmis
  | latest (application session template id : String)
  | tmi (application session template id version : String)
  | events
deriving DecidableEq, Repr

/-- The resource that the segments of a path name; the last one may not be empty. -/
def Route.ofSegments? (segments : List String) : Option Route :=
  if segments.getLast? = some "" then none
  else
    match segments with
    | ["health"] => some health
    | ["sessions"] => some sessions
    | ["sessions", id] => some (session id)
    | ["tmis"] => some tmis
    | ["tmis", a, s, t, i] => some (latest a s t i)
    | ["tmis", a, s, t, i, v] => some (tmi a s t i v)
    | ["events"] => some events
    | _ => none

/-- The resource that a path names. -/
def Route.ofPath? (path : String) : Option Route :=
  match Text.pieces '/' path with
  | "" :: segments => ofSegments? segments
  | _ => none

/-! ### Queries -/

/-- A name or a value of a query decoded: a plus sign stands for a blank. -/
def decodeQuery? (cs : List Char) : Option String :=
  Url.decodeText? (String.ofList (cs.map fun c => if c = '+' then ' ' else c))

/-- The decoded names of a query with their values, which are empty where none are given. -/
def queryPairs (query : List Char) : List (Option String × Option String) :=
  ((Text.splitOn '&' query).filter fun part => !part.isEmpty).map fun part =>
    let (name, value) := Text.cutAt '=' part
    (decodeQuery? name, decodeQuery? (value.getD []))

/-- How many events are listed when a query does not say. -/
def defaultLimit : Nat := 100

/-- The limit that a query sets; nothing if it is no number, or set twice. -/
def limit? (query : List Char) : Option Nat :=
  match (queryPairs query).filter fun pair => pair.1 == some "limit" with
  | [] => some defaultLimit
  | [(_, value)] => value.bind (Decimal.parse? Decimal.maxWord)
  | _ => none

/-! ### Answers -/

/-- An answer that tells what went wrong. -/
def problem (status : Nat) (code message : String) : Response :=
  .ofJson status (.object [("code", .text code), ("message", .text message)])

/-- The sizes of everything that is held. The time when the server was started is left out, as no clock is
    modelled. -/
def healthReport (r : Replica) : Json :=
  .object [("events", .natural (UInt64.ofNat r.journal.size)),
    ("sessions", .natural (UInt64.ofNat r.store.sessions.size)), ("status", .text "healthy"),
    ("tmis", .natural (UInt64.ofNat r.store.tmis.size))]

/-- One session with the summaries of the TMIs that name it. -/
def answerSession (s : Store) (id : SessionId) : Response :=
  match s.session? id with
  | some session =>
    .ofJson 200 (.object [("session", session.toJson),
      ("tmis", .array ((s.tmisOf id).map fun t => (Summary.ofTmi t).toJson))])
  | none => problem 404 "NOT_FOUND" ("session " ++ id.text ++ " not found")

/-- The listing of all TMIs. -/
def listing (s : Store) : Listing :=
  .ofList (s.tmis.toList.map fun e => (e.1.text, Summary.ofTmi e.2))

/-- What is told of a TMI when some of its versions are asked for; nothing if there is no such state. -/
def detail? (t : Tmi) : Selector → Option Detail
  | .all => some (.complete t)
  | .latest => Detail.atVersion? t t.latestVersion
  | .at v => Detail.atVersion? t v

/-- Versions of one TMI; `version` is a selector as it stands in a path. -/
def answerTmi (s : Store) (application session template id version : String) : Response :=
  match Selector.ofText? version with
  | none => problem 400 "INVALID_VERSION" (Selector.invalid version)
  | some selector =>
    let f := TmiId.canonical application session template id
    match s.tmi? f with
    | none => problem 404 "NOT_FOUND" ("TMI " ++ f.text ++ " not found")
    | some t =>
      match detail? t selector with
      | some d => .ofJson 200 d.toJson
      | none => problem 404 "VERSION_NOT_FOUND" ("TMI " ++ f.text ++ " has no state at version " ++ version)

/-- Whether a character may stand in a header. -/
def isHeaderChar (c : Char) : Bool := c == '\t' || (0x20 ≤ c.toNat && c.toNat != 0x7F)

/-- Points to another path; one that no header can hold is a failure of the server. -/
def redirect (path : String) : Response :=
  if path.toList.all isHeaderChar then ⟨307, some path, none⟩ else .ofStatus 500

/-- Where the latest version of a TMI is found. -/
def latestPath (application session template id : String) : String :=
  "/tmis/" ++ application ++ "/" ++ session ++ "/" ++ template ++ "/" ++ id ++ "/latest"

/-- Answers for a resource; a name in its path that is no text is a fault of the request. -/
def answer (r : Replica) (query : List Char) : Route → Response
  | .health => .ofJson 200 (healthReport r)
  | .sessions => .ofJson 200 (.array (r.store.sessionList.map Session.toJson))
  | .tmis => .ofJson 200 (listing r.store).toJson
  | .session id =>
    match Url.decodeText? id with
    | some id => answerSession r.store ⟨id⟩
    | none => .ofStatus 400
  | .latest a s t i =>
    match Url.decodeText? a, Url.decodeText? s, Url.decodeText? t, Url.decodeText? i with
    | some a, some s, some t, some i => redirect (latestPath a s t i)
    | _, _, _, _ => .ofStatus 400
  | .tmi a s t i v =>
    match Url.decodeText? a, Url.decodeText? s, Url.decodeText? t, Url.decodeText? i, Url.decodeText? v with
    | some a, some s, some t, some i, some v => answerTmi r.store a s t i v
    | _, _, _, _, _ => .ofStatus 400
  | .events =>
    match limit? query with
    | some limit => .ofJson 200 (.array ((r.journal.newest limit).map JournalEntry.toJson))
    | none => .ofStatus 400

/-- A request without the scheme and the authority, for one that names the server it is meant for. -/
def withoutServer (target : List Char) : List Char :=
  match Text.cutAt ':' target with
  | (scheme, some ('/' :: '/' :: rest)) =>
    if scheme.contains '/' then target else rest.dropWhile fun c => c != '/' && c != '?' && c != '#'
  | _ => target

/-- The path and the query of a request; a fragment is dropped, and an empty path is the root. -/
def cutTarget (target : String) : String × List Char :=
  let (path, query) := Text.cutAt '?' (Text.cutAt '#' (withoutServer target.toList)).1
  (if path.isEmpty then "/" else String.ofList path, query.getD [])

/-- Answers a request that reads. -/
def get (r : Replica) (target : String) : Response :=
  let (path, query) := cutTarget target
  match Route.ofPath? path with
  | some route => answer r query route
  | none => .ofStatus 404

/-- Answers a request of any method. Only reading is allowed; asking what is allowed always succeeds. -/
def respond (r : Replica) (method target : String) : Response :=
  match method with
  | "OPTIONS" => .ofStatus 200
  | "GET" => get r target
  | "HEAD" => { get r target with body := none }
  | _ => if (Route.ofPath? (cutTarget target).1).isSome then .ofStatus 405 else .ofStatus 404

end TrustReplica.ReadApi
