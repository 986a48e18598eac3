import TrustReplica.Fetch.Source
import TrustReplica.Store.Replica

/-! Filling a replica from a source of snapshots. `Replica.fetchListing` replaces the TMIs by empty
    records built from a listing, `Replica.fetchTmi` merges what is fetched of one TMI, and
    `Replica.fetchEvery` does so for every TMI in turn. The answer of a source is at hand before
    anything changes, so a failed fetch leaves everything as it was. -/

namespace TrustReplica

/-- Why a snapshot was not loaded. -/
inductive LoadError where
  | fetch (error : FetchError)
  | malformedIdentifier (f : TmiId)
deriving DecidableEq, Repr

namespace LoadError

/-- Whether loading may be tried again. -/
def isTransient : LoadError → Bool
  | fetch error => error.isTransient
  | malformedIdentifier _ => false

/-- What a message says about a snapshot that was not loaded. -/
def message : LoadError → String
  | fetch error => "fetch failed: " ++ error.message
  | malformedIdentifier f => "malformed TMI identifier: " ++ f.text

end LoadError

/-! ### The listing -/

/-- The empty record of a listed TMI: application and session are read from its key in the listing. -/
def Tmi.ofSummary (key : String) (s : Summary) : Tmi :=
  let named : TmiId := ⟨key⟩
  .empty s.fullId ⟨named.application?.getD "", named.session?.getD ⟨""⟩, s.template, s.id⟩ s.active
    s.latestVersion

/-- The records of a listing; of two entries for one TMI the later one stays. -/
def Listing.records (l : Listing) : Std.ExtTreeMap TmiId Tmi :=
  l.toList.foldl (fun tmis e => tmis.insert e.2.fullId (Tmi.ofSummary e.1 e.2)) ∅

/-! ### Merging one TMI -/

/-- The identity of a TMI that is first seen in a fetch; its identifier has to name application and
    session. -/
def Detail.identity (d : Detail) : Except LoadError Identity :=
  match d.fullId.application?, d.fullId.session? with
  | some application, some session =>
    if application.isEmpty || session.text.isEmpty then .error (.malformedIdentifier d.fullId)
    else .ok ⟨application, session, d.template, d.id⟩
  | _, _ => .error (.malformedIdentifier d.fullId)

namespace Tmi

/-- The update payloads that a detail of one version brings, if it brings any. -/
def updatesOfVersion : Option UpdateContent → Option (List Json)
  | some (.list payloads) => some payloads
  | some (.other (.object members)) => some [.object members]
  | _ => none

/-- Sets the update payloads of a version, if there are any to set. -/
def setUpdates (t : Tmi) (v : Version) : Option (List Json) → Tmi
  | some payloads => { t with updates := t.updates.insert v payloads }
  | none => t

/-- Merges the bundle that comes alone. -/
def mergeBundle (t : Tmi) : Option BundleContent → Tmi
  | some (.single bundle) => t.setBundle bundle
  | _ => t

/-- Merges the state of one version with its update payloads. -/
def mergeState (t : Tmi) (state : TmiState) (updates : Option UpdateContent) : Tmi :=
  ((t.setState state).setUpdates state.version (updatesOfVersion updates)).raiseLatest state.version

/-- Raises the latest version to the largest of some states. -/
def raiseToStates (t : Tmi) (states : VersionMap TmiState) : Tmi :=
  match states.maxKey? with
  | some v => t.raiseLatest v
  | none => t

/-- Replaces all states, and with them the updates and the bundles that come by version. -/
def mergeStates (t : Tmi) (states : VersionMap TmiState) (updates : Option UpdateContent)
    (atls : Option BundleContent) : Tmi :=
  { t.raiseToStates states with
    states := states
    updates := match updates with
      | some (.byVersion payloads) => payloads
      | _ => t.updates
    atls := match atls with
      | some (.byVersion bundles) => bundles
      | _ => t.atls }

/-- Merges a detail: a single state goes to its version, otherwise a map of states replaces all. -/
def merge (t : Tmi) (d : Detail) : Tmi :=
  let t := t.mergeBundle d.atls
  match d.state, d.states with
  | some state, _ => t.mergeState state d.updates
  | none, some states => t.mergeStates states d.updates d.atls
  | none, none => t

end Tmi

namespace Store

/-- The record that a detail is merged into: the one that is known, or an empty one. -/
def baseFor (s : Store) (d : Detail) : Except LoadError Tmi :=
  match s.tmi? d.fullId with
  | some t => .ok t
  | none => d.identity.map fun identity => .empty d.fullId identity d.active d.latestVersion

/-- Merges what was fetched of one TMI. -/
def adoptDetail (s : Store) (d : Detail) : Except LoadError Tmi × Store :=
  match s.baseFor d with
  | .ok base => (.ok (base.merge d), s.insertTmi (base.merge d))
  | .error e => (.error e, s)

/-- Replaces the TMIs by those of a listing; the sessions stay. -/
def adoptListing (s : Store) : Except FetchError Listing → Except LoadError Listing × Store
  | .ok listing => (.ok listing, { s with tmis := listing.records })
  | .error e => (.error (.fetch e), s)

/-- Merges the answer of a source for one TMI. -/
def adoptAnswer (s : Store) : Except FetchError Detail → Except LoadError Tmi × Store
  | .ok d => s.adoptDetail d
  | .error e => (.error (.fetch e), s)

end Store

/-! ### Fetching -/

/-- How many TMIs were fetched and merged, and how many were not. -/
structure FetchReport where
  loaded : Nat
  failed : Nat
deriving DecidableEq, Repr

/-- Counts one more result. -/
def FetchReport.count {α : Type} (r : FetchReport) : Except LoadError α → FetchReport
  | .ok _ => { r with loaded := r.loaded + 1 }
  | .error _ => { r with failed := r.failed + 1 }

/-- The request for every version of a TMI, by its own fields. -/
def Tmi.request (t : Tmi) : Request := ⟨t.application, t.session.text, t.template, t.id, .all⟩

namespace Store

variable {σ : Type}

/-- Fetches one TMI from a source and merges it. -/
def fetchTmi (source : Source σ) (s : Store) (world : σ) (request : Request) :
    Except LoadError Tmi × Store × σ :=
  let (answer, world) := source.fetch request world
  let (result, s) := s.adoptAnswer answer
  (result, s, world)

/-- Fetches one TMI while all are fetched; a failure does not stop the others. -/
def fetchStep (source : Source σ) (acc : FetchReport × Store × σ) (request : Request) :
    FetchReport × Store × σ :=
  let (result, s, world) := acc.2.1.fetchTmi source acc.2.2 request
  (acc.1.count result, s, world)

/-- The requests for all TMIs, in the order of their identifiers. -/
def requests (s : Store) : List Request := s.tmiList.map Tmi.request

/-- Fetches every version of every TMI that is known at the start. -/
def fetchEvery (source : Source σ) (s : Store) (world : σ) : FetchReport × Store × σ :=
  s.requests.foldl (fetchStep source) (⟨0, 0⟩, s, world)

end Store

namespace Replica

variable {σ : Type}

/-- Fetches the listing and replaces the TMIs by it. -/
def fetchListing (source : Source σ) (r : Replica) (world : σ) :
    Except LoadError Listing × Replica × σ :=
  let (answer, world) := source.list world
  let (result, store) := r.store.adoptListing answer
  (result, { r with store }, world)

/-- Fetches one TMI and merges it. -/
def fetchTmi (source : Source σ) (r : Replica) (world : σ) (request : Request) :
    Except LoadError Tmi × Replica × σ :=
  let (result, store, world) := r.store.fetchTmi source world request
  (result, { r with store }, world)

/-- Fetches every TMI and merges it. -/
def fetchEvery (source : Source σ) (r : Replica) (world : σ) : FetchReport × Replica × σ :=
  let (report, store, world) := r.store.fetchEvery source world
  (report, { r with store }, world)

end Replica

end TrustReplica
