import TrustReplica.Proofs.Merging

/-! Everything that can be done to a replica, in any order. An operation applies an event, receives a
    message, or fetches in one of three ways; a fetch comes with the source that answers it, so that it may
    be answered by anything. To the store each operation does a list of changes (`Operation.changes`): an
    event, a listing or an answer about one TMI. So a run of operations is a run of changes
    (`Replica.store_performAll`), and what every change keeps, every run keeps. -/

namespace TrustReplica

/-- One thing that is done to a replica; a fetch brings its source, in the state that this is in. -/
inductive Operation : Type 1 where
  | apply (e : Event)
  | receive (raw : String)
  | fetchListing {σ : Type} (source : Source σ) (world : σ)
  | fetchTmi {σ : Type} (source : Source σ) (world : σ) (request : Request)
  | fetchEvery {σ : Type} (source : Source σ) (world : σ)

/-- What a store takes in at a time. -/
inductive Change where
  | event (e : Event)
  | listing (answer : Except FetchError Listing)
  | detail (answer : Except FetchError Detail)

namespace Replica

/-- A replica after an operation. -/
def perform (r : Replica) : Operation → Replica
  | .apply e => (r.apply e).2
  | .receive raw => (r.receive raw).2
  | .fetchListing source world => (r.fetchListing source world).2.1
  | .fetchTmi source world request => (r.fetchTmi source world request).2.1
  | .fetchEvery source world => (r.fetchEvery source world).2.1

/-- A replica after many operations, in their order. -/
def performAll (r : Replica) (ops : List Operation) : Replica := ops.foldl perform r

end Replica

namespace Store

/-- A store after a change. -/
def take (s : Store) : Change → Store
  | .event e => (s.apply e).2
  | .listing answer => (s.adoptListing answer).2
  | .detail answer => (s.adoptAnswer answer).2

/-- A store after many changes, in their order. -/
def takeAll (s : Store) (changes : List Change) : Store := changes.foldl take s

end Store

/-! ### What operations do to a store -/

/-- The answers of a source to requests, one after the other. -/
def Source.answers {σ : Type} (source : Source σ) : List Request → σ → List (Except FetchError Detail)
  | [], _ => []
  | request :: requests, world =>
    (source.fetch request world).1 :: source.answers requests (source.fetch request world).2

/-- The changes that an operation does to a store. -/
def Operation.changes (s : Store) : Operation → List Change
  | apply e => [.event e]
  | receive raw => (Event.ofText raw).toOption.toList.map .event
  | fetchListing source world => [.listing (source.list world).1]
  | fetchTmi source world request => [.detail (source.fetch request world).1]
  | fetchEvery source world => (source.answers s.requests world).map .detail

/-- The changes that many operations do to a replica. -/
def Replica.changes (r : Replica) : List Operation → List Change
  | [] => []
  | o :: ops => o.changes r.store ++ (r.perform o).changes ops

theorem Store.takeAll_append (s : Store) (before after : List Change) :
    s.takeAll (before ++ after) = (s.takeAll before).takeAll after := List.foldl_append

/-- Fetching TMIs one after the other merges the answers in their order. -/
theorem Store.foldl_fetchStep {σ : Type} (source : Source σ) (requests : List Request)
    (report : FetchReport) (s : Store) (world : σ) :
    (requests.foldl (fetchStep source) (report, s, world)).2.1 =
      s.takeAll ((source.answers requests world).map .detail) := by
  induction requests generalizing report s world with
  | nil => rfl
  | cons request requests ih => exact ih _ _ _

namespace Replica

variable (r : Replica)

/-- A message is answered, and changes the store, as the event that it writes; a message that writes none is
    malformed and changes nothing. -/
theorem receive_eq_apply (raw : String) :
    ((r.receive raw).1, (r.receive raw).2.store) =
      match Event.ofText raw with
      | .ok e => r.store.apply e
      | .error _ => (.malformed, r.store) := by
  rw [receive, Event.ofText]
  cases Json.parse raw with
  | error _ => rfl
  | ok payload =>
    simp only [applyJson]
    cases Event.ofJson payload <;> rfl

/-- A message changes the store as the event does that it writes, if it writes one. -/
theorem store_receive (raw : String) : (r.receive raw).2.store =
    r.store.takeAll ((Event.ofText raw).toOption.toList.map .event) := by
  have hstore := congrArg Prod.snd (r.receive_eq_apply raw)
  refine hstore.trans ?_
  cases Event.ofText raw <;> rfl

theorem store_perform (o : Operation) :
    (r.perform o).store = r.store.takeAll (o.changes r.store) := by
  cases o with
  | apply e => rfl
  | receive raw => exact r.store_receive raw
  | fetchListing source world => rfl
  | fetchTmi source world request => rfl
  | fetchEvery source world => exact Store.foldl_fetchStep source r.store.requests _ r.store world

/-- The store after a run is the store after the changes of the run. -/
theorem store_performAll (ops : List Operation) :
    (r.performAll ops).store = r.store.takeAll (r.changes ops) := by
  induction ops generalizing r with
  | nil => rfl
  | cons o ops ih =>
    rw [changes, Store.takeAll_append, ← store_perform]
    exact ih (r.perform o)

theorem performAll_append (before after : List Operation) :
    r.performAll (before ++ after) = (r.performAll before).performAll after := List.foldl_append

end Replica

/-! ### One record at a time -/

namespace Change

/-- What a change makes of the record that is held of a TMI, if one is held. -/
def onTmi (f : TmiId) (c : Change) (held : Option Tmi) : Option Tmi :=
  match c with
  | event e => e.onTmi f held
  | listing (.ok l) => l.records[f]?
  | detail (.ok d) => d.onTmi f held
  | listing (.error _) | detail (.error _) => held

/-- What a change makes of the session that is held under an identifier, if one is held. -/
def onSession (id : SessionId) (c : Change) (held : Option Session) : Option Session :=
  match c with
  | event e => e.onSession id held
  | listing _ | detail _ => held

end Change

namespace Store

variable (s : Store) (c : Change)

theorem session?_take (id : SessionId) : (s.take c).session? id = c.onSession id (s.session? id) := by
  cases c with
  | event e => exact session?_apply s e id
  | listing answer => exact congrArg (fun sessions => sessions[id]?) (s.sessions_adoptListing answer)
  | detail answer => exact congrArg (fun sessions => sessions[id]?) (s.sessions_adoptAnswer answer)

/-- The record of a TMI after a change depends on the record before alone, in a store that has every TMI
    under its own identifier. -/
theorem tmi?_take (hkey : ∀ f t, s.tmi? f = some t → t.fullId = f) (f : TmiId) :
    (s.take c).tmi? f = c.onTmi f (s.tmi? f) := by
  cases c with
  | event e => exact tmi?_apply s e f
  | listing answer => cases answer <;> rfl
  | detail answer =>
    cases answer with
    | error _ => rfl
    | ok d => exact tmi?_adoptDetail s (hkey d.fullId) f

end Store

end TrustReplica
