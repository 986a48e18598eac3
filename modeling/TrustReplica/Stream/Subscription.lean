import TrustReplica.Store.Resync
import TrustReplica.Stream.Backoff
import TrustReplica.Stream.Frame

/-! Following a push stream. Every connection starts with a resync from the listing; then the messages
    of the stream are applied one by one, in their order. A resync that fails is made up for by the next
    connection, and between connections there is a delay. -/

namespace TrustReplica

/-- What one connection did before it ended. -/
structure ConnectionReport where
  resynced : Bool
  tally : Tally
deriving DecidableEq, Repr

namespace Replica

variable {σ : Type}

/-- Loads the listing, and every TMI of it if that is wished; tells whether the listing was loaded. -/
def resync (source : Source σ) (full : Bool) (r : Replica) (world : σ) : Bool × Replica × σ :=
  match r.fetchListing source world with
  | (.ok listing, r, world) =>
    if full && !listing.isEmpty then
      let (_, r, world) := r.fetchEvery source world
      (true, r, world)
    else (true, r, world)
  | (.error _, r, world) => (false, r, world)

/-- Applies every message of a stream up to its end or failure. -/
def follow (acc : Tally × Replica) (items : List StreamItem) : Except StreamError Tally × Replica :=
  match _h : takeMessages items with
  | (.ok (some messages), rest) => follow (messages.foldl receiveCounting acc) rest
  | (.ok none, _) => (.ok acc.1, acc.2)
  | (.error e, _) => (.error e, acc.2)
termination_by items.length
decreasing_by exact takeMessages_length _h

/-- One connection: a resync, then the stream. -/
def watchStream (source : Source σ) (full : Bool) (r : Replica) (world : σ)
    (items : List StreamItem) : Except StreamError ConnectionReport × Replica × σ :=
  let (resynced, r, world) := r.resync source full world
  let (result, r) := follow (Tally.zero, r) items
  (result.map fun tally => ⟨resynced, tally⟩, r, world)

end Replica

/-- An attempt to connect: the peer cannot be reached, or it delivers a stream. -/
inductive Attempt where
  | refused
  | connected (items : List StreamItem)

/-- A subscription between two attempts to connect. -/
structure Subscription (σ : Type) where
  replica : Replica
  world : σ
  backoff : Backoff
  connections : Nat
  /-- The delay after each attempt, the last one first. -/
  delays : List Duration

namespace Subscription

variable {σ : Type}

/-- A subscription that has not connected yet. -/
def start (r : Replica) (world : σ) (backoff : Backoff) : Subscription σ := ⟨r, world, backoff, 0, []⟩

/-- Waits for the next delay. -/
def pause (s : Subscription σ) : Subscription σ :=
  let (delay, backoff) := s.backoff.next
  { s with backoff, delays := delay :: s.delays }

/-- One attempt and the delay after it; a connection resets the delays. -/
def attempt (source : Source σ) (full : Bool) (s : Subscription σ) : Attempt → Subscription σ
  | .refused => s.pause
  | .connected items =>
    let (_, replica, world) := s.replica.watchStream source full s.world items
    { s with replica, world, backoff := s.backoff.reset, connections := s.connections + 1 }.pause

/-- Many attempts, one after the other. -/
def run (source : Source σ) (full : Bool) (s : Subscription σ) (attempts : List Attempt) :
    Subscription σ :=
  attempts.foldl (attempt source full) s

end Subscription

end TrustReplica
