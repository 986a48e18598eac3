import TrustReplica.Fetch.Address
import TrustReplica.Fetch.Error
import TrustReplica.Fetch.Snapshot

/-! Where snapshots come from. A source answers for the listing and for one TMI at a time, and may change
    with every call: its state is threaded through. -/

namespace TrustReplica

/-- A source of snapshots with state of its own. -/
structure Source (σ : Type) where
  list : σ → Except FetchError Listing × σ
  fetch : Request → σ → Except FetchError Detail × σ

end TrustReplica
