import TrustReplica.Fetch.Endpoint
import TrustReplica.Fetch.Retrying
import TrustReplica.Json.Printer
import TrustReplica.Main
import TrustReplica.ReadApi
import TrustReplica.Settings.Startup
import TrustReplica.Store.Resync
import TrustReplica.Stream.Subscription
import TrustReplica.Proofs.Locality
import TrustReplica.Proofs.Fields
import TrustReplica.Proofs.Merging
import TrustReplica.Proofs.Operations
import TrustReplica.Proofs.FirstSpawn
import TrustReplica.Proofs.Updates
import TrustReplica.Proofs.Redelivery
import TrustReplica.Proofs.Sessions
import TrustReplica.Proofs.Soundness
import TrustReplica.Proofs.Persistence
import TrustReplica.Proofs.Commutation
import TrustReplica.Proofs.FiniteFloat
import TrustReplica.Proofs.Identifiers
import TrustReplica.Proofs.Readers
import TrustReplica.Proofs.Finiteness
import TrustReplica.Proofs.RoundTrip
import TrustReplica.Proofs.FetchFormat
import TrustReplica.Proofs.Bootstrap
import TrustReplica.Proofs.Reporting
import TrustReplica.Proofs.Precedence
import TrustReplica.Proofs.Connection
import TrustReplica.Proofs.EventFormat
import TrustReplica.Proofs.Journaling
import TrustReplica.Proofs.InTurn
import TrustReplica.Proofs.Layering
import TrustReplica.Proofs.Utf8
import TrustReplica.Proofs.Percent
import TrustReplica.Proofs.Redirection
import TrustReplica.Proofs.LoneUpdate
import TrustReplica.Proofs.Relisting
import TrustReplica.Proofs.Visiting
import TrustReplica.Proofs.JsonMembers
import TrustReplica.Proofs.FileLayer
import TrustReplica.Proofs.PushedState
import TrustReplica.Proofs.Retries
import TrustReplica.Proofs.ReconnectDelays
import TrustReplica.Proofs.Addressing
import TrustReplica.Proofs.Overlay
import TrustReplica.Proofs.Framing
