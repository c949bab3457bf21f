import HubReplication.Admin.Error
import HubReplication.Admin.Operation
import HubReplication.Admin.Query
import HubReplication.Admin.Registry
import HubReplication.Admin.Request
import HubReplication.Admin.Target
import HubReplication.Beat
import HubReplication.Certificate.Base64
import HubReplication.Certificate.Basic
import HubReplication.Certificate.Sha256
import HubReplication.ChangeVector.Basic
import HubReplication.ChangeVector.Text
import HubReplication.Cli.Arguments
import HubReplication.Cli.Run
import HubReplication.Cluster.Command
import HubReplication.Cluster.Consensus
import HubReplication.Cluster.Record
import HubReplication.Cluster.State
import HubReplication.Cluster.Topology
import HubReplication.Config.Bootstrap
import HubReplication.Config.LogFilter
import HubReplication.Config.Node
import HubReplication.Connection.Acceptor
import HubReplication.Connection.Activity
import HubReplication.Connection.Admission
import HubReplication.Connection.Dialer
import HubReplication.Connection.Failures
import HubReplication.Connection.Runtime
import HubReplication.Connection.Side
import HubReplication.Connection.Status
import HubReplication.Decimal.Shortest
import HubReplication.Definition.Dialer
import HubReplication.Definition.Hub
import HubReplication.Definition.Mode
import HubReplication.Definition.PathFilter
import HubReplication.Destination
import HubReplication.Error
import HubReplication.Fleet.Administration
import HubReplication.Fleet.Basic
import HubReplication.Fleet.Clock
import HubReplication.Fleet.Connections
import HubReplication.Fleet.Jobs
import HubReplication.Fleet.Loading
import HubReplication.Fleet.Peer
import HubReplication.Fleet.Registry
import HubReplication.Fleet.Setup
import HubReplication.Frame.Basic
import HubReplication.Frame.Codec
import HubReplication.Frame.Deflate
import HubReplication.Frame.Stored
import HubReplication.Frame.Wire
import HubReplication.Hosting.Loaded
import HubReplication.Hosting.Node
import HubReplication.Instant.Basic
import HubReplication.Instant.Text
import HubReplication.Json.Basic
import HubReplication.Json.Decode
import HubReplication.Json.Number
import HubReplication.Json.Parser
import HubReplication.Json.Printer
import HubReplication.Main
import HubReplication.Network
import HubReplication.Observe.Event
import HubReplication.Observe.Metrics
import HubReplication.Pattern.Basic
import HubReplication.Pattern.Parser
import HubReplication.Proofs.Admin.Changes
import HubReplication.Proofs.Admin.Costs
import HubReplication.Proofs.Admin.Retries
import HubReplication.Proofs.Backoff
import HubReplication.Proofs.Bindings
import HubReplication.Proofs.ChangeVector.Lattice
import HubReplication.Proofs.ChangeVector.Listing
import HubReplication.Proofs.ChangeVector.Order
import HubReplication.Proofs.ChangeVector.Text
import HubReplication.Proofs.Cluster.Failures
import HubReplication.Proofs.Cluster.Grants
import HubReplication.Proofs.Cluster.Holdings
import HubReplication.Proofs.Cluster.Independence
import HubReplication.Proofs.Cluster.InlineCertificates
import HubReplication.Proofs.Cluster.Log
import HubReplication.Proofs.Cluster.Lookup
import HubReplication.Proofs.Cluster.Reachable
import HubReplication.Proofs.Cluster.Record
import HubReplication.Proofs.Cluster.Replay
import HubReplication.Proofs.Cluster.Requests
import HubReplication.Proofs.Cluster.Tasks
import HubReplication.Proofs.Config.Bootstrap
import HubReplication.Proofs.Connection.Bounds
import HubReplication.Proofs.Connection.Call
import HubReplication.Proofs.Connection.Entitlement
import HubReplication.Proofs.Connection.Failover
import HubReplication.Proofs.Connection.Gate
import HubReplication.Proofs.Connection.Hearing
import HubReplication.Proofs.Connection.Opening
import HubReplication.Proofs.Connection.Peers
import HubReplication.Proofs.Connection.Perseverance
import HubReplication.Proofs.Connection.Readmission
import HubReplication.Proofs.Connection.Refusal
import HubReplication.Proofs.Connection.Sides
import HubReplication.Proofs.Destination.Candidates
import HubReplication.Proofs.Destination.Order
import HubReplication.Proofs.Exchange.Basic
import HubReplication.Proofs.Exchange.Delivery
import HubReplication.Proofs.Exchange.Ledger
import HubReplication.Proofs.Exchange.Paths
import HubReplication.Proofs.Exchange.Progress
import HubReplication.Proofs.Exchange.Versions
import HubReplication.Proofs.Fleet.Calls
import HubReplication.Proofs.Fleet.Chores
import HubReplication.Proofs.Fleet.Dialing
import HubReplication.Proofs.Fleet.Occupancy
import HubReplication.Proofs.Fleet.Reconciling
import HubReplication.Proofs.Fleet.Staffing
import HubReplication.Proofs.Fleet.Stopping
import HubReplication.Proofs.Fleet.Tenancy
import HubReplication.Proofs.Fleet.Upkeep
import HubReplication.Proofs.Frame.Limit
import HubReplication.Proofs.Frame.Response
import HubReplication.Proofs.Frame.Size
import HubReplication.Proofs.Frame.Stream
import HubReplication.Proofs.Frame.Text
import HubReplication.Proofs.Hosting.Homes
import HubReplication.Proofs.Hosting.Placement
import HubReplication.Proofs.Hosting.Reconciliation
import HubReplication.Proofs.Hosting.Revocation
import HubReplication.Proofs.Instant.Range
import HubReplication.Proofs.Instant.Timeline
import HubReplication.Proofs.Json.Digits
import HubReplication.Proofs.Json.Quote
import HubReplication.Proofs.Json.Text
import HubReplication.Proofs.PathFilter.Coverage
import HubReplication.Proofs.PathFilter.Grammar
import HubReplication.Proofs.Replicas.Basic
import HubReplication.Proofs.Replicas.Settling
import HubReplication.Proofs.Replicas.Versions
import HubReplication.Proofs.Replicas.Wire
import HubReplication.Proofs.Session.Acknowledgements
import HubReplication.Proofs.Session.Effect
import HubReplication.Proofs.Session.Endings
import HubReplication.Proofs.Session.Leave
import HubReplication.Proofs.Session.Noticing
import HubReplication.Proofs.Session.Pace
import HubReplication.Proofs.Session.Selection
import HubReplication.Proofs.Session.Stopping
import HubReplication.Proofs.Session.Wakeups
import HubReplication.Proofs.Store.Chronicle
import HubReplication.Proofs.Store.Feed
import HubReplication.Proofs.Store.Growth
import HubReplication.Proofs.Store.History
import HubReplication.Proofs.Store.Index
import HubReplication.Proofs.Store.Redelivery
import HubReplication.Proofs.Store.Visibility
import HubReplication.Proofs.Text.Bytes
import HubReplication.Proofs.Text.Case
import HubReplication.Proofs.Text.Parts
import HubReplication.Proofs.Text.Utf8
import HubReplication.Retry
import HubReplication.Security
import HubReplication.Session.Basic
import HubReplication.Session.Batches
import HubReplication.Session.Turn
import HubReplication.Settings
import HubReplication.Socket.Address
import HubReplication.Socket.Dial
import HubReplication.SortedMap
import HubReplication.Store.Basic
import HubReplication.Store.Item
import HubReplication.Text.Ascii
import HubReplication.Text.Blank
import HubReplication.Text.Duration
import HubReplication.Text.Lowercase
import HubReplication.Text.Percent
import HubReplication.Text.Property
import HubReplication.Text.Repair
import HubReplication.Text.Split
