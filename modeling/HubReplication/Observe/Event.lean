/-
**Events.**

Every line that is logged names an event of a closed vocabulary, so that what happens to a
connection can be followed across nodes by one name.

Main definitions:

* `Event`, `Event.text` — the vocabulary;
* `Event.isFatal` — whether a task stopped until somebody acts;
* `Severity`, `LogEntry` — an event as it is logged.
-/

set_option relaxedAutoImplicit false
set_option autoImplicit false

namespace HubReplication

/-- Something worth a line in the log. -/
inductive Event where
  /-- Node startup begins. -/
  | bootStart
  /-- Node startup complete. -/
  | bootComplete
  /-- Shutdown initiated. -/
  | shutdownStart
  /-- Shutdown complete. -/
  | shutdownComplete
  /-- Configuration loaded. -/
  | configLoaded
  /-- Admin HTTP surface serving. -/
  | serving
  /-- Replication listener accepting. -/
  | replicationListening
  /-- Command applied to cluster state. -/
  | consensusApplied
  /-- Command consumed an index but was rejected at apply time. -/
  | consensusApplyRejected
  /-- Proposal not committed. -/
  | consensusCommitFailed
  /-- Proposal with an already-seen request id. -/
  | consensusDuplicateRequest
  /-- Hub definition committed. -/
  | hubDefined
  /-- Access grant committed. -/
  | accessRegistered
  /-- Access grant removed. -/
  | accessUnregistered
  /-- Sink definition committed. -/
  | sinkDefined
  /-- External replication committed. -/
  | externalReplicationDefined
  /-- Connection string committed. -/
  | connectionStringDefined
  /-- Task enabled or disabled. -/
  | taskToggled
  /-- Task deleted. -/
  | taskDeleted
  /-- Admin request rejected before reaching consensus. -/
  | adminRequestRejected
  /-- Dialing a candidate. -/
  | connectionAttempt
  /-- Candidate failed, trying the next one. -/
  | connectionFailed
  /-- Acceptor admitted a handshake. -/
  | handshakeAccepted
  /-- Acceptor refused a handshake. -/
  | handshakeRejected
  /-- Connection entered Streaming. -/
  | streamingStarted
  /-- Connection left Streaming. -/
  | streamingStopped
  /-- Waiting before the next round of candidates. -/
  | backoff
  /-- Every candidate failed. -/
  | topologyExhausted
  /-- Fatal failure, parked in Error until the definition changes. -/
  | connectionParked
  /-- Machine disposed. -/
  | connectionDisposed
  /-- Batch written to the peer. -/
  | batchSent
  /-- Peer batch applied locally. -/
  | batchApplied
  /-- Outgoing task started on this node. -/
  | taskStarted
  /-- Outgoing task stopped on this node. -/
  | taskStopped
  /-- Incoming connection closed because its hub or grant went away. -/
  | incomingRevoked
  /-- Database loaded into memory. -/
  | databaseLoaded
  /-- Database unloaded after idling. -/
  | databaseUnloaded
  /-- Unload skipped because connections are active. -/
  | unloadVetoed
deriving DecidableEq, Repr

namespace Event

/-- Every event. -/
def all : List Event := [
    .bootStart, .bootComplete, .shutdownStart, .shutdownComplete, .configLoaded, .serving,
    .replicationListening, .consensusApplied, .consensusApplyRejected, .consensusCommitFailed,
    .consensusDuplicateRequest, .hubDefined, .accessRegistered, .accessUnregistered, .sinkDefined,
    .externalReplicationDefined, .connectionStringDefined, .taskToggled, .taskDeleted,
    .adminRequestRejected, .connectionAttempt, .connectionFailed, .handshakeAccepted,
    .handshakeRejected, .streamingStarted, .streamingStopped, .backoff, .topologyExhausted,
    .connectionParked, .connectionDisposed, .batchSent, .batchApplied, .taskStarted, .taskStopped,
    .incomingRevoked, .databaseLoaded, .databaseUnloaded, .unloadVetoed]

/-- The name that variants of the vocabulary go by. -/
def name : Event → String
  | .bootStart => "BootStart"
  | .bootComplete => "BootComplete"
  | .shutdownStart => "ShutdownStart"
  | .shutdownComplete => "ShutdownComplete"
  | .configLoaded => "ConfigLoaded"
  | .serving => "Serving"
  | .replicationListening => "ReplicationListening"
  | .consensusApplied => "ConsensusApplied"
  | .consensusApplyRejected => "ConsensusApplyRejected"
  | .consensusCommitFailed => "ConsensusCommitFailed"
  | .consensusDuplicateRequest => "ConsensusDuplicateRequest"
  | .hubDefined => "HubDefined"
  | .accessRegistered => "AccessRegistered"
  | .accessUnregistered => "AccessUnregistered"
  | .sinkDefined => "SinkDefined"
  | .externalReplicationDefined => "ExternalReplicationDefined"
  | .connectionStringDefined => "ConnectionStringDefined"
  | .taskToggled => "TaskToggled"
  | .taskDeleted => "TaskDeleted"
  | .adminRequestRejected => "AdminRequestRejected"
  | .connectionAttempt => "ConnectionAttempt"
  | .connectionFailed => "ConnectionFailed"
  | .handshakeAccepted => "HandshakeAccepted"
  | .handshakeRejected => "HandshakeRejected"
  | .streamingStarted => "StreamingStarted"
  | .streamingStopped => "StreamingStopped"
  | .backoff => "Backoff"
  | .topologyExhausted => "TopologyExhausted"
  | .connectionParked => "ConnectionParked"
  | .connectionDisposed => "ConnectionDisposed"
  | .batchSent => "BatchSent"
  | .batchApplied => "BatchApplied"
  | .taskStarted => "TaskStarted"
  | .taskStopped => "TaskStopped"
  | .incomingRevoked => "IncomingRevoked"
  | .databaseLoaded => "DatabaseLoaded"
  | .databaseUnloaded => "DatabaseUnloaded"
  | .unloadVetoed => "UnloadVetoed"

/-- The text that is logged. -/
def text : Event → String
  | .bootStart => "AEROHUB_STARTUP_BEGIN"
  | .bootComplete => "AEROHUB_STARTUP_COMPLETE"
  | .shutdownStart => "SHUTDOWN_START"
  | .shutdownComplete => "SHUTDOWN_COMPLETE"
  | .configLoaded => "CONFIG_LOADED"
  | .serving => "AEROHUB_SERVING"
  | .replicationListening => "REPLICATION_LISTENING"
  | .consensusApplied => "CONSENSUS_APPLIED"
  | .consensusApplyRejected => "CONSENSUS_APPLY_REJECTED"
  | .consensusCommitFailed => "CONSENSUS_COMMIT_FAILED"
  | .consensusDuplicateRequest => "CONSENSUS_DUPLICATE_REQUEST"
  | .hubDefined => "HUB_DEFINED"
  | .accessRegistered => "ACCESS_REGISTERED"
  | .accessUnregistered => "ACCESS_UNREGISTERED"
  | .sinkDefined => "SINK_DEFINED"
  | .externalReplicationDefined => "EXTERNAL_REPLICATION_DEFINED"
  | .connectionStringDefined => "CONNECTION_STRING_DEFINED"
  | .taskToggled => "TASK_TOGGLED"
  | .taskDeleted => "TASK_DELETED"
  | .adminRequestRejected => "ADMIN_REQUEST_REJECTED"
  | .connectionAttempt => "CONNECTION_ATTEMPT"
  | .connectionFailed => "CONNECTION_FAILED"
  | .handshakeAccepted => "HANDSHAKE_ACCEPTED"
  | .handshakeRejected => "HANDSHAKE_REJECTED"
  | .streamingStarted => "STREAMING_STARTED"
  | .streamingStopped => "STREAMING_STOPPED"
  | .backoff => "BACKOFF"
  | .topologyExhausted => "TOPOLOGY_EXHAUSTED"
  | .connectionParked => "CONNECTION_PARKED"
  | .connectionDisposed => "CONNECTION_DISPOSED"
  | .batchSent => "BATCH_SENT"
  | .batchApplied => "BATCH_APPLIED"
  | .taskStarted => "TASK_STARTED"
  | .taskStopped => "TASK_STOPPED"
  | .incomingRevoked => "INCOMING_REVOKED"
  | .databaseLoaded => "DATABASE_LOADED"
  | .databaseUnloaded => "DATABASE_UNLOADED"
  | .unloadVetoed => "UNLOAD_VETOED"

/-- The event of a name. -/
def ofName? (name : String) : Option Event := all.find? (·.name == name)

/-- Whether a task stopped replicating until somebody acts. -/
def isFatal : Event → Bool
  | .connectionParked => true
  | _ => false

end Event

/-- How much an event matters. -/
inductive Severity where
  | debug
  | info
  | warn
  | error
deriving DecidableEq, Repr

/-- The name of a severity. -/
def Severity.name : Severity → String
  | .debug => "DEBUG"
  | .info => "INFO"
  | .warn => "WARN"
  | .error => "ERROR"

/-- A line of the log: the event, how much it matters, and a reason where there is one. -/
structure LogEntry where
  severity : Severity
  event : Event
  reason : Option String
deriving DecidableEq

namespace LogEntry

/-- An event without a reason. -/
def plain (severity : Severity) (event : Event) : LogEntry := ⟨severity, event, none⟩

/-- The line in short. -/
def text (e : LogEntry) : String :=
  match e.reason with
  | some reason => e.severity.name ++ " " ++ e.event.text ++ " (" ++ reason ++ ")"
  | none => e.severity.name ++ " " ++ e.event.text

end LogEntry

end HubReplication
