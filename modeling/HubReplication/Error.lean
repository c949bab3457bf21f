/-
**Failures and what they mean.**

A failure has a kind, which decides how it is handled, and a message for people.  Messages cross
the wire, so a failure is a kind with a text rather than a list of causes; the modules that raise a
failure word it.

Main definitions:

* `ErrorKind`, `ReplicationError` — a failure;
* `FailureClass`, `ErrorKind.class` — how a failure is retried;
* `ReplicationError.isRetriable`, `ReplicationError.isFatal` — whether waiting can help, and
  whether the connection parks until its definition changes.
-/

set_option relaxedAutoImplicit false
set_option autoImplicit false

namespace HubReplication

/-- What kind of failure it is. -/
inductive ErrorKind where
  /-- Bad request shape or configuration rule violation. -/
  | invalidConfiguration
  /-- The certificate already has a grant on the hub. -/
  | duplicateGrant
  /-- A referenced hub, task, database or grant does not exist. -/
  | notFound
  /-- Certificate unknown or revoked, or a mode or path not granted. -/
  | authorization
  /-- The destination does not define the requested hub. -/
  | unknownHub
  /-- The peer speaks another protocol version, or not the protocol. -/
  | protocolMismatch
  /-- The destination database is idle and could not be woken in time. -/
  | databaseIdle
  /-- The destination database does not exist. -/
  | databaseMissing
  /-- The network failed or the peer is unreachable for now. -/
  | transient
  /-- No live candidate remained. -/
  | topologyExhausted
  /-- A configuration command was not committed. -/
  | consensusCommit
  /-- The document store failed. -/
  | storage
  /-- The owner was cancelled. -/
  | cancelled
deriving DecidableEq, Repr, Inhabited

/-- A failure: its kind and its message. -/
structure ReplicationError where
  kind : ErrorKind
  message : String
deriving DecidableEq, Repr, Inhabited

/-- How a failure is retried. -/
inductive FailureClass where
  /-- Rejected at the administrative boundary. -/
  | configuration
  /-- Fatal until the grant changes. -/
  | authorization
  /-- Retried with exponential backoff. -/
  | transientConnectivity
  /-- Retried after the candidates are resolved again. -/
  | topologyExhaustion
  /-- Retried by the administrative caller. -/
  | consensusCommit
  /-- No failure: the task was stopped on purpose. -/
  | cancelled
deriving DecidableEq, Repr

namespace ErrorKind

/-- Every kind. -/
def all : List ErrorKind :=
  [.invalidConfiguration, .duplicateGrant, .notFound, .authorization, .unknownHub,
    .protocolMismatch, .databaseIdle, .databaseMissing, .transient, .topologyExhausted,
    .consensusCommit, .storage, .cancelled]

/-- The name of a kind. -/
def name : ErrorKind → String
  | .invalidConfiguration => "InvalidConfiguration"
  | .duplicateGrant => "DuplicateGrant"
  | .notFound => "NotFound"
  | .authorization => "Authorization"
  | .unknownHub => "UnknownHub"
  | .protocolMismatch => "ProtocolMismatch"
  | .databaseIdle => "DatabaseIdle"
  | .databaseMissing => "DatabaseMissing"
  | .transient => "Transient"
  | .topologyExhausted => "TopologyExhausted"
  | .consensusCommit => "ConsensusCommit"
  | .storage => "Storage"
  | .cancelled => "Cancelled"

/-- The stable code of a kind, for logs and answers. -/
def code : ErrorKind → String
  | .invalidConfiguration => "AEROHUB_INVALID_CONFIGURATION"
  | .duplicateGrant => "AEROHUB_DUPLICATE_GRANT"
  | .notFound => "AEROHUB_NOT_FOUND"
  | .authorization => "AEROHUB_AUTHORIZATION"
  | .unknownHub => "AEROHUB_UNKNOWN_HUB"
  | .protocolMismatch => "AEROHUB_PROTOCOL_MISMATCH"
  | .databaseIdle => "AEROHUB_DATABASE_IDLE"
  | .databaseMissing => "AEROHUB_DATABASE_MISSING"
  | .transient => "AEROHUB_TRANSIENT"
  | .topologyExhausted => "AEROHUB_TOPOLOGY_EXHAUSTED"
  | .consensusCommit => "AEROHUB_CONSENSUS_COMMIT"
  | .storage => "AEROHUB_STORAGE"
  | .cancelled => "AEROHUB_CANCELLED"

/-- The kind of a name. -/
def ofName? (name : String) : Option ErrorKind := all.find? (·.name == name)

/-- The class that decides how a failure of this kind is retried. -/
def failureClass : ErrorKind → FailureClass
  | .invalidConfiguration | .duplicateGrant | .notFound | .unknownHub | .protocolMismatch
  | .databaseMissing => .configuration
  | .authorization => .authorization
  | .databaseIdle | .transient | .storage => .transientConnectivity
  | .topologyExhausted => .topologyExhaustion
  | .consensusCommit => .consensusCommit
  | .cancelled => .cancelled

/-- Whether trying again can succeed without a change of configuration. -/
def isRetriable (k : ErrorKind) : Bool :=
  match k.failureClass with
  | .transientConnectivity | .topologyExhaustion | .consensusCommit => true
  | _ => false

/-- Whether a connection parks until its definition changes. -/
def isFatal (k : ErrorKind) : Bool :=
  match k.failureClass with
  | .configuration | .authorization => true
  | _ => false

end ErrorKind

/-- The name of a class. -/
def FailureClass.name : FailureClass → String
  | .configuration => "Configuration"
  | .authorization => "Authorization"
  | .transientConnectivity => "TransientConnectivity"
  | .topologyExhaustion => "TopologyExhaustion"
  | .consensusCommit => "ConsensusCommit"
  | .cancelled => "Cancelled"

namespace ReplicationError

/-- A violated configuration rule. -/
def invalidConfiguration (message : String) : ReplicationError := ⟨.invalidConfiguration, message⟩

/-- A second grant of one certificate on one hub. -/
def duplicateGrant (hub thumbprint : String) : ReplicationError :=
  ⟨.duplicateGrant,
    "hub '" ++ hub ++ "' already has an access grant for certificate " ++ thumbprint⟩

/-- Something referenced that does not exist. -/
def notFound (message : String) : ReplicationError := ⟨.notFound, message⟩

/-- A refused certificate, mode or path. -/
def authorization (message : String) : ReplicationError := ⟨.authorization, message⟩

/-- A hub that the database does not define. -/
def unknownHub (hub database : String) : ReplicationError :=
  ⟨.unknownHub, "database '" ++ database ++ "' does not define hub '" ++ hub ++ "'"⟩

/-- A peer that does not follow the protocol. -/
def protocolMismatch (message : String) : ReplicationError := ⟨.protocolMismatch, message⟩

/-- A database that is idle and did not load. -/
def databaseIdle (database : String) : ReplicationError :=
  ⟨.databaseIdle, "database '" ++ database ++ "' is idle and could not be loaded"⟩

/-- A database that does not exist. -/
def databaseMissing (database : String) : ReplicationError :=
  ⟨.databaseMissing, "database '" ++ database ++ "' does not exist"⟩

/-- A failure that may pass. -/
def transient (message : String) : ReplicationError := ⟨.transient, message⟩

/-- No candidate left. -/
def topologyExhausted (message : String) : ReplicationError := ⟨.topologyExhausted, message⟩

/-- A command that was not committed. -/
def consensusCommit (message : String) : ReplicationError := ⟨.consensusCommit, message⟩

/-- A failure of the document store. -/
def storage (message : String) : ReplicationError := ⟨.storage, message⟩

/-- A cancelled owner. -/
def cancelled (message : String) : ReplicationError := ⟨.cancelled, message⟩

/-- Whether trying again can succeed without a change of configuration. -/
def isRetriable (e : ReplicationError) : Bool := e.kind.isRetriable

/-- Whether a connection parks until its definition changes. -/
def isFatal (e : ReplicationError) : Bool := e.kind.isFatal

/-- The failure as one line. -/
def display (e : ReplicationError) : String :=
  "ReplicationError(" ++ e.kind.name ++ "): " ++ e.message

end ReplicationError

/-- An answer or a failure. -/
abbrev Outcome (α : Type) := Except ReplicationError α

/-- No failure is both retried and parked on. -/
theorem ErrorKind.not_isFatal_of_isRetriable {k : ErrorKind} (h : k.isRetriable = true) :
    k.isFatal = false := by
  cases k <;> first | rfl | simp [isRetriable, failureClass] at h

end HubReplication
