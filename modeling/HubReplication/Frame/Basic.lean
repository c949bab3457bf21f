/-
**Frames.**

Two nodes talk in frames.  The dialer sends a handshake and the acceptor answers it: accepted, with
the directions both sides agreed on and how far the acceptor took over the dialer's data before, or
rejected, with a reason.  When the acceptor will send data, the dialer resumes it after the last
etag it took over.  From then on batches, acknowledgements and heartbeats pass until one side
closes.

Main definitions:

* `Handshake`, `HandshakeResponse`, `Batch`, `Ack`, `Frame` — what is said;
* `RejectionReason` — why a handshake is refused, and its failure on either side.
-/

import HubReplication.Destination
import HubReplication.Store.Item

set_option relaxedAutoImplicit false
set_option autoImplicit false

namespace HubReplication

/-- The version of the protocol; peers must have the same. -/
def protocolVersion : Nat := 60000

/-- What kind of task dials. -/
inductive ConnectionKind where
  /-- A sink dials a hub. -/
  | sink
  /-- An external replication pushes to a database. -/
  | external
deriving DecidableEq, Repr

namespace ConnectionKind

/-- The name of a kind. -/
def name : ConnectionKind → String
  | .sink => "PullReplicationAsSink"
  | .external => "ExternalReplication"

/-- The kind of a value. -/
def ofJson? (reading : Json.Reading) (j : Json) : Option ConnectionKind :=
  match j.variant? reading with
  | some "PullReplicationAsSink" => some .sink
  | some "ExternalReplication" => some .external
  | _ => none

end ConnectionKind

/-! ### Handshakes -/

/-- The first frame of a connection. -/
structure Handshake where
  version : Nat
  kind : ConnectionKind
  /-- The database on the acceptor. -/
  database : String
  /-- The hub, where a sink dials. -/
  hub : Option String
  requestedMode : Mode
  sourceDatabase : String
  sourceDatabaseId : String
  sourceNode : Option String
  /-- The public certificate of the dialer. -/
  certificate : Option String
  compression : Bool
deriving DecidableEq

namespace Handshake

/-- The handshake as a value. -/
def toJson (h : Handshake) : Json :=
  .object [
    ("ProtocolVersion", Json.nat h.version),
    ("Kind", .string h.kind.name),
    ("Database", .string h.database),
    ("HubName", Json.optString h.hub),
    ("RequestedMode", h.requestedMode.toJson),
    ("SourceDatabase", .string h.sourceDatabase),
    ("SourceDatabaseId", .string h.sourceDatabaseId),
    ("SourceNode", Json.optString h.sourceNode),
    ("Certificate", Json.optString h.certificate),
    ("Compression", .bool h.compression)]

/-- The handshake of a value. -/
def ofJson? (reading : Json.Reading) (j : Json) : Option Handshake := do
  match ← j.record? ["ProtocolVersion", "Kind", "Database", "HubName", "RequestedMode",
      "SourceDatabase", "SourceDatabaseId", "SourceNode", "Certificate", "Compression"] with
  | [version, kind, database, hub, mode, sourceDatabase, sourceId, sourceNode, certificate,
      compression] =>
    return {
      version := ← Json.required (Json.asNat UInt32.size) version
      kind := ← Json.required (ConnectionKind.ofJson? reading) kind
      database := ← Json.required Json.asText database
      hub := ← Json.nullable Json.asText hub
      requestedMode := ← Json.required Mode.ofJson? mode
      sourceDatabase := ← Json.required Json.asText sourceDatabase
      sourceDatabaseId := ← Json.required Json.asText sourceId
      sourceNode := ← Json.nullable Json.asText sourceNode
      certificate := ← Json.nullable Json.asText certificate
      compression := ← Json.required Json.asBool compression }
  | _ => none

end Handshake

/-- Why a handshake is refused. -/
inductive RejectionReason where
  | versionMismatch
  | unknownHub
  | hubDisabled
  | unauthorized
  | databaseIdle
  | databaseMissing
  /-- The node does not host the database; another candidate may. -/
  | notMember
deriving DecidableEq, Repr

namespace RejectionReason

/-- Every reason. -/
def all : List RejectionReason :=
  [.versionMismatch, .unknownHub, .hubDisabled, .unauthorized, .databaseIdle, .databaseMissing,
    .notMember]

/-- The name of a reason. -/
def name : RejectionReason → String
  | .versionMismatch => "VersionMismatch"
  | .unknownHub => "UnknownHub"
  | .hubDisabled => "HubDisabled"
  | .unauthorized => "Unauthorized"
  | .databaseIdle => "DatabaseIdle"
  | .databaseMissing => "DatabaseMissing"
  | .notMember => "NotMember"

/-- The reason of a name. -/
def ofName? (name : String) : Option RejectionReason := all.find? (·.name == name)

/-- The reason of a value. -/
def ofJson? (reading : Json.Reading) (j : Json) : Option RejectionReason :=
  (j.variant? reading).bind ofName?

/-- The kind of failure that the dialer takes a reason for. -/
def kind : RejectionReason → ErrorKind
  | .versionMismatch => .protocolMismatch
  | .unknownHub => .unknownHub
  | .unauthorized => .authorization
  | .databaseIdle => .databaseIdle
  | .databaseMissing => .databaseMissing
  | .hubDisabled | .notMember => .transient

/-- The failure of the dialer. -/
def toError (r : RejectionReason) (message : String) : ReplicationError := ⟨r.kind, message⟩

/-- The reason that the acceptor gives for a failure of its own. -/
def ofKind : ErrorKind → RejectionReason
  | .protocolMismatch => .versionMismatch
  | .unknownHub | .notFound => .unknownHub
  | .authorization | .invalidConfiguration | .duplicateGrant => .unauthorized
  | .databaseMissing => .databaseMissing
  | .topologyExhausted => .notMember
  | .databaseIdle | .transient | .consensusCommit | .storage | .cancelled => .databaseIdle

/-- The reason that the acceptor gives for a failure of its own. -/
def ofError (e : ReplicationError) : RejectionReason := ofKind e.kind

end RejectionReason

/-- What the acceptor of a handshake offers. -/
structure Acceptance where
  /-- The directions that both sides agreed on. -/
  mode : Mode
  databaseId : String
  /-- How far the acceptor took over the dialer's data before. -/
  lastAcceptedEtag : Nat
  /-- The live nodes that host the database. -/
  topology : List TopologyNode
  compression : Bool
  /-- The paths that the acceptor takes from the dialer; none stands for all. -/
  allowedPaths : TextSet
deriving DecidableEq

/-- The answer to a handshake. -/
inductive HandshakeResponse where
  | accepted (terms : Acceptance)
  | rejected (reason : RejectionReason) (message : String)
deriving DecidableEq

namespace HandshakeResponse

/-- The answer as a value. -/
def toJson : HandshakeResponse → Json
  | .accepted a =>
    .object [
      ("Outcome", .string "Accepted"),
      ("Mode", a.mode.toJson),
      ("DatabaseId", .string a.databaseId),
      ("LastAcceptedEtag", Json.nat a.lastAcceptedEtag),
      ("Topology", .array (a.topology.map (·.toJson))),
      ("Compression", .bool a.compression),
      ("AllowedPaths", a.allowedPaths.toJson)]
  | .rejected reason message =>
    .object [
      ("Outcome", .string "Rejected"),
      ("Reason", .string reason.name),
      ("Message", .string message)]

/-- The answer of a value; what it says is set aside until the outcome is known. -/
def ofJson? (reading : Json.Reading) (j : Json) : Option HandshakeResponse := do
  match ← j.tagged? reading "Outcome" ["Accepted", "Rejected"] with
  | ("Accepted", data) =>
    match ← data.record? ["Mode", "DatabaseId", "LastAcceptedEtag", "Topology", "Compression",
        "AllowedPaths"] with
    | [mode, databaseId, etag, topology, compression, paths] =>
      return .accepted {
        mode := ← Json.required Mode.ofJson? mode
        databaseId := ← Json.required Json.asText databaseId
        lastAcceptedEtag := ← Json.required Json.asWord etag
        topology := ← Json.required (Json.asListOf TopologyNode.ofJson?) topology
        compression := ← Json.required Json.asBool compression
        allowedPaths := ← Json.defaulted TextSet.ofJson? .empty paths }
    | _ => none
  | ("Rejected", data) =>
    match ← data.record? ["Reason", "Message"] with
    | [reason, message] =>
      return .rejected (← Json.required (RejectionReason.ofJson? .setAside) reason)
        (← Json.required Json.asText message)
    | _ => none
  | _ => none

end HandshakeResponse

/-! ### Streaming -/

/-- Changes of the sender. -/
structure Batch where
  items : List Item
  /-- The etag of the sender that the batch covers, items left out included. -/
  lastEtag : Nat

namespace Batch

/-- The batch as a value. -/
def toJson (b : Batch) : Json :=
  .object [("Items", .array (b.items.map (·.toJson))), ("LastEtag", Json.nat b.lastEtag)]

/-- The batch of a value. -/
def ofJson? (reading : Json.Reading) (j : Json) : Option Batch := do
  match ← j.record? ["Items", "LastEtag"] with
  | [items, etag] =>
    return {
      items := ← Json.required (Json.asListOf (Item.ofJson? reading)) items
      lastEtag := ← Json.required Json.asWord etag }
  | _ => none

end Batch

/-- The acknowledgement of a batch that was applied. -/
structure Ack where
  lastEtag : Nat
  /-- What the database had seen after the batch. -/
  changeVector : ChangeVector

namespace Ack

/-- The acknowledgement as a value. -/
def toJson (a : Ack) : Json :=
  .object [("LastEtag", Json.nat a.lastEtag), ("ChangeVector", a.changeVector.toJson)]

/-- The acknowledgement of a value. -/
def ofJson? (j : Json) : Option Ack := do
  match ← j.record? ["LastEtag", "ChangeVector"] with
  | [etag, cv] =>
    return {
      lastEtag := ← Json.required Json.asWord etag
      changeVector := ← Json.required ChangeVector.ofJson? cv }
  | _ => none

end Ack

/-- Anything that two nodes say to each other. -/
inductive Frame where
  | handshake (handshake : Handshake)
  | response (response : HandshakeResponse)
  | resume (lastEtag : Nat)
  | batch (batch : Batch)
  | ack (ack : Ack)
  | heartbeat
  | close (reason : String)

namespace Frame

/-- The name of a frame. -/
def name : Frame → String
  | .handshake _ => "Handshake"
  | .response _ => "HandshakeResponse"
  | .resume _ => "Resume"
  | .batch _ => "Batch"
  | .ack _ => "Ack"
  | .heartbeat => "Heartbeat"
  | .close _ => "Close"

/-- The data of a frame; a heartbeat has none. -/
def body? : Frame → Option Json
  | .handshake h => some h.toJson
  | .response r => some r.toJson
  | .resume etag => some (.object [("last_etag", Json.nat etag)])
  | .batch b => some b.toJson
  | .ack a => some a.toJson
  | .heartbeat => none
  | .close reason => some (.object [("reason", .string reason)])

/-- The frame as a value. -/
def toJson (f : Frame) : Json :=
  .object (("Type", .string f.name) ::
    match f.body? with
    | some body => [("Body", body)]
    | none => [])

/-- The data of a frame with one field, which must be named. -/
def single? {α : Type} (field : String) (read : Json → Option α) (j : Json) : Option α := do
  match ← j.fields? [field] with
  | [value] => Json.required read value
  | _ => none

/-- The frame of a value. -/
def ofJson? (j : Json) : Option Frame := do
  match ← j.adjacent? "Type" "Body" with
  | ("Handshake", some (reading, body)) => return .handshake (← Handshake.ofJson? reading body)
  | ("HandshakeResponse", some (reading, body)) =>
    return .response (← HandshakeResponse.ofJson? reading body)
  | ("Resume", some (_, body)) => return .resume (← single? "last_etag" Json.asWord body)
  | ("Batch", some (reading, body)) => return .batch (← Batch.ofJson? reading body)
  | ("Ack", some (_, body)) => return .ack (← Ack.ofJson? body)
  | ("Heartbeat", none) | ("Heartbeat", some (_, .null)) => return .heartbeat
  | ("Close", some (_, body)) => return .close (← single? "reason" Json.asText body)
  | _ => none

instance : Json.Readable Frame := ⟨ofJson?⟩

end Frame

end HubReplication
