/-
**Who is let in.**

The acceptor of a handshake looks at it in stages: whether the versions agree and the node has the
database, whether the database loads, and whether the hub, the grant and the certificate allow what
is asked for.  A connection that was let in stays under the terms of that moment, and loses its
place when the record no longer agrees with them.

Main definitions:

* `IncomingTerms`, `IncomingTerms.revocation?` — the terms of a connection, and when they fall;
* `Rejection`, `Admission` — the outcome;
* `Handshake.checkHosting`, `Handshake.loadRejection`, `Handshake.authorize` — the stages;
* `Handshake.acceptance` — the answer to a handshake that is let in.

Main results:

* `IncomingTerms.revocation?_external` — what is pushed from outside is not revoked.
-/

import HubReplication.Destination
import HubReplication.Frame.Basic
import HubReplication.Text.Duration

set_option relaxedAutoImplicit false
set_option autoImplicit false

namespace HubReplication

/-! ### Terms -/

/-- The settings of hub and grant that a connection was let in under. -/
structure IncomingTerms where
  /-- The hub; none for what is pushed from outside. -/
  hub : Option String
  /-- The certificate; none on an unsecured server. -/
  thumbprint : Option String
  hubMode : Mode
  withFiltering : Bool
  hubToSinkPaths : TextSet
  sinkToHubPaths : TextSet
deriving DecidableEq

namespace IncomingTerms

/-- The terms of what is pushed from outside. -/
def external (thumbprint : Option String) : IncomingTerms :=
  { hub := none, thumbprint, hubMode := Mode.none, withFiltering := false
    hubToSinkPaths := .empty, sinkToHubPaths := .empty }

/-- Why a grant no longer agrees with the terms. -/
def grantRevocation? (t : IncomingTerms) : Option HubAccessGrant → Option String
  | none => some "access revoked"
  | some grant =>
    if grant.hubToSinkPaths ≠ t.hubToSinkPaths ∨ grant.sinkToHubPaths ≠ t.sinkToHubPaths then
      some "access changed"
    else none

/-- Why a record no longer lets in a connection under the terms. -/
def revocation? (t : IncomingTerms) (record : DatabaseRecord) : Option String :=
  match t.hub with
  | none => none
  | some name =>
    match record.hub? name with
    | none => some "hub deleted"
    | some hub =>
      if hub.disabled then some "hub disabled"
      else if hub.mode ≠ t.hubMode ∨ hub.withFiltering ≠ t.withFiltering then
        some "hub definition changed"
      else
        match t.thumbprint with
        | none => none
        | some thumbprint => t.grantRevocation? (record.grant? name thumbprint)

theorem revocation?_external (thumbprint : Option String) (record : DatabaseRecord) :
    (external thumbprint).revocation? record = none := rfl

end IncomingTerms

/-! ### Outcomes -/

/-- Why a handshake is refused: the reason that the peer is given, and the failure. -/
structure Rejection where
  reason : RejectionReason
  error : ReplicationError
deriving DecidableEq

/-- A refusal with the reason that its failure implies. -/
def Rejection.ofError (e : ReplicationError) : Rejection := ⟨RejectionReason.ofError e, e⟩

/-- What a peer that is let in may do. -/
structure Admission where
  mode : Mode
  terms : IncomingTerms
  /-- The paths that this side may send. -/
  outboundPaths : TextSet
  /-- The paths that this side takes. -/
  inboundPaths : TextSet
  /-- How old an item must be before it is sent, in milliseconds. -/
  delay : Nat
deriving DecidableEq

namespace Handshake

/-! ### Version, database and load -/

/-- Whether the peer speaks this version and the node hosts the database. -/
def checkHosting (h : Handshake) (node : NodeTag) (state : ClusterState) : Outcome Unit :=
  if h.version ≠ protocolVersion then
    .error (.protocolMismatch
      ("peer speaks protocol " ++ toString h.version ++ ", this node speaks " ++
        toString protocolVersion))
  else if (state.database? h.database).isNone then .error (.databaseMissing h.database)
  else if !state.hosts node h.database then
    .error (.topologyExhausted
      ("node " ++ node.text ++ " does not host database '" ++ h.database ++ "'"))
  else .ok ()

/-- The failure that the peer is told of when the database did not load. -/
def loadRejection (h : Handshake) (e : ReplicationError) : ReplicationError :=
  if e.kind = .databaseMissing then e
  else
    ⟨.databaseIdle, "database '" ++ h.database ++ "' could not be loaded: " ++ e.message⟩

/-- The failure that the peer is told of when the database was still loading after a time. -/
def loadTimeout (h : Handshake) (ms : Nat) : ReplicationError :=
  ⟨.databaseIdle,
    "database '" ++ h.database ++ "' did not load within " ++ Text.durationText ms⟩

/-! ### Hub, grant and certificate -/

/-- A refusal for lack of authorization. -/
def unauthorized (message : String) : Rejection := .ofError (.authorization message)

/-- A refusal of a certificate outside its time. -/
def outsideValidity (thumbprint : String) : Rejection :=
  unauthorized ("certificate " ++ thumbprint ++ " is outside its validity period")

/-- The certificate that a peer presents, when it can be read. -/
def presented (h : Handshake) (missing : String) : Except Rejection Certificate :=
  match h.certificate with
  | none => .error (unauthorized missing)
  | some encoded =>
    match Certificate.parse encoded with
    | .error e => .error (unauthorized ("unreadable certificate: " ++ e.message))
    | .ok certificate => .ok certificate

/-- The hub that a sink asks for, when it is there, switched on, and allows the directions. -/
def requestedHub (h : Handshake) (record : DatabaseRecord) : Except Rejection HubDefinition :=
  let name := h.hub.getD ""
  match record.hub? name with
  | none => .error (.ofError (.unknownHub name h.database))
  | some hub =>
    if hub.disabled then
      .error ⟨.hubDisabled, .transient ("hub '" ++ hub.name ++ "' is disabled")⟩
    else if h.requestedMode.isEmpty || !hub.mode.contains h.requestedMode then
      .error (unauthorized
        ("hub '" ++ hub.name ++ "' does not allow mode " ++ h.requestedMode.describe))
    else .ok hub

/-- What a sink may do that nobody had to identify. -/
def openAdmission (h : Handshake) (hub : HubDefinition) : Admission :=
  { mode := h.requestedMode
    terms := {
      hub := some hub.name, thumbprint := none, hubMode := hub.mode
      withFiltering := hub.withFiltering, hubToSinkPaths := .empty, sinkToHubPaths := .empty }
    outboundPaths := .empty
    inboundPaths := .empty
    delay := hub.delay }

/-- What a sink may do under a grant. -/
def grantedAdmission (h : Handshake) (hub : HubDefinition) (thumbprint : String)
    (grant : HubAccessGrant) : Admission :=
  { mode := h.requestedMode
    terms := {
      hub := some hub.name, thumbprint := some thumbprint, hubMode := hub.mode
      withFiltering := hub.withFiltering, hubToSinkPaths := grant.hubToSinkPaths
      sinkToHubPaths := grant.sinkToHubPaths }
    outboundPaths := if hub.withFiltering then grant.hubToSinkPaths else .empty
    inboundPaths := grant.sinkToHubPaths
    delay := hub.delay }

/-- A grant on a filtered hub names paths for every direction it is used in, because no path at all
would stand for every path. -/
def checkFilter (h : Handshake) (hub : HubDefinition) (thumbprint : String)
    (grant : HubAccessGrant) : Except Rejection Unit :=
  let lacks (direction : String) : Except Rejection Unit :=
    .error (unauthorized
      ("grant for certificate " ++ thumbprint ++ " on filtered hub '" ++ hub.name ++
        "' allows no " ++ direction ++ " paths"))
  if !hub.withFiltering then .ok ()
  else if grant.hubToSinkPaths.isEmpty then lacks "hub-to-sink"
  else if h.requestedMode.contains Mode.sinkToHub && grant.sinkToHubPaths.isEmpty then
    lacks "sink-to-hub"
  else .ok ()

/-- Let a sink in that its certificate identifies. -/
def authorizeHolder (h : Handshake) (hub : HubDefinition) (record : DatabaseRecord)
    (now : Instant) : Except Rejection Admission := do
  let certificate ← h.presented ("hub '" ++ hub.name ++ "' requires a client certificate")
  let thumbprint := certificate.info.thumbprint
  match record.grant? hub.name thumbprint with
  | none =>
    throw (unauthorized
      ("certificate " ++ thumbprint ++ " has no access to hub '" ++ hub.name ++ "'"))
  | some grant =>
    if !certificate.info.isValidAt now || !grant.certificateInfo.isValidAt now then
      throw (outsideValidity thumbprint)
    h.checkFilter hub thumbprint grant
    return h.grantedAdmission hub thumbprint grant

/-- Let a sink in. -/
def authorizeSink (h : Handshake) (security : ServerSecurity) (record : DatabaseRecord)
    (now : Instant) : Except Rejection Admission :=
  match h.requestedHub record with
  | .error r => .error r
  | .ok hub =>
    if security.isSecured then h.authorizeHolder hub record now else .ok (h.openAdmission hub)

/-- The certificate of a node that pushes from outside, where servers know each other. -/
def nodeThumbprint (h : Handshake) (security : ServerSecurity) (now : Instant) :
    Except Rejection (Option String) := do
  if !security.isSecured then return none
  let certificate ← h.presented "external replication requires a node certificate"
  if !certificate.info.isValidAt now then throw (outsideValidity certificate.info.thumbprint)
  return some certificate.info.thumbprint

/-- Let a node in that pushes from outside. -/
def authorizeExternal (h : Handshake) (security : ServerSecurity) (now : Instant) :
    Except Rejection Admission :=
  if h.requestedMode ≠ Mode.sinkToHub then
    .error (unauthorized "external replication may only push to its destination")
  else
    (h.nodeThumbprint security now).map fun thumbprint =>
      { mode := Mode.sinkToHub, terms := .external thumbprint, outboundPaths := .empty
        inboundPaths := .empty, delay := 0 }

/-- Let a peer in, or say why not. -/
def authorize (h : Handshake) (security : ServerSecurity) (record : DatabaseRecord)
    (now : Instant) : Except Rejection Admission :=
  match h.kind with
  | .sink => h.authorizeSink security record now
  | .external => h.authorizeExternal security now

/-! ### The answer -/

/-- The live nodes that host a database. -/
def hostingNodes (state : ClusterState) (record : DatabaseRecord) : List TopologyNode :=
  (record.topology.liveMembers state.topology).filterMap fun tag =>
    (state.topology.node? tag).map fun node => { tag, url := node.url }

/-- The answer to a handshake that is let in. -/
def acceptance (h : Handshake) (state : ClusterState) (record : DatabaseRecord)
    (admission : Admission) (databaseId : String) (lastAcceptedEtag : Nat) (compression : Bool) :
    Acceptance :=
  { mode := admission.mode
    databaseId, lastAcceptedEtag
    topology := hostingNodes state record
    compression := h.compression && compression
    allowedPaths := admission.inboundPaths }

end Handshake

end HubReplication
