/-
**Hubs and grants.**

A hub is a replication feed that a database exposes.  A grant lets the holder of one certificate
connect to one hub, and may bound the paths that pass in either direction.

Main definitions:

* `TaskId`, `NodeTag` — identities of tasks and nodes;
* `HubDefinition`, `HubAccessGrant` — a hub and a grant;
* `HubDefinition.validateShape`, `HubDefinition.validate` — the rules on a hub, without and with
  regard to the security of the server;
* `HubAccessGrant.validate` — the rules on a grant for its hub.
-/

import HubReplication.Certificate.Basic
import HubReplication.Definition.Mode
import HubReplication.Definition.PathFilter
import HubReplication.Security

set_option relaxedAutoImplicit false
set_option autoImplicit false

namespace HubReplication

/-- The identity of a task; zero until it is assigned. -/
structure TaskId where
  value : Nat
deriving DecidableEq, Repr, Inhabited

namespace TaskId

/-- Whether an identity was assigned. -/
def isAssigned (t : TaskId) : Bool := t.value != 0

/-- The identity as a value. -/
def toJson (t : TaskId) : Json := Json.nat t.value

/-- The identity of a value. -/
def ofJson? (j : Json) : Option TaskId := j.asWord.map TaskId.mk

instance : Json.Writable TaskId := ⟨toJson⟩

end TaskId

/-- The tag of a cluster node. -/
structure NodeTag where
  text : String
deriving DecidableEq, Repr, Inhabited

namespace NodeTag

/-- The tag as a value. -/
def toJson (t : NodeTag) : Json := .string t.text

/-- A tag that may be missing, as a value. -/
def optToJson : Option NodeTag → Json
  | some t => t.toJson
  | none => .null

/-- The tag of a value. -/
def ofJson? (j : Json) : Option NodeTag := j.asText.map NodeTag.mk

instance : Json.Writable NodeTag := ⟨toJson⟩

end NodeTag

/-- Names of tasks are not blank and hold no path separators. -/
def validateTaskName (kind name : String) : Outcome Unit :=
  if Text.isBlankText name then
    .error (.invalidConfiguration (kind ++ " name must not be empty"))
  else if name.toList.any fun c => c = '/' ∨ c = '\\' then
    .error (.invalidConfiguration
      (kind ++ " name '" ++ name ++ "' must not contain path separators"))
  else .ok ()

/-- A replication feed of a database. -/
structure HubDefinition where
  name : String
  taskId : TaskId
  mode : Mode
  withFiltering : Bool
  /-- How old an item must be before it is sent, in milliseconds. -/
  delay : Nat
  disabled : Bool
  mentorNode : Option NodeTag
  /-- Certificates listed on the hub itself, from before there were grants. -/
  legacyCertificates : List String
deriving DecidableEq

namespace HubDefinition

/-- An enabled hub with default settings. -/
def new (name : String) (mode : Mode) : HubDefinition :=
  { name, taskId := ⟨0⟩, mode, withFiltering := false, delay := 0, disabled := false,
    mentorNode := none, legacyCertificates := [] }

/-- The rules that hold whatever the security of the server. -/
def validateShape (h : HubDefinition) : Outcome Unit :=
  match validateTaskName "hub" h.name with
  | .error e => .error e
  | .ok () =>
    if h.mode.isEmpty then
      .error (.invalidConfiguration
        ("hub '" ++ h.name ++ "' must replicate in at least one direction"))
    else .ok ()

/-- The rules under the security of the server: only a secured server filters, or takes documents
from sinks. -/
def validate (h : HubDefinition) (security : ServerSecurity) : Outcome Unit :=
  match h.validateShape with
  | .error e => .error e
  | .ok () =>
    if security.isSecured then .ok ()
    else if h.withFiltering then
      .error (.invalidConfiguration
        ("hub '" ++ h.name ++ "' uses filtering, which requires a secured server"))
    else if h.mode.contains .sinkToHub then
      .error (.invalidConfiguration
        ("hub '" ++ h.name ++
          "' accepts sink-to-hub replication, which requires a secured server"))
    else .ok ()

/-- Whether the hub still lists certificates itself. -/
def hasLegacyCertificates (h : HubDefinition) : Bool := !h.legacyCertificates.isEmpty

/-- The hub as a value. -/
def toJson (h : HubDefinition) : Json :=
  .object ([
    ("Name", .string h.name),
    ("TaskId", h.taskId.toJson),
    ("Mode", h.mode.toJson),
    ("WithFiltering", .bool h.withFiltering),
    ("DelayReplicationFor", Json.nat h.delay),
    ("Disabled", .bool h.disabled),
    ("MentorNode", NodeTag.optToJson h.mentorNode)] ++
    (if h.legacyCertificates.isEmpty then []
      else [("LegacyCertificates", .array (h.legacyCertificates.map .string))]))

/-- The hub of a value. -/
def ofJson? (j : Json) : Option HubDefinition := do
  match ← j.record? ["Name", "TaskId", "Mode", "WithFiltering", "DelayReplicationFor", "Disabled",
      "MentorNode", "LegacyCertificates"] with
  | [name, taskId, mode, filtering, delay, disabled, mentor, legacy] =>
    return {
      name := ← Json.required Json.asText name
      taskId := ← Json.defaulted TaskId.ofJson? ⟨0⟩ taskId
      mode := ← Json.defaulted Mode.ofJson? .hubToSink mode
      withFiltering := ← Json.defaulted Json.asBool false filtering
      delay := ← Json.defaulted Json.asWord 0 delay
      disabled := ← Json.defaulted Json.asBool false disabled
      mentorNode := ← Json.nullable NodeTag.ofJson? mentor
      legacyCertificates := ← Json.defaulted (Json.asListOf Json.asText) [] legacy }
  | _ => none

instance : Json.Writable HubDefinition := ⟨toJson⟩

instance : Json.Readable HubDefinition := ⟨ofJson?⟩

end HubDefinition

/-- Leave for the holder of a certificate to connect to a hub. -/
structure HubAccessGrant where
  hubName : String
  grantName : String
  certificateThumbprint : String
  certificateInfo : CertificateInfo
  hubToSinkPaths : TextSet
  sinkToHubPaths : TextSet
deriving DecidableEq

namespace HubAccessGrant

/-- The rules on a grant for its hub: a name, sound paths, paths from sinks only where the hub takes
documents from them, and paths to sinks where the hub filters. -/
def validate (g : HubAccessGrant) (hub : HubDefinition) : Outcome Unit :=
  if Text.isBlankText g.grantName then
    .error (.invalidConfiguration "access grant name must not be empty")
  else
    match PathFilter.validate g.hubToSinkPaths "hub-to-sink" with
    | .error e => .error e
    | .ok () =>
      match PathFilter.validate g.sinkToHubPaths "sink-to-hub" with
      | .error e => .error e
      | .ok () =>
        if !hub.mode.contains .sinkToHub && !g.sinkToHubPaths.isEmpty then
          .error (.invalidConfiguration
            ("hub '" ++ hub.name ++ "' does not accept sink-to-hub replication, " ++
              "so the grant cannot allow sink-to-hub paths"))
        else if hub.withFiltering && g.hubToSinkPaths.isEmpty then
          .error (.invalidConfiguration
            ("hub '" ++ hub.name ++ "' uses filtering, " ++
              "so the grant must allow at least one hub-to-sink path"))
        else .ok ()

/-- The grant as a value. -/
def toJson (g : HubAccessGrant) : Json :=
  .object [
    ("HubName", .string g.hubName),
    ("GrantName", .string g.grantName),
    ("CertificateThumbprint", .string g.certificateThumbprint),
    ("CertificatePublicInfo", g.certificateInfo.toJson),
    ("AllowedHubToSinkPaths", g.hubToSinkPaths.toJson),
    ("AllowedSinkToHubPaths", g.sinkToHubPaths.toJson)]

/-- The grant of a value. -/
def ofJson? (j : Json) : Option HubAccessGrant := do
  match ← j.record? ["HubName", "GrantName", "CertificateThumbprint", "CertificatePublicInfo",
      "AllowedHubToSinkPaths", "AllowedSinkToHubPaths"] with
  | [hubName, grantName, thumbprint, info, hubToSink, sinkToHub] =>
    return {
      hubName := ← Json.required Json.asText hubName
      grantName := ← Json.required Json.asText grantName
      certificateThumbprint := ← Json.required Json.asText thumbprint
      certificateInfo := ← Json.required CertificateInfo.ofJson? info
      hubToSinkPaths := ← Json.defaulted TextSet.ofJson? .empty hubToSink
      sinkToHubPaths := ← Json.defaulted TextSet.ofJson? .empty sinkToHub }
  | _ => none

instance : Json.Writable HubAccessGrant := ⟨toJson⟩

instance : Json.Readable HubAccessGrant := ⟨ofJson?⟩

end HubAccessGrant

end HubReplication
