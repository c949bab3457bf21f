/-
**Configuration of a node.**

A node is configured by one file.  Everything in it has a default, so that an empty object
configures a node of its own.

Main definitions:

* `HttpConfig`, `LoggingConfig`, `NodeConfig` — the file;
* `NodeConfig.validate` — its rules;
* `NodeConfig.load` — the configuration that a file holds, unless its log filter is torn;
* `NodeConfig.topology` — the cluster that it describes.
-/

import HubReplication.Cluster.Topology
import HubReplication.Config.LogFilter
import HubReplication.Json.Parser
import HubReplication.Settings

set_option relaxedAutoImplicit false
set_option autoImplicit false

namespace HubReplication

/-! ### The administrative address -/

/-- Where the administrative API is served. -/
structure HttpConfig where
  host : String
  port : Nat
  /-- The origins whose pages may read answers; none stands for all. -/
  corsOrigins : List String
deriving DecidableEq

namespace HttpConfig

/-- Every address, one port, all origins. -/
def default : HttpConfig := ⟨"0.0.0.0", 38880, []⟩

/-- The host and the port. -/
def address (c : HttpConfig) : String := c.host ++ ":" ++ toString c.port

/-- A host is named, and no origin is blank. -/
def validate (c : HttpConfig) : Outcome Unit :=
  if Text.isBlankText c.host then
    .error (.invalidConfiguration "http.host must not be empty")
  else
    match c.corsOrigins.find? Text.isBlankText with
    | some origin =>
      .error (.invalidConfiguration
        ("http.cors_origins contains an empty origin '" ++ origin ++ "'"))
    | none => .ok ()

/-- The section as a value. -/
def toJson (c : HttpConfig) : Json :=
  .object [
    ("host", .string c.host),
    ("port", Json.nat c.port),
    ("cors_origins", .array (c.corsOrigins.map .string))]

/-- The section of a value. -/
def ofJson? (j : Json) : Option HttpConfig := do
  match ← j.record? ["host", "port", "cors_origins"] with
  | [host, port, origins] =>
    return {
      host := ← Json.defaulted Json.asText default.host host
      port := ← Json.defaulted (Json.asNat UInt16.size) default.port port
      corsOrigins := ← Json.defaulted (Json.asListOf Json.asText) [] origins }
  | _ => none

end HttpConfig

/-! ### Logging -/

/-- How lines of the log are written. -/
inductive LogFormat where
  | json
  | pretty
deriving DecidableEq, Repr

/-- The name of a format. -/
def LogFormat.name : LogFormat → String
  | .json => "json"
  | .pretty => "pretty"

/-- The format of a value. -/
def LogFormat.ofJson? (j : Json) : Option LogFormat :=
  match j.variant? .direct with
  | some "json" => some .json
  | some "pretty" => some .pretty
  | _ => none

/-- What is logged, and how. -/
structure LoggingConfig where
  level : String
  format : LogFormat
deriving DecidableEq

namespace LoggingConfig

/-- Everything from information on, as objects. -/
def default : LoggingConfig := ⟨"info", .json⟩

/-- The level is a filter. -/
def validate (c : LoggingConfig) : Outcome Unit :=
  match LogFilter.check c.level with
  | .ok () => .ok ()
  | .error _ =>
    .error (.invalidConfiguration
      ("invalid log level '" ++ c.level ++ "': invalid filter directive"))

/-- The section as a value. -/
def toJson (c : LoggingConfig) : Json :=
  .object [("level", .string c.level), ("format", .string c.format.name)]

/-- The section of a value. -/
def ofJson? (j : Json) : Option LoggingConfig := do
  match ← j.record? ["level", "format"] with
  | [level, format] =>
    return {
      level := ← Json.defaulted Json.asText default.level level
      format := ← Json.defaulted LogFormat.ofJson? default.format format }
  | _ => none

end LoggingConfig

/-! ### The file -/

/-- The configuration of a node. -/
structure NodeConfig where
  nodeTag : String
  /-- Where other nodes dial it. -/
  publicUrl : String
  /-- Where it listens for them. -/
  listenAddress : String
  http : HttpConfig
  security : SecurityConfig
  /-- The URLs of the other members of the cluster, by tag. -/
  clusterMembers : SortedMap String String
  /-- The databases that the node creates. -/
  databases : List String
  replication : ReplicationSettings
  logging : LoggingConfig
deriving DecidableEq

namespace NodeConfig

/-- A node of its own. -/
def default : NodeConfig where
  nodeTag := "A"
  publicUrl := "tcp://127.0.0.1:38888"
  listenAddress := "0.0.0.0:38888"
  http := .default
  security := .default
  clusterMembers := .empty
  databases := []
  replication := .default
  logging := .default

/-- The tag of the node. -/
def tag (c : NodeConfig) : NodeTag := ⟨c.nodeTag⟩

/-- The cluster: the node, followed by the other members. -/
def topology (c : NodeConfig) : ClusterTopology :=
  ⟨⟨c.tag, c.publicUrl, true⟩ :: c.clusterMembers.toList.map fun m => ⟨⟨m.1⟩, m.2, true⟩⟩

/-- The rules on the node itself. -/
def validateNode (c : NodeConfig) : Outcome Unit :=
  if Text.isBlankText c.nodeTag then
    .error (.invalidConfiguration "node_tag must not be empty")
  else if c.clusterMembers.keys.any fun tag => Text.sameName tag c.nodeTag then
    .error (.invalidConfiguration
      ("cluster_members must not list this node ('" ++ c.nodeTag ++ "')"))
  else if c.databases.any Text.isBlankText then
    .error (.invalidConfiguration "database names must not be empty")
  else .ok ()

/-- The rules on all that comes before the log. -/
def validateSections (c : NodeConfig) : Outcome Unit := do
  c.validateNode
  c.http.validate
  c.security.validate
  c.replication.validate

/-- The rules on the whole file; the first that is broken is told. -/
def validate (c : NodeConfig) : Outcome Unit := do
  c.validateSections
  c.logging.validate
  c.topology.validate

/-- Whether the rules are kept up to the log, whose filter cannot be cut into parts. -/
def isTorn (c : NodeConfig) : Bool :=
  c.validateSections matches .ok () && LogFilter.check c.logging.level matches .error .torn

/-- The configuration as a value. -/
def toJson (c : NodeConfig) : Json :=
  .object [
    ("node_tag", .string c.nodeTag),
    ("public_url", .string c.publicUrl),
    ("replication_listen_addr", .string c.listenAddress),
    ("http", c.http.toJson),
    ("security", c.security.toJson),
    ("cluster_members", .object (c.clusterMembers.toList.map fun m => (m.1, .string m.2))),
    ("databases", .array (c.databases.map .string)),
    ("replication", c.replication.toJson),
    ("logging", c.logging.toJson)]

/-- The configuration of a value. -/
def ofJson? (j : Json) : Option NodeConfig := do
  match ← j.record? ["node_tag", "public_url", "replication_listen_addr", "http", "security",
      "cluster_members", "databases", "replication", "logging"] with
  | [tag, url, listen, http, security, members, databases, replication, logging] =>
    return {
      nodeTag := ← Json.defaulted Json.asText default.nodeTag tag
      publicUrl := ← Json.defaulted Json.asText default.publicUrl url
      listenAddress := ← Json.defaulted Json.asText default.listenAddress listen
      http := ← Json.defaulted HttpConfig.ofJson? .default http
      security := ← Json.defaulted SecurityConfig.ofJson? .default security
      clusterMembers := ← Json.defaulted (Json.asMapOf Json.asText) .empty members
      databases := ← Json.defaulted (Json.asListOf Json.asText) [] databases
      replication := ← Json.defaulted ReplicationSettings.ofJson? .default replication
      logging := ← Json.defaulted LoggingConfig.ofJson? .default logging }
  | _ => none

/-- The configuration that the text of a file holds; nothing where its log filter is torn. -/
def ofText (text : String) : Option (Outcome NodeConfig) :=
  match (Json.parse? text).bind ofJson? with
  | none => some (.error (.invalidConfiguration "invalid config JSON: not a configuration"))
  | some config => if config.isTorn then none else some (config.validate.map fun _ => config)

/-- The configuration in the file of a path, given what reading it gives. -/
def load (path : String) (content : Option String) : Option (Outcome NodeConfig) :=
  match content with
  | none =>
    some (.error (.invalidConfiguration ("failed to read config " ++ path ++ ": no such file")))
  | some text => ofText text

instance : Json.Writable NodeConfig := ⟨toJson⟩

instance : Json.Readable NodeConfig := ⟨ofJson?⟩

end NodeConfig

end HubReplication
