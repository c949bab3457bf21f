/-
**Where a task dials and where it runs.**

A dialer walks through candidates: the nodes that the destination announced when it was last
reached, then the URLs of the connection string.  A task runs on one node: its mentor if that is a
live member, else the live member that its identity picks.

Main definitions:

* `CandidateNode`, `sameUrl` — nodes and URLs to choose from;
* `Destination.order` — the preferred node first, each URL once;
* `Destination.candidates` — the endpoints of a dialer;
* `Destination.responsibleNode` — the node that runs a task.
-/

import HubReplication.Cluster.State

set_option relaxedAutoImplicit false
set_option autoImplicit false

namespace HubReplication

/-- Where a dialer connects to. -/
structure ConnectionEndpoint where
  url : String
  database : String
  nodeTag : Option NodeTag
deriving DecidableEq

namespace ConnectionEndpoint

/-- The endpoint as a value. -/
def toJson (e : ConnectionEndpoint) : Json :=
  .object [("Url", .string e.url), ("Database", .string e.database),
    ("NodeTag", NodeTag.optToJson e.nodeTag)]

/-- The endpoint of a value. -/
def ofJson? (j : Json) : Option ConnectionEndpoint := do
  match ← j.record? ["Url", "Database", "NodeTag"] with
  | [url, database, tag] =>
    return {
      url := ← Json.required Json.asText url
      database := ← Json.required Json.asText database
      nodeTag := ← Json.nullable NodeTag.ofJson? tag }
  | _ => none

instance : Json.Writable ConnectionEndpoint := ⟨toJson⟩

instance : Json.Readable ConnectionEndpoint := ⟨ofJson?⟩

end ConnectionEndpoint

/-- A node that a peer announced. -/
structure TopologyNode where
  tag : NodeTag
  url : String
deriving DecidableEq

namespace TopologyNode

/-- The node as a value. -/
def toJson (n : TopologyNode) : Json := .object [("Tag", n.tag.toJson), ("Url", .string n.url)]

/-- The node of a value. -/
def ofJson? (j : Json) : Option TopologyNode := do
  match ← j.record? ["Tag", "Url"] with
  | [tag, url] =>
    return { tag := ← Json.required NodeTag.ofJson? tag, url := ← Json.required Json.asText url }
  | _ => none

instance : Json.Writable TopologyNode := ⟨toJson⟩

instance : Json.Readable TopologyNode := ⟨ofJson?⟩

end TopologyNode

/-- A node to choose from. -/
structure CandidateNode where
  tag : Option NodeTag
  url : String
  alive : Bool
deriving DecidableEq

/-- URLs are compared without the slashes at their end and without regard to case. -/
def sameUrl (a b : String) : Bool := Text.sameName (Text.trimSlashes a) (Text.trimSlashes b)

namespace Destination

/-- Add a node unless its URL is there. -/
def addNew (chosen : List CandidateNode) (node : CandidateNode) : List CandidateNode :=
  if chosen.any fun o => sameUrl o.url node.url then chosen else chosen ++ [node]

/-- The live nodes, each URL once: the first one with the preferred tag, then the others in order.
-/
def order (nodes : List CandidateNode) (preferred : Option NodeTag) : List CandidateNode :=
  let live := nodes.filter (·.alive)
  let first := match preferred with
    | some tag => (live.find? fun n => n.tag == some tag).toList
    | none => []
  live.foldl addNew first

/-- The nodes a dialer may choose from: those announced, then the URLs of the connection string. -/
def known (connection : ReplicationConnectionString) (discovered : List TopologyNode) :
    List CandidateNode :=
  (discovered.map fun n => ⟨some n.tag, n.url, true⟩) ++
    ((connection.discoveryUrls.filter fun u => !Text.isBlankText u).map fun u =>
      ⟨none, Text.trim u, true⟩)

/-- The endpoints a dialer walks through. -/
def candidates (connection : ReplicationConnectionString) (discovered : List TopologyNode)
    (preferred : Option NodeTag) : List ConnectionEndpoint :=
  (order (known connection discovered) preferred).map fun n =>
    { url := n.url, database := connection.database, nodeTag := n.tag }

/-- The node that runs a task. -/
def responsibleNode (task : OngoingTask) (database : DatabaseTopology)
    (cluster : ClusterTopology) : Option NodeTag :=
  let live := database.liveMembers cluster
  let picked := live[task.taskId.value % live.length]?
  match task.mentorNode with
  | some mentor => if live.contains mentor then some mentor else picked
  | none => picked

end Destination

end HubReplication
