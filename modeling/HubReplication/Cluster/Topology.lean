/-
**Topologies.**

The cluster lists its nodes in the order in which they joined, each with its URL and whether it can
be reached.  A database lists the nodes that hold a copy of it.

Main definitions:

* `ClusterNode`, `ClusterTopology` — the nodes of a cluster;
* `ClusterTopology.validate` — tags and URLs are there and differ;
* `DatabaseTopology`, `DatabaseTopology.liveMembers` — the nodes of a database.
-/

import HubReplication.Definition.Hub

set_option relaxedAutoImplicit false
set_option autoImplicit false

namespace HubReplication

/-- A member of a cluster. -/
structure ClusterNode where
  tag : NodeTag
  /-- Where other nodes dial it. -/
  url : String
  alive : Bool
deriving DecidableEq

namespace ClusterNode

/-- The node as a value. -/
def toJson (n : ClusterNode) : Json :=
  .object [("Tag", n.tag.toJson), ("Url", .string n.url), ("Alive", .bool n.alive)]

/-- The node of a value. -/
def ofJson? (j : Json) : Option ClusterNode := do
  match ← j.record? ["Tag", "Url", "Alive"] with
  | [tag, url, alive] =>
    return {
      tag := ← Json.required NodeTag.ofJson? tag
      url := ← Json.required Json.asText url
      alive := ← Json.defaulted Json.asBool true alive }
  | _ => none

instance : Json.Writable ClusterNode := ⟨toJson⟩

instance : Json.Readable ClusterNode := ⟨ofJson?⟩

end ClusterNode

/-- The nodes of a cluster in join order. -/
structure ClusterTopology where
  nodes : List ClusterNode
deriving DecidableEq

namespace ClusterTopology

/-- A cluster without nodes. -/
def empty : ClusterTopology := ⟨[]⟩

/-- Check nodes against the nodes before them. -/
def validateAfter : List ClusterNode → List ClusterNode → Outcome Unit
  | _, [] => .ok ()
  | before, node :: rest =>
    if node.tag.text.isEmpty || Text.isBlankText node.url then
      .error (.invalidConfiguration "cluster nodes need a tag and a url")
    else if before.any fun other => other.tag == node.tag || other.url == node.url then
      .error (.invalidConfiguration
        ("cluster node " ++ node.tag.text ++ " (" ++ node.url ++ ") is listed twice"))
    else validateAfter (before ++ [node]) rest

/-- Every node has a tag and a URL, and no two have the same of either. -/
def validate (t : ClusterTopology) : Outcome Unit := validateAfter [] t.nodes

/-- The node of a tag. -/
def node? (t : ClusterTopology) (tag : NodeTag) : Option ClusterNode :=
  t.nodes.find? (·.tag == tag)

/-- The node of a URL, slashes at the end and case aside. -/
def nodeByUrl? (t : ClusterTopology) (url : String) : Option ClusterNode :=
  t.nodes.find? fun n => Text.sameName (Text.trimSlashes n.url) (Text.trimSlashes url)

/-- Whether a tag is that of a member that can be reached. -/
def isAlive (t : ClusterTopology) (tag : NodeTag) : Bool :=
  match t.node? tag with
  | some n => n.alive
  | none => false

/-- Change the first node of a tag. -/
def markAlive (tag : NodeTag) (alive : Bool) : List ClusterNode → List ClusterNode
  | [] => []
  | n :: rest => if n.tag = tag then { n with alive } :: rest else n :: markAlive tag alive rest

/-- Record whether a node can be reached; `none` when it is no member. -/
def setAlive? (t : ClusterTopology) (tag : NodeTag) (alive : Bool) : Option ClusterTopology :=
  if (t.node? tag).isSome then some ⟨markAlive tag alive t.nodes⟩ else none

/-- The topology as a value. -/
def toJson (t : ClusterTopology) : Json := .object [("Nodes", .array (t.nodes.map (·.toJson)))]

/-- The topology of a value. -/
def ofJson? (j : Json) : Option ClusterTopology := do
  match ← j.record? ["Nodes"] with
  | [nodes] => return ⟨← Json.required (Json.asListOf ClusterNode.ofJson?) nodes⟩
  | _ => none

instance : Json.Writable ClusterTopology := ⟨toJson⟩

instance : Json.Readable ClusterTopology := ⟨ofJson?⟩

end ClusterTopology

/-- The nodes that hold a database, in topology order. -/
structure DatabaseTopology where
  members : List NodeTag
deriving DecidableEq

namespace DatabaseTopology

/-- Whether a node holds the database. -/
def contains (t : DatabaseTopology) (tag : NodeTag) : Bool := t.members.contains tag

/-- The members that can be reached. -/
def liveMembers (t : DatabaseTopology) (cluster : ClusterTopology) : List NodeTag :=
  t.members.filter cluster.isAlive

/-- The topology as a value. -/
def toJson (t : DatabaseTopology) : Json :=
  .object [("Members", .array (t.members.map (·.toJson)))]

/-- The topology of a value. -/
def ofJson? (j : Json) : Option DatabaseTopology := do
  match ← j.record? ["Members"] with
  | [members] => return ⟨← Json.required (Json.asListOf NodeTag.ofJson?) members⟩
  | _ => none

instance : Json.Writable DatabaseTopology := ⟨toJson⟩

instance : Json.Readable DatabaseTopology := ⟨ofJson?⟩

end DatabaseTopology

end HubReplication
