/-
**Starting from a configuration.**

A node that is started from its file has a log of its own, to which the cluster and each database
are proposed first.

Main definitions:

* `NodeConfig.proposals` — what is proposed;
* `NodeConfig.bootstrap` — the security of the node and its log.
-/

import HubReplication.Cluster.Consensus
import HubReplication.Config.Node

set_option relaxedAutoImplicit false
set_option autoImplicit false

namespace HubReplication

namespace NodeConfig

/-- The commands that a node starts with, each under its request id. -/
def proposals (c : NodeConfig) : List (String × ClusterCommand) :=
  ("bootstrap-topology", .putClusterTopology c.topology) ::
    c.databases.map fun database =>
      ("bootstrap-database-" ++ database, .putDatabase database ⟨[c.tag]⟩)

/-- The security and the log of a node that starts from a configuration. -/
def bootstrap (c : NodeConfig) (fileAt : String → Option String) :
    Outcome (ServerSecurity × Consensus) := do
  c.validate
  let security ← ServerSecurity.load c.security fileAt
  match Consensus.empty.proposeAll c.proposals with
  | (.ok (), log, _) => return (security, log)
  | (.error e, _, _) => throw e

end NodeConfig

end HubReplication
