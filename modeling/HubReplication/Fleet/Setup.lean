/-
**Setting a fleet up.**

Nodes join a fleet together with the log they follow.  They are at work from then on, or stand by
and do only what they are asked.

Main definitions:

* `NodePlan` — a node to be;
* `NodeConfig.plan` — the node of a configuration, with its log;
* `Fleet.join` — nodes join.
-/

import HubReplication.Config.Bootstrap
import HubReplication.Fleet.Clock

set_option relaxedAutoImplicit false
set_option autoImplicit false

namespace HubReplication

/-- A node to be. -/
structure NodePlan where
  node : Node
  /-- Where it accepts connections, if anywhere. -/
  url : Option String
  /-- The origins whose pages may read administrative answers. -/
  origins : List String

/-- The node of a configuration, with its log. -/
def NodeConfig.plan (c : NodeConfig) (fileAt : String → Option String) :
    Outcome (Consensus × NodePlan) :=
  (c.bootstrap fileAt).map fun (security, log) =>
    (log, ⟨.new c.tag security c.replication, some c.publicUrl, c.http.corsOrigins⟩)

namespace Fleet

/-- Add a node that follows a log. -/
def addMember (plan : NodePlan) (log : Nat) : FleetM Nat := do
  let id ← fresh
  modify fun f => { f with members := f.members.insert id ⟨plan.node, log, plan.origins, false⟩ }
  return id

/-- Set a node to work. -/
def setToWork (member : Nat) (plan : NodePlan) : FleetM Unit := do
  start member
  match plan.url with
  | some url => serve member url true []
  | none => pure ()

/-- Nodes join that follow one log: their numbers. -/
def join (log : Consensus) (plans : List NodePlan) (atWork : Bool) : FleetM (List Nat) := do
  let id ← fresh
  modify fun f => { f with logs := f.logs.insert id log }
  plans.mapM fun plan => do
    let member ← addMember plan id
    if atWork then setToWork member plan
    return member

end Fleet

end HubReplication
