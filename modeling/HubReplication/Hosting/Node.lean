/-
**Nodes.**

A node keeps the stores of its databases for good, and loads a database when somebody needs it: a
status query, a peer that dials in, or a dialing task the node is responsible for.  A database that
nobody used for a while, and that no connection keeps active, is unloaded again; its store stays.

Main definitions:

* `Node`, `Lease` — a node, and the loaded databases it keeps by name;
* `Node.checkHosted`, `Node.leased?`, `Node.touch`, `Node.install`, `Node.lease` — loading;
* `Node.runsDialers` — whether a database has to be loaded;
* `Node.mayUnload`, `Node.unused`, `Node.evict` — unloading;
* `Node.site` — what the connections of a database share.

Main results:

* `Node.leased?_evict` — a database that was unloaded is not loaded.
-/

import HubReplication.Connection.Side
import HubReplication.Hosting.Loaded
import HubReplication.Settings

set_option relaxedAutoImplicit false
set_option autoImplicit false

namespace HubReplication

/-- A loaded database that a node keeps under its name. -/
structure Lease where
  /-- The number of the loaded database. -/
  serial : Nat
  /-- When it was last asked for, in milliseconds of uptime. -/
  lastUsed : Nat
deriving DecidableEq

/-- A node. -/
structure Node where
  tag : NodeTag
  security : ServerSecurity
  settings : ReplicationSettings
  activity : Activity
  metrics : Metrics
  /-- The random shares that the node draws, in thousandths. -/
  chance : Nat → Nat
  /-- How many of them were drawn. -/
  draws : Nat
  stores : SortedMap String Store
  /-- Every database that was ever loaded, by number. -/
  databases : SortedMap Nat LoadedDatabase
  /-- The loaded databases by name. -/
  leases : SortedMap String Lease

namespace Node

/-- A node that loaded nothing yet; it draws nothing but halves. -/
def new (tag : NodeTag) (security : ServerSecurity) (settings : ReplicationSettings) : Node :=
  { tag, security, settings, activity := .empty, metrics := .zero, chance := fun _ => 500, draws := 0
    stores := .empty, databases := .empty, leases := .empty }

/-! ### Stores -/

/-- The id of the database of a name on this node. -/
def databaseId (n : Node) (name : String) : String := name ++ "@" ++ n.tag.text

/-- The store of a database, empty if it was never used. -/
def store (n : Node) (name : String) : Store :=
  (n.stores.get? name).getD (.empty (n.databaseId name))

/-- Put the store of a database. -/
def putStore (n : Node) (name : String) (store : Store) : Node :=
  { n with stores := n.stores.insert name store }

/-! ### Loaded databases -/

/-- Change a loaded database. -/
def onDatabase (n : Node) (serial : Nat) (f : LoadedDatabase → LoadedDatabase) : Node :=
  { n with databases := n.databases.adjust serial f }

/-- Whether a database was given up; one that is not there was. -/
def isDisposed (n : Node) (serial : Nat) : Bool :=
  match n.databases.get? serial with
  | some d => d.disposed
  | none => true

/-- The names of the loaded databases. -/
def loaded (n : Node) : List String := n.leases.keys

/-- Refuse a database that the node does not host. -/
def checkHosted (n : Node) (state : ClusterState) (name : String) : Outcome Unit :=
  if (state.database? name).isNone then .error (.databaseMissing name)
  else if !state.hosts n.tag name then
    .error (.topologyExhausted
      ("database '" ++ name ++ "' is not hosted on node " ++ n.tag.text))
  else .ok ()

/-- The number under which a database is loaded and in use. -/
def leased? (n : Node) (name : String) : Option Nat :=
  match n.leases.get? name with
  | some lease => if n.isDisposed lease.serial then none else some lease.serial
  | none => none

/-- A loaded database was asked for. -/
def touch (n : Node) (name : String) (uptime : Nat) : Node :=
  { n with leases := n.leases.adjust name fun lease => { lease with lastUsed := uptime } }

/-- Take in a database that is being loaded. -/
def install (n : Node) (name : String) (serial : Nat) : Node :=
  { n.putStore name (n.store name) with
    databases := n.databases.insert serial (.new name n.settings.failureHistory) }

/-- Keep a database that was loaded under its name. -/
def lease (n : Node) (name : String) (serial uptime : Nat) : Node :=
  { n with
    leases := n.leases.insert name ⟨serial, uptime⟩
    metrics := n.metrics.databaseLoaded }

/-- Whether a node has to run a dialing task of a database. -/
def runsDialers (n : Node) (state : ClusterState) (record : DatabaseRecord) : Bool :=
  record.topology.contains n.tag && record.ongoingTasks.any (runsOn state record n.tag)

/-- The databases that have to be loaded for their dialing tasks. -/
def dialing (n : Node) (state : ClusterState) : List String :=
  (state.databases.toList.filter fun (_, record) => n.runsDialers state record).map (·.1)

/-! ### Unloading -/

/-- Whether no connection keeps a database active. -/
def mayUnload (n : Node) (name : String) : Bool := n.activity.canUnload name

/-- The databases that nobody asked for in a while. -/
def unused (n : Node) (uptime : Nat) : List String :=
  (n.leases.toList.filter fun (_, lease) =>
    n.settings.idleUnloadAfter ≤ uptime - lease.lastUsed).map (·.1)

/-- Keep a database under its name no longer. -/
def evict (n : Node) (name : String) : Node := { n with leases := n.leases.erase name }

/-- A database was unloaded. -/
def countUnloaded (n : Node) : Node := { n with metrics := n.metrics.databaseUnloaded }

theorem leased?_evict (n : Node) (name : String) : (n.evict name).leased? name = none := by
  simp [leased?, evict]

/-! ### Connections -/

/-- What the connections of a database share; the failure logs are those of the loaded database. -/
def site (n : Node) (name : String) (serial : Option Nat) : Site :=
  { store := n.store name
    failures :=
      match serial.bind n.databases.get? with
      | some d => d.failures
      | none => .empty n.settings.failureHistory
    activity := n.activity
    metrics := n.metrics
    share := n.chance n.draws
    entries := [] }

/-- The node after a connection changed what it shares; only a loaded database keeps store and
failure logs.  The next connection has another share. -/
def putSite (n : Node) (name : String) (serial : Option Nat) (site : Site) : Node :=
  let n := { n with activity := site.activity, metrics := site.metrics, draws := n.draws + 1 }
  match serial with
  | none => n
  | some serial =>
    (n.putStore name site.store).onDatabase serial fun d => { d with failures := site.failures }

end Node

end HubReplication
