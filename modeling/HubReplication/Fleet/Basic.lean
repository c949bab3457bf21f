/-
**Fleets.**

A fleet is a set of nodes on one network, with the logs they follow, under one clock.  All that goes
on in it is done by processes: dialers, acceptors, readers that outlived their connection, the loops
of the nodes, and jobs.  A process does one step at a time, and only when something lets it; when no
process can do a step, the clock moves on to the next moment that a process waits for.

Main definitions:

* `Chore`, `Job` — a piece of work on a node, step by step;
* `Process` — who does something in a fleet;
* `Member`, `Fleet` — the fleet;
* `FleetM` — a change of a fleet with an answer, and the small changes everything is made of.
-/

import HubReplication.Cluster.Consensus
import HubReplication.Connection.Acceptor
import HubReplication.Connection.Dialer
import HubReplication.Hosting.Node

set_option relaxedAutoImplicit false
set_option autoImplicit false

namespace HubReplication

/-! ### Processes -/

/-- A dialer at work. -/
structure DialerProcess where
  member : Nat
  /-- The loaded database whose task it is. -/
  serial : Nat
  dialer : Dialer
  runtime : ConnectionRuntime
  cancelled : Bool
  /-- What its session wrote and its line did not take yet. -/
  unsent : List UInt8

/-- An acceptor at work. -/
structure AcceptorProcess where
  member : Nat
  /-- The gate that the connection came through. -/
  gate : Nat
  line : LineEnd
  acceptor : Acceptor
  runtime : ConnectionRuntime
  /-- The loaded database, once it is loaded. -/
  serial : Option Nat
  /-- Whether the database will never be loaded. -/
  stuck : Bool
  /-- What its session wrote and its line did not take yet. -/
  unsent : List UInt8

/-- What a load comes to where it is foretold. -/
inductive LoadOmen where
  /-- The load never ends. -/
  | hangs
  | fails (error : ReplicationError)
  /-- The database is loaded as ever. -/
  | usual

/-- A loop that accepts connections for a node. -/
structure Gate where
  member : Nat
  listener : Nat
  /-- Whether the loop ends with the node. -/
  tied : Bool
  /-- What the next loads come to. -/
  omens : List LoadOmen
  isOpen : Bool

/-- A loop that brings the databases of a node in line with the log. -/
structure Follower where
  member : Nat
  /-- How many changes it has dealt with; none before the first time. -/
  seen : Option Nat
  job : Option Nat

/-- A loop that unloads databases that nobody uses. -/
structure Sweeper where
  member : Nat
  every : Nat
  /-- When it sweeps next. -/
  next : Nat
  job : Option Nat

/-- A step of a job on a node.  Databases are named by the number they were loaded under. -/
inductive Chore where
  /-- Bring every loaded database in line with a state, and load those with dialing tasks. -/
  | sync (state : ClusterState)
  /-- Bring one database in line, if the node still hosts it. -/
  | align (name : String) (serial : Nat) (state : ClusterState)
  /-- Release a database that is not hosted any more or was given up. -/
  | dropStale (name : String) (serial : Nat) (hosted : Bool)
  /-- Load the databases that have dialing tasks. -/
  | loadDialing (state : ClusterState)
  /-- Bring the tasks of a database in line. -/
  | reconcile (serial : Nat) (state : ClusterState)
  /-- Wait until nobody changes the tasks of a database, and change them from then on. -/
  | occupy (serial : Nat)
  | stopStale (serial : Nat) (record : DatabaseRecord) (state : ClusterState)
  | stopTask (serial task : Nat)
  /-- Cancel a dialer and wait for it. -/
  | stopDialer (dialer : Nat)
  | awaitDialer (dialer : Nat)
  | startMissing (serial : Nat) (record : DatabaseRecord) (state : ClusterState)
  | vacate (serial : Nat)
  | revoke (serial : Nat) (record : DatabaseRecord)
  /-- Give a database up: no connection of it goes on. -/
  | dispose (serial : Nat)
  /-- Stop every task of a database that was given up. -/
  | clear (serial : Nat)
  /-- Give a database up and count it as unloaded. -/
  | release (serial : Nat)
  | released
  /-- Unload a database unless a connection keeps it active. -/
  | unload (name : String)
  /-- Unload the databases that nobody asked for up to a time. -/
  | unloadUnused (uptime : Nat)
  | announceShutdown
  /-- Wait until the loops of the node have ended. -/
  | awaitLoops
  | releaseAll
  | confirmShutdown

/-- What has to be done on a node, and which databases were unloaded. -/
structure Job where
  member : Nat
  chores : List Chore
  unloaded : List String

/-- Who does something in a fleet. -/
inductive Process where
  | dialer (process : DialerProcess)
  | acceptor (process : AcceptorProcess)
  /-- A reader whose connection broke off: it gives the line up once something came. -/
  | straggler (line : LineEnd)
  | gate (gate : Gate)
  | follower (follower : Follower)
  | sweeper (sweeper : Sweeper)
  | job (job : Job)

/-! ### The fleet -/

/-- A node of a fleet. -/
structure Member where
  node : Node
  /-- The log that the node follows. -/
  log : Nat
  /-- The origins whose pages may read administrative answers. -/
  origins : List String
  /-- Whether the node is shutting down. -/
  stopping : Bool

/-- Nodes on one network under one clock. -/
structure Fleet where
  /-- The clock of the timers, in milliseconds. -/
  clock : Nat
  /-- For how long the nodes are up as far as unused databases are concerned, in milliseconds. -/
  uptime : Nat
  /-- The time of the calendar. -/
  wall : Instant
  network : Network
  logs : SortedMap Nat Consensus
  members : SortedMap Nat Member
  processes : SortedMap Nat Process
  /-- The next number for a process or a loaded database. -/
  next : Nat
  /-- What was logged, the latest first. -/
  entries : List LogEntry

/-- A change of a fleet with an answer. -/
abbrev FleetM := StateM Fleet

namespace Fleet

/-- A fleet without nodes. -/
def empty (wall : Instant) : Fleet :=
  { clock := 0, uptime := 0, wall, network := .empty, logs := .empty, members := .empty
    processes := .empty, next := 0, entries := [] }

/-- The number of a new process or loaded database. -/
def fresh : FleetM Nat := modifyGet fun f => (f.next, { f with next := f.next + 1 })

/-- Log an event. -/
def log (entry : LogEntry) : FleetM Unit := modify fun f => { f with entries := entry :: f.entries }

/-- Log events. -/
def logAll (entries : List LogEntry) : FleetM Unit :=
  modify fun f => { f with entries := entries.reverse ++ f.entries }

/-- Change a node. -/
def onNode (member : Nat) (g : Node → Node) : FleetM Unit :=
  modify fun f => { f with members := f.members.adjust member fun m => { m with node := g m.node } }

/-- Change a loaded database of a node. -/
def onDatabase (member serial : Nat) (g : LoadedDatabase → LoadedDatabase) : FleetM Unit :=
  onNode member fun n => n.onDatabase serial g

/-- Put a process under its number. -/
def put (id : Nat) (process : Process) : FleetM Unit :=
  modify fun f => { f with processes := f.processes.insert id process }

/-- A process ends. -/
def remove (id : Nat) : FleetM Unit :=
  modify fun f => { f with processes := f.processes.erase id }

/-- A new process. -/
def spawn (process : Process) : FleetM Nat := do
  let id ← fresh
  put id process
  return id

/-- The state of the log that a node follows. -/
def stateOf (f : Fleet) (m : Member) : ClusterState :=
  match f.logs.get? m.log with
  | some log => log.state
  | none => .empty

/-- A loaded database of a node. -/
def database? (f : Fleet) (member serial : Nat) : Option LoadedDatabase :=
  (f.members.get? member).bind fun m => m.node.databases.get? serial

/-- Whether the peer at the other end of a line still takes what is written. -/
def reachable (f : Fleet) (e : LineEnd) : Bool :=
  !(f.network.available ⟨e.line, e.side.other⟩).closed

/-- What comes next at an end of a line. -/
def receive (f : Fleet) (e : LineEnd) : Received :=
  let pipe := f.network.available e
  Frame.read pipe.bytes pipe.closed

/-- Take what came next at an end of a line. -/
def consume (e : LineEnd) : Received → FleetM Unit
  | .frame _ rest | .failed _ rest =>
    modify fun f => { f with network := f.network.leave e rest }
  | .ended | .pending => pure ()

/-- Put frames on a line. -/
def transmit (e : LineEnd) (sent : List WrittenFrame) : FleetM Unit :=
  modify fun f =>
    { f with network := sent.foldl (fun n w =>
        match n.write e w.bytes with
        | .ok n => n
        | .error _ => n) f.network }

/-- How far a line got with what was written on it. -/
def delivery (f : Fleet) (e : LineEnd) (unsent : List UInt8) : Delivery :=
  if unsent.isEmpty then .passed else if f.reachable e then .held else .broken

/-- Write as many bytes on a line as there is room for: the bytes left over. -/
def push (e : LineEnd) (bytes : List UInt8) : FleetM (List UInt8) :=
  modifyGet fun f =>
    match f.network.push e bytes with
    | (rest, network) => (rest, { f with network })

/-- Take off at an end of a line what comes as it comes, or let it wait there. -/
def readAhead (e : LineEnd) (eager : Bool) : FleetM Unit :=
  modify fun f => { f with network := f.network.readAhead e eager }

/-- Give an end of a line up. -/
def hangUp (e : LineEnd) : FleetM Unit :=
  modify fun f => { f with network := f.network.close e }

/-- Keep what a connection changed of what it shares. -/
def putSite (member : Nat) (name : String) (serial : Option Nat) (site : Site) : FleetM Unit := do
  onNode member fun n => n.putSite name serial site
  logAll site.entries

/-- The runtime record of a dialer or an acceptor. -/
def runtimeOf (f : Fleet) (id : Nat) : ConnectionRuntime :=
  match f.processes.get? id with
  | some (.dialer p) => p.runtime
  | some (.acceptor p) => p.runtime
  | _ => .initial

end Fleet

end HubReplication
