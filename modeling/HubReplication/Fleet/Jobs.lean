/-
**Jobs.**

What takes time on a node is done by jobs, chore by chore: stopping a task waits for its dialer, and
a dialer may wait for an acknowledgement first.  A chore is done at once, gives way to other chores,
or has to wait; the tasks of a database are changed by one job at a time.

Main definitions:

* `Fleet.doChore` — do a chore, or find that it has to wait;
* `Fleet.runJob` — a step of a job;
* `Fleet.runFollower`, `Fleet.runSweeper`, `Fleet.runGate` — the loops of a node.
-/

import HubReplication.Fleet.Connections

set_option relaxedAutoImplicit false
set_option autoImplicit false

namespace HubReplication.Fleet

/-! ### Tasks -/

/-- Have a dialer stop. -/
def cancelDialer (id : Nat) : FleetM Unit := do
  match (← get).processes.get? id with
  | some (.dialer p) => put id (.dialer { p with cancelled := true })
  | _ => pure ()

/-- Whether a dialer has ended. -/
def isDialerOver (f : Fleet) (id : Nat) : Bool :=
  match f.processes.get? id with
  | some (.dialer p) => p.dialer.isOver
  | _ => true

/-- Stop a task of a database: the chores that are left to do. -/
def stopTask (member serial task : Nat) : FleetM (List Chore) := do
  match ((← get).database? member serial).bind fun d => d.outgoing.get? task with
  | none => return []
  | some running =>
    onDatabase member serial fun d => { d with outgoing := d.outgoing.erase task }
    return [.stopDialer running.dialer]

/-- Bring the tasks of a database in line: the chores that does. -/
def reconcile (member serial : Nat) (state : ClusterState) : FleetM (List Chore) := do
  match (← get).database? member serial with
  | none => return []
  | some d =>
    if d.disposed then return []
    match state.database? d.name with
    | none => return [.dispose serial]
    | some record =>
      return [.occupy serial, .stopStale serial record state, .startMissing serial record state,
        .vacate serial, .revoke serial record]

/-- The tasks of a database that have to stop: the chores that does. -/
def stopStale (member serial : Nat) (record : DatabaseRecord) (state : ClusterState) :
    FleetM (List Chore) := do
  let f ← get
  match f.members.get? member, f.database? member serial with
  | some m, some d =>
    return (d.stale (desiredTasks state record m.node.tag)).map (.stopTask serial)
  | _, _ => return []

/-- Connections of a database that lose their place. -/
def revoke (member serial : Nat) (record : DatabaseRecord) : FleetM Unit := do
  match (← get).database? member serial with
  | none => pure ()
  | some d =>
    let (d, entries) := d.revoke record
    onDatabase member serial fun _ => d
    logAll entries

/-- Change the tasks of a database from now on; false when somebody else does. -/
def occupy (member serial : Nat) : FleetM Bool := do
  match (← get).database? member serial with
  | none => return true
  | some d =>
    if d.busy then return false
    onDatabase member serial fun d => { d with busy := true }
    return true

/-- Take every task from a database that was given up: the chores that stop them. -/
def clear (member serial : Nat) : FleetM (List Chore) := do
  match (← get).database? member serial with
  | none => return []
  | some d =>
    onDatabase member serial fun d => { d with outgoing := .empty, busy := false }
    return d.outgoing.values.map fun running => .stopDialer running.dialer

/-! ### Databases -/

/-- Bring one database in line. -/
def align (f : Fleet) (member : Nat) (name : String) (serial : Nat) (state : ClusterState) :
    List Chore :=
  match f.members.get? member with
  | none => []
  | some m =>
    let hosted := state.hosts m.node.tag name
    (if hosted then [.reconcile serial state] else []) ++ [.dropStale name serial hosted]

/-- Release a database that is not hosted any more or was given up. -/
def dropStale (member : Nat) (name : String) (serial : Nat) (hosted : Bool) :
    FleetM (List Chore) := do
  match (← get).members.get? member with
  | none => return []
  | some m =>
    if hosted && !m.node.isDisposed serial then return []
    match m.node.leases.get? name with
    | none => return []
    | some lease =>
      onNode member fun n => n.evict name
      return [.release lease.serial]

/-- Unload a database unless a connection keeps it active, and note that it was. -/
def unload (id : Nat) (j : Job) (name : String) : FleetM (List Chore) := do
  match (← get).members.get? j.member with
  | none => return []
  | some m =>
    match m.node.leases.get? name with
    | none => return []
    | some lease =>
      if m.node.mayUnload name then
        onNode j.member fun n => n.evict name
        put id (.job { j with unloaded := j.unloaded ++ [name] })
        return [.release lease.serial]
      else
        log (.plain .debug .unloadVetoed)
        return []

/-- The chores of a node for what holds of it now. -/
def chores (member : Nat) (g : Node → List Chore) : FleetM (List Chore) := do
  match (← get).members.get? member with
  | none => return []
  | some m => return g m.node

/-- Load the databases that have dialing tasks. -/
def loadDialing (member : Nat) (state : ClusterState) : FleetM Unit := do
  match (← get).members.get? member with
  | none => pure ()
  | some m =>
    for name in m.node.dialing state do
      let _ ← load member name

/-! ### Shutting down -/

/-- Whether a process is a loop of a node that ends with it. -/
def isLoopOf (member : Nat) : Process → Bool
  | .follower f => f.member = member
  | .sweeper s => s.member = member
  | .gate g => g.member = member && g.tied && g.isOpen
  | _ => false

/-- Whether every loop of a node has ended. -/
def loopsEnded (f : Fleet) (member : Nat) : Bool := !(f.processes.values.any (isLoopOf member))

/-- Take every database from a node: the chores that release them. -/
def releaseAll (member : Nat) : FleetM (List Chore) := do
  let released ← chores member fun n => n.leases.values.map fun lease => .release lease.serial
  onNode member fun n => { n with leases := .empty }
  return released

/-! ### Chores -/

/-- Do a chore of a job: the chores it gives way to, or nothing while it has to wait. -/
def doChore (id : Nat) (j : Job) (chore : Chore) : FleetM (Option (List Chore)) := do
  let member := j.member
  match chore with
  | .sync state =>
    chores member fun n =>
      (n.leases.toList.map fun (name, lease) => .align name lease.serial state) ++
        [.loadDialing state]
  | .align name serial state => return some ((← get).align member name serial state)
  | .dropStale name serial hosted => dropStale member name serial hosted
  | .loadDialing state =>
    loadDialing member state
    return some []
  | .reconcile serial state => reconcile member serial state
  | .occupy serial => return if ← occupy member serial then some [] else none
  | .stopStale serial record state => stopStale member serial record state
  | .stopTask serial task => stopTask member serial task
  | .stopDialer dialer =>
    log (.plain .info .taskStopped)
    cancelDialer dialer
    return some [.awaitDialer dialer]
  | .awaitDialer dialer =>
    if (← get).isDialerOver dialer then
      remove dialer
      return some []
    else return none
  | .startMissing serial record state =>
    startMissing member serial record state
    return some []
  | .vacate serial =>
    onDatabase member serial fun d => { d with busy := false }
    return some []
  | .revoke serial record =>
    revoke member serial record
    return some []
  | .dispose serial =>
    onDatabase member serial fun d => { d with disposed := true }
    return some [.occupy serial, .clear serial]
  | .clear serial => clear member serial
  | .release serial => return some [.dispose serial, .released]
  | .released =>
    onNode member Node.countUnloaded
    log (.plain .info .databaseUnloaded)
    return some []
  | .unload name => unload id j name
  | .unloadUnused uptime => chores member fun n => (n.unused uptime).map .unload
  | .announceShutdown =>
    log (.plain .info .shutdownStart)
    modify fun f =>
      { f with members := f.members.adjust member fun m => { m with stopping := true } }
    return some []
  | .awaitLoops => return if (← get).loopsEnded member then some [] else none
  | .releaseAll => releaseAll member
  | .confirmShutdown =>
    log (.plain .info .shutdownComplete)
    return some []

/-- Go on with other chores. -/
def goOn (id : Nat) (chores : List Chore) : FleetM Unit := do
  match (← get).processes.get? id with
  | some (.job j) => put id (.job { j with chores })
  | _ => pure ()

/-- A step of a job; false when it has to wait or is done. -/
def runJob (id : Nat) (j : Job) : FleetM Bool := do
  match j.chores with
  | [] => return false
  | chore :: rest =>
    match ← doChore id j chore with
    | none => return false
    | some first =>
      goOn id (first ++ rest)
      return true

/-- Start a job on a node. -/
def startJob (member : Nat) (chores : List Chore) : FleetM Nat :=
  spawn (.job ⟨member, chores, []⟩)

/-- Whether a job is done. -/
def isJobDone (f : Fleet) (id : Nat) : Bool :=
  match f.processes.get? id with
  | some (.job j) => j.chores.isEmpty
  | _ => true

/-! ### Loops -/

/-- A step of a loop that has a job to wait for. -/
def awaitJob (job : Nat) (done : FleetM Unit) : FleetM Bool := do
  if (← get).isJobDone job then
    remove job
    done
    return true
  else return false

/-- A step of the loop that follows the log: one job covers every change so far. -/
def runFollower (id : Nat) (w : Follower) : FleetM Bool := do
  match w.job with
  | some job => awaitJob job (put id (.follower { w with job := none }))
  | none =>
    let f ← get
    match f.members.get? w.member with
    | none => return false
    | some m =>
      let changes := match f.logs.get? m.log with
        | some log => log.changes.length
        | none => 0
      if m.stopping && w.seen.isSome then
        remove id
        return true
      else if w.seen = some changes then return false
      else
        let job ← startJob w.member [.sync (f.stateOf m)]
        put id (.follower { w with seen := some changes, job := some job })
        return true

/-- A step of the loop that unloads databases. -/
def runSweeper (id : Nat) (s : Sweeper) : FleetM Bool := do
  match s.job with
  | some job => awaitJob job (put id (.sweeper { s with job := none }))
  | none =>
    let f ← get
    match f.members.get? s.member with
    | none => return false
    | some m =>
      if m.stopping then
        remove id
        return true
      else if s.next ≤ f.clock then
        let job ← startJob s.member [.unloadUnused f.uptime]
        put id (.sweeper { s with next := Beat.next s.next f.clock s.every, job := some job })
        return true
      else return false

/-- The loop that accepts connections ends. -/
def closeGate (id : Nat) (g : Gate) : FleetM Unit := do
  modify fun f => { f with network := f.network.dropListener g.listener }
  put id (.gate { g with isOpen := false })

/-- A step of the loop that accepts connections. -/
def runGate (id : Nat) (g : Gate) : FleetM Bool := do
  let f ← get
  match g.isOpen, f.members.get? g.member with
  | true, some m =>
    if g.tied && m.stopping then
      closeGate id g
      return true
    else
      match f.network.accept g.listener with
      | (.nothing, _) => return false
      | (.failed _, _) =>
        closeGate id g
        return true
      | (.arrived line peer, network) =>
        set { f with network }
        let acceptor : Acceptor :=
          { node := m.node.tag, security := m.node.security, settings := m.node.settings, peer
            phase := .greeting (f.clock + m.node.settings.handshakeTimeout) }
        let _ ← spawn (.acceptor ⟨g.member, id, line, acceptor, .initial, none, false, []⟩)
        return true
  | _, _ => return false

end HubReplication.Fleet
