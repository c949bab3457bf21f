/-
**Where tasks run.**

Every node works out for itself, from the state it follows, which tasks are its own.  Nodes that
follow the same state never disagree: they see the same live members of a database, and the mentor
of a task, or else its identity, picks one of them.  The record of a database has the connection
string of each of its dialing tasks, so a node has a task to start wherever it is responsible for
one, and the databases it loads for their tasks are those with a task to start.

Main definitions:

* `ClusterState.Wants` — a node should run a task of a database;
* `ClusterState.RunsOnce` — one live member should, and no node while no member can be reached.

Main results:

* `Destination.exists_responsibleNode`, `Destination.mem_liveMembers_of_responsibleNode` — a live
  member is responsible, if there is one;
* `ClusterState.RecordSound.get?_desiredTasks_eq_some_iff` — the tasks a node should run;
* `ClusterState.Reachable.runs_on_one_node` — each dialing task of a database on one node, and a
  database loaded where it has a task to run.
-/

import HubReplication.Hosting.Node
import HubReplication.Proofs.Bindings
import HubReplication.Proofs.Cluster.Reachable

set_option relaxedAutoImplicit false
set_option autoImplicit false

namespace HubReplication

/-! ### Responsibility -/

section Responsibility

variable {task : OngoingTask} {database : DatabaseTopology} {cluster : ClusterTopology}
  {node mentor : NodeTag}

theorem DatabaseTopology.mem_liveMembers :
    node ∈ database.liveMembers cluster ↔ node ∈ database.members ∧ cluster.isAlive node = true :=
  List.mem_filter

namespace Destination

/-- The mentor of a task runs it while it is a live member. -/
theorem responsibleNode_of_mentor (hmentor : task.mentorNode = some mentor)
    (hlive : mentor ∈ database.liveMembers cluster) :
    responsibleNode task database cluster = some mentor := by
  simp only [responsibleNode, hmentor]
  rw [if_pos (List.contains_iff_mem.2 hlive)]

theorem mem_liveMembers_of_responsibleNode
    (h : responsibleNode task database cluster = some node) :
    node ∈ database.liveMembers cluster := by
  simp only [responsibleNode] at h
  split at h
  · split at h
    · rename_i hcontains
      cases h
      exact List.contains_iff_mem.1 hcontains
    · exact List.mem_of_getElem? h
  · exact List.mem_of_getElem? h

/-- While a member can be reached, some node is responsible. -/
theorem exists_responsibleNode (task : OngoingTask) (hlive : node ∈ database.liveMembers cluster) :
    ∃ chosen, responsibleNode task database cluster = some chosen := by
  have hpos : 0 < (database.liveMembers cluster).length := List.length_pos_of_mem hlive
  have hpicked : task.taskId.value % (database.liveMembers cluster).length <
      (database.liveMembers cluster).length := Nat.mod_lt _ hpos
  simp only [responsibleNode]
  split
  · split
    · exact ⟨_, rfl⟩
    · exact ⟨_, List.getElem?_eq_getElem hpicked⟩
  · exact ⟨_, List.getElem?_eq_getElem hpicked⟩

end Destination

end Responsibility

/-! ### Tasks to run -/

section Desired

variable {s : ClusterState} {name : String} {r : DatabaseRecord} {node : NodeTag}
  {task : OngoingTask} {last : Nat}

theorem runsOn_eq_true_iff : runsOn s r node task = true ↔
    task.isDialer = true ∧ task.disabled = false ∧
      Destination.responsibleNode task r.topology s.topology = some node := by
  simp only [runsOn, Bool.and_eq_true, Bool.not_eq_true', beq_iff_eq, and_assoc]

/-- A record has the connection string of every task that dials. -/
theorem DialersSound.exists_connection (h : DialersSound r.sinks r.externals r.connectionStrings)
    (hmem : task ∈ r.ongoingTasks) (hdials : task.isDialer = true) :
    ∃ connection, task.connectionStringName.bind r.connectionString? = some connection := by
  simp only [DatabaseRecord.ongoingTasks, List.mem_append, List.mem_map] at hmem
  rcases hmem with (⟨hub, -, rfl⟩ | ⟨sink, hsink, rfl⟩) | ⟨external, hexternal, rfl⟩
  · cases hdials
  · exact h.sink_connection hsink
  · obtain ⟨connection, hconnection, -⟩ := h.external_connection hexternal
    exact ⟨connection, hconnection⟩

namespace ClusterState

/-- No identity is bound twice among the tasks a node should run. -/
theorem RecordSound.pairwise_desired (h : RecordSound last name r) :
    ((r.ongoingTasks.filter (runsOn s r node)).filterMap fun task =>
      (task.connectionStringName.bind r.connectionString?).map fun connection =>
        (task.taskId.value, ({ task, connection } : DialingTask))).Pairwise
      fun a b => a.1 ≠ b.1 := by
  rw [List.pairwise_filterMap]
  have hids : r.ongoingTasks.Pairwise fun a b => a.taskId ≠ b.taskId :=
    List.pairwise_map.1 h.ids_nodup
  refine (hids.filter _).imp fun {a b} hab => ?_
  intro p hp q hq heq
  obtain ⟨_, -, rfl⟩ := Option.map_eq_some_iff.1 hp
  obtain ⟨_, -, rfl⟩ := Option.map_eq_some_iff.1 hq
  exact hab (congrArg TaskId.mk heq)

/-- A node should run the tasks it is responsible for, each through its connection string. -/
theorem RecordSound.get?_desiredTasks_eq_some_iff (h : RecordSound last name r) {id : Nat}
    {work : DialingTask} :
    (desiredTasks s r node).get? id = some work ↔
      work.task ∈ r.ongoingTasks ∧ runsOn s r node work.task = true ∧
        work.task.taskId.value = id ∧
        work.task.connectionStringName.bind r.connectionString? = some work.connection := by
  rw [desiredTasks, SortedMap.get?_ofList_eq_some_iff h.pairwise_desired, List.mem_filterMap]
  constructor
  · rintro ⟨task, hmem, hbound⟩
    obtain ⟨connection, hconnection, heq⟩ := Option.map_eq_some_iff.1 hbound
    obtain ⟨rfl, rfl⟩ := Prod.mk.inj heq
    obtain ⟨hmem, hruns⟩ := List.mem_filter.1 hmem
    exact ⟨hmem, hruns, rfl, hconnection⟩
  · rintro ⟨hmem, hruns, rfl, hconnection⟩
    exact ⟨work.task, List.mem_filter.2 ⟨hmem, hruns⟩, by rw [hconnection]; rfl⟩

/-- A node should run a task of a database. -/
def Wants (s : ClusterState) (r : DatabaseRecord) (node : NodeTag) (task : OngoingTask) : Prop :=
  ∃ connection, (desiredTasks s r node).get? task.taskId.value = some ⟨task, connection⟩

/-- A task that dials and is not disabled is wanted by the node that is responsible for it. -/
theorem RecordSound.wants_iff (h : RecordSound last name r) (hmem : task ∈ r.ongoingTasks)
    (hdials : task.isDialer = true) (henabled : task.disabled = false) :
    s.Wants r node task ↔
      Destination.responsibleNode task r.topology s.topology = some node := by
  constructor
  · rintro ⟨connection, hwanted⟩
    obtain ⟨-, hruns, -⟩ := h.get?_desiredTasks_eq_some_iff.1 hwanted
    exact (runsOn_eq_true_iff.1 hruns).2.2
  · intro hresponsible
    obtain ⟨connection, hconnection⟩ := h.dialers.exists_connection hmem hdials
    have hruns := runsOn_eq_true_iff.2 ⟨hdials, henabled, hresponsible⟩
    exact ⟨connection, h.get?_desiredTasks_eq_some_iff.2 ⟨hmem, hruns, rfl, hconnection⟩⟩

/-- A node has a task to run where it is responsible for one. -/
theorem RecordSound.any_runsOn_iff (h : RecordSound last name r) :
    r.ongoingTasks.any (runsOn s r node) = true ↔ (desiredTasks s r node).isEmpty = false := by
  rw [SortedMap.isEmpty_eq_false_iff, List.any_eq_true]
  constructor
  · rintro ⟨task, hmem, hruns⟩
    obtain ⟨connection, hconnection⟩ :=
      h.dialers.exists_connection hmem (runsOn_eq_true_iff.1 hruns).1
    exact ⟨task.taskId.value, ⟨task, connection⟩,
      h.get?_desiredTasks_eq_some_iff.2 ⟨hmem, hruns, rfl, hconnection⟩⟩
  · rintro ⟨id, work, hwanted⟩
    obtain ⟨hmem, hruns, -⟩ := h.get?_desiredTasks_eq_some_iff.1 hwanted
    exact ⟨work.task, hmem, hruns⟩

end ClusterState

end Desired

/-! ### One node each -/

namespace ClusterState

/-- While a member of the database can be reached, one node should run a task: a live member, and
the mentor if that is one.  While none can be reached, no node should. -/
structure RunsOnce (s : ClusterState) (name : String) (r : DatabaseRecord) (task : OngoingTask) :
    Prop where
  placed : ∀ member ∈ r.topology.members, s.topology.isAlive member = true →
    ∃ node, (∀ other, s.Wants r other task ↔ other = node) ∧
      node ∈ r.topology.members ∧ s.topology.isAlive node = true ∧ s.hosts node name = true ∧
      ∀ mentor ∈ r.topology.members, task.mentorNode = some mentor →
        s.topology.isAlive mentor = true → node = mentor
  idle : (∀ member ∈ r.topology.members, s.topology.isAlive member = false) →
    ∀ node, ¬s.Wants r node task

variable {s : ClusterState} {name : String} {r : DatabaseRecord} {task : OngoingTask} {last : Nat}

theorem RecordSound.runsOnce (h : RecordSound last name r) (hr : s.database? name = some r)
    (hmem : task ∈ r.ongoingTasks) (hdials : task.isDialer = true)
    (henabled : task.disabled = false) : s.RunsOnce name r task where
  placed member hmember halive := by
    have hlive := DatabaseTopology.mem_liveMembers.2 ⟨hmember, halive⟩
    obtain ⟨node, hresponsible⟩ := Destination.exists_responsibleNode task hlive
    obtain ⟨hin, hup⟩ := DatabaseTopology.mem_liveMembers.1
      (Destination.mem_liveMembers_of_responsibleNode hresponsible)
    refine ⟨node, fun other => ?_, hin, hup, ?_, fun mentor hmentor hnamed hreached => ?_⟩
    · rw [h.wants_iff hmem hdials henabled, hresponsible, Option.some.injEq, eq_comm]
    · simpa [hosts, hr, DatabaseTopology.contains] using hin
    · rw [Destination.responsibleNode_of_mentor hnamed
        (DatabaseTopology.mem_liveMembers.2 ⟨hmentor, hreached⟩)] at hresponsible
      exact (Option.some.inj hresponsible).symm
  idle hdown node hwants := by
    have hresponsible := (h.wants_iff hmem hdials henabled).1 hwants
    obtain ⟨hin, hup⟩ := DatabaseTopology.mem_liveMembers.1
      (Destination.mem_liveMembers_of_responsibleNode hresponsible)
    rw [hdown node hin] at hup
    cases hup

/-- A node loads a database for its tasks where it has a task to run. -/
theorem RecordSound.mem_dialing_iff (h : RecordSound last name r) (hr : s.database? name = some r)
    (n : Node) : name ∈ n.dialing s ↔ (desiredTasks s r n.tag).isEmpty = false := by
  rw [← h.any_runsOn_iff, Node.dialing, List.mem_map]
  constructor
  · rintro ⟨⟨other, r'⟩, hmem, hname⟩
    obtain ⟨hmem, hruns⟩ := List.mem_filter.1 hmem
    have hr' : s.database? other = some r' := SortedMap.get?_eq_some_iff.2 hmem
    obtain rfl : other = name := hname
    obtain rfl : r' = r := Option.some.inj (hr'.symm.trans hr)
    exact (Bool.and_eq_true_iff.1 hruns).2
  · intro hany
    refine ⟨(name, r), List.mem_filter.2 ⟨SortedMap.get?_eq_some_iff.1 hr, ?_⟩, rfl⟩
    -- The node is responsible for a task, so it is a member of the database.
    obtain ⟨task, hmem, hruns⟩ := List.any_eq_true.1 hany
    have hlive := Destination.mem_liveMembers_of_responsibleNode (runsOn_eq_true_iff.1 hruns).2.2
    have hcontains : r.topology.contains n.tag = true :=
      List.contains_iff_mem.2 (DatabaseTopology.mem_liveMembers.1 hlive).1
    exact Bool.and_eq_true_iff.2 ⟨hcontains, hany⟩

/-- In every state there is each dialing task of a database that is not disabled runs on one node, a
live member and the mentor if that is one, or on none while no member can be reached; a node is
responsible for a task of the database where it has one to run, and loads it for its tasks there and
nowhere else. -/
theorem Reachable.runs_on_one_node (h : s.Reachable) (hr : s.database? name = some r) :
    (∀ task ∈ r.ongoingTasks, task.isDialer = true → task.disabled = false →
      s.RunsOnce name r task) ∧
    (∀ node, r.ongoingTasks.any (runsOn s r node) = true ↔
      (desiredTasks s r node).isEmpty = false) ∧
    ∀ n : Node, name ∈ n.dialing s ↔ (desiredTasks s r n.tag).isEmpty = false := by
  have hsound := h.wellFormed.record hr
  exact ⟨fun task hmem hdials henabled => hsound.runsOnce hr hmem hdials henabled,
    fun node => hsound.any_runsOn_iff, hsound.mem_dialing_iff hr⟩

/-- A sink whose mentor cannot be reached, of a database on three nodes. -/
def mentorDown : List (Nat × ClusterCommand) :=
  [(1, .putClusterTopology
      ⟨[⟨⟨"A"⟩, "mem://a", true⟩, ⟨⟨"B"⟩, "mem://b", true⟩, ⟨⟨"C"⟩, "mem://c", true⟩]⟩),
    (2, .putDatabase "orders" ⟨[⟨"A"⟩, ⟨"B"⟩, ⟨"C"⟩]⟩),
    (3, .putConnectionString "orders" ⟨"to-hub", "orders", ["mem://hub"]⟩),
    (4, .defineSink "orders"
      ⟨"pull", "to-hub", "feed", none, .hubToSink, none, ⟨0⟩, false, some ⟨"C"⟩⟩),
    (5, .setNodeAlive ⟨"C"⟩ false)]

/-- The sink runs on the first of the two nodes that can be reached, and on no other. -/
theorem runs_on_one_node_mentorDown :
    ∃ r, (replay mentorDown).database? "orders" = some r ∧
      (∀ task ∈ r.ongoingTasks, task.isDialer = true → task.disabled = false →
        (replay mentorDown).RunsOnce "orders" r task) ∧
      (r.ongoingTasks.map fun task => (task.taskId, task.isDialer, task.disabled)) =
        [(⟨4⟩, true, false)] ∧
      (["A", "B", "C"].map fun tag => (desiredTasks (replay mentorDown) r ⟨tag⟩).keys) =
        [[4], [], []] := by
  have hwants : ((replay mentorDown).database? "orders").map (fun r =>
      (r.ongoingTasks.map fun task => (task.taskId, task.isDialer, task.disabled),
        ["A", "B", "C"].map fun tag => (desiredTasks (replay mentorDown) r ⟨tag⟩).keys)) =
      some ([(⟨4⟩, true, false)], [[4], [], []]) := by decide +kernel
  obtain ⟨r, hr, heq⟩ := Option.map_eq_some_iff.1 hwants
  have hreachable : (replay mentorDown).Reachable := reachable_replay (by decide) (by decide)
  obtain ⟨honce, -⟩ := hreachable.runs_on_one_node hr
  exact ⟨r, hr, honce, (Prod.mk.inj heq).1, (Prod.mk.inj heq).2⟩

end ClusterState

end HubReplication
