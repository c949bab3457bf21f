/-
**A configuration that keeps the rules boots.**

A node that starts from its file proposes to an empty log the cluster and then each database that
the file names.  The rules on the file and the rules on commands are two sets of rules; the first
set is enough for the second, whatever the members of the cluster and whichever databases are named,
in whatever order and however often.  A name that comes again is answered from the requests that the
log remembers or, where too many others came in between, by the same command once more.

Main definitions:

* `Consensus.Accepts` — every one of some proposals is accepted;
* `NodeConfig.Founded` — a log to which the cluster and some of the databases were proposed;
* `NodeConfig.Settled` — what a node finds in its log once it has started.

Main results:

* `NodeConfig.Founded.propose`, `NodeConfig.Founded.accepts` — one more database, and all of them;
* `NodeConfig.bootstrap_of_validate` — a configuration that keeps the rules boots.
-/

import HubReplication.Config.Bootstrap
import HubReplication.Proofs.Cluster.Log

set_option relaxedAutoImplicit false
set_option autoImplicit false

namespace HubReplication

/-! ### Proposals one after another -/

namespace Consensus

/-- Every one of some proposals is accepted when they are made one after another. -/
def Accepts (log : Consensus) : List (String × ClusterCommand) → Prop
  | [] => True
  | (id, command) :: rest =>
    (∃ index, (log.propose id command).1.outcome = .ok index) ∧
      (log.propose id command).2.Accepts rest

/-- The log after some proposals, whatever became of them. -/
def afterAll (log : Consensus) (proposals : List (String × ClusterCommand)) : Consensus :=
  proposals.foldl (fun log proposal => (log.propose proposal.1 proposal.2).2) log

theorem proposeAll_of_accepts {log : Consensus} {proposals : List (String × ClusterCommand)}
    (h : log.Accepts proposals) :
    ∃ entries, log.proposeAll proposals = (.ok (), log.afterAll proposals, entries) := by
  induction proposals generalizing log with
  | nil => exact ⟨[], rfl⟩
  | cons proposal rest ih =>
      obtain ⟨id, command⟩ := proposal
      obtain ⟨⟨index, haccepted⟩, hrest⟩ := h
      obtain ⟨entries, hentries⟩ := ih hrest
      exact ⟨_, by simp only [proposeAll, haccepted, hentries]; rfl⟩

variable {log : Consensus} {id other : String} {command : ClusterCommand} {task : Option TaskId}
  {next : ClusterState} {outcome : Outcome Nat}

/-- A proposal under a new request whose command succeeds: it is accepted, and nothing is remembered
but its own outcome and what was remembered before. -/
theorem InStep.propose_fresh (h : log.InStep) (hid : Text.isBlankText id = false)
    (hready : log.failNext = 0) (hfresh : log.recorded? id = none)
    (happly : log.state.apply (log.state.lastIndex + 1) command = (.ok task, next)) :
    (log.propose id command).1 = .applied (log.state.lastIndex + 1) ∧
      (log.propose id command).2.failNext = 0 ∧ (log.propose id command).2.state = next ∧
      ∀ {other outcome}, (log.propose id command).2.recorded? other = some outcome →
        other = id ∧ outcome = .ok (log.state.lastIndex + 1) ∨
          log.recorded? other = some outcome := by
  obtain ⟨committed, hcommit, hstate, hready', hrequests, horder⟩ : ∃ committed : Consensus,
      log.commit command = (.applied (log.state.lastIndex + 1), committed) ∧
      committed.state = next ∧ committed.failNext = 0 ∧
      committed.requests = log.requests ∧ committed.requestOrder = log.requestOrder :=
    ⟨_, commit_of_ok rfl happly, rfl, hready, rfl, rfl⟩
  have hpropose : log.propose id command = (.applied (log.state.lastIndex + 1),
      committed.remember id (.ok (log.state.lastIndex + 1))) := by
    unfold Consensus.propose
    rw [if_neg (by simp [hid]), if_neg (by omega), hfresh, hcommit]
    rfl
  have hfresh' : committed.recorded? id = none := by rwa [recorded?, hrequests]
  rw [hpropose]
  refine ⟨rfl, hready', hstate, fun {other outcome} hrecorded => ?_⟩
  rw [(h.of_eq hrequests horder).recorded?_remember_eq hfresh'] at hrecorded
  split at hrecorded
  · split at hrecorded
    · rename_i hother
      cases hrecorded
      exact .inl ⟨hother, rfl⟩
    · rw [recorded?, hrequests] at hrecorded
      exact .inr hrecorded
  · cases hrecorded

end Consensus

namespace NodeConfig

variable {c : NodeConfig} {names : List String} {log : Consensus} {name : String}

/-- The request under which a database is proposed. -/
def databaseRequest (name : String) : String := "bootstrap-database-" ++ name

/-- The command that creates a database on the node. -/
def createHere (c : NodeConfig) (name : String) : ClusterCommand := .putDatabase name ⟨[c.tag]⟩

/-- A log to which the cluster of a configuration and the databases of some names were proposed. -/
structure Founded (c : NodeConfig) (names : List String) (log : Consensus) : Prop where
  ready : log.failNext = 0
  inStep : log.InStep
  topology : log.state.topology = c.topology
  created : ∀ {name}, name ∈ names → ∃ r, log.state.database? name = some r
  here : ∀ {name r}, log.state.database? name = some r → name ∈ names ∧ r.topology = ⟨[c.tag]⟩
  /-- What is remembered was accepted, and of databases only what was proposed is remembered. -/
  remembered : ∀ {id outcome}, log.recorded? id = some outcome →
    (∃ index, outcome = .ok index) ∧ ∀ name, id = databaseRequest name → name ∈ names

/-- What a node finds in its log once it has started. -/
structure Settled (c : NodeConfig) (log : Consensus) : Prop where
  /-- The node comes first, and after it the members, by their tags. -/
  topology : log.state.topology.nodes.head? = some ⟨c.tag, c.publicUrl, true⟩
  members : ∀ {tag url}, ⟨⟨tag⟩, url, true⟩ ∈ log.state.topology.nodes.tail ↔
    c.clusterMembers.get? tag = some url
  alive : ∀ {node}, node ∈ log.state.topology.nodes → node.alive = true
  ordered : log.state.topology.nodes.tail.Pairwise fun a b => a.tag.text < b.tag.text
  /-- The databases that are named are there, each on this node alone, and no others. -/
  hosted : ∀ {name}, name ∈ c.databases → ∀ node, log.state.hosts node name = true ↔ node = c.tag
  databases : ∀ {name}, (log.state.database? name).isSome = true ↔ name ∈ c.databases

/-! ### Requests -/

theorem toList_databaseRequest (name : String) :
    (databaseRequest name).toList = "bootstrap-database-".toList ++ name.toList :=
  String.toList_append

theorem databaseRequest_injective {a b : String} (h : databaseRequest a = databaseRequest b) :
    a = b := by
  have hlist := congrArg String.toList h
  rw [toList_databaseRequest, toList_databaseRequest] at hlist
  exact String.toList_inj.1 (List.append_cancel_left hlist)

theorem isBlankText_databaseRequest (name : String) :
    Text.isBlankText (databaseRequest name) = false := by
  have hword : "bootstrap-database-".toList.all Text.isBlank = false := by decide
  rw [Text.isBlankText, toList_databaseRequest, List.all_append, hword, Bool.false_and]

/-- The request of the cluster is that of no database. -/
theorem topologyRequest_ne (name : String) : "bootstrap-topology" ≠ databaseRequest name := by
  intro h
  have hlist := congrArg String.toList h
  rw [toList_databaseRequest] at hlist
  -- The requests part at the letter after their common beginning.
  have hletter := congrArg (·[10]?) hlist
  rw [List.getElem?_append_left (by decide)] at hletter
  revert hletter
  decide

/-! ### The commands of a configuration -/

/-- The node is a member of its own cluster. -/
theorem node?_topology (c : NodeConfig) : (c.topology.node? c.tag).isSome = true := by
  simp [topology, ClusterTopology.node?]

/-- A database is created on the node, or is there on the node alone. -/
theorem apply_createHere {s : ClusterState} (htopology : s.topology = c.topology) (name : String)
    (index : Nat) :
    ∃ next r, s.apply index (c.createHere name) = (.ok none, next) ∧ r.topology = ⟨[c.tag]⟩ ∧
      next.topology = s.topology ∧
      ∀ other, next.database? other = if other = name then some r else s.database? other := by
  have hmember : (s.topology.node? c.tag).isNone = false := by
    rw [htopology, Option.isNone_eq_false_iff]
    exact node?_topology c
  obtain ⟨r, hr, htopology'⟩ : ∃ r : DatabaseRecord,
      s.run index (c.createHere name) = (.ok none, s.putRecord name r) ∧ r.topology = ⟨[c.tag]⟩ :=
    ⟨_, by simp [ClusterState.run, createHere, ClusterState.putDatabase, hmember]; rfl, rfl⟩
  refine ⟨(s.putRecord name r).stamp index (some name), { r with etag := index }, ?_, htopology',
    rfl, fun other => ClusterState.database?_stamp_putRecord other⟩
  rw [ClusterState.apply, hr]
  rfl

/-! ### One proposal -/

/-- The log of a node knows the cluster once the cluster was proposed. -/
theorem founded_topology (h : c.topology.validate = .ok ()) :
    (∃ index, (Consensus.empty.propose "bootstrap-topology"
      (.putClusterTopology c.topology)).1.outcome = .ok index) ∧
      c.Founded [] (Consensus.empty.propose "bootstrap-topology"
        (.putClusterTopology c.topology)).2 := by
  have happly : ClusterState.empty.apply 1 (.putClusterTopology c.topology) =
      (.ok none, { ClusterState.empty with topology := c.topology, lastIndex := 1 }) := by
    simp only [ClusterState.apply, ClusterState.run, h]
    rfl
  obtain ⟨haccepted, hready, hstate, hremembered⟩ :=
    Consensus.inStep_empty.propose_fresh (by decide : Text.isBlankText "bootstrap-topology" = false) rfl rfl happly
  refine ⟨⟨1, by rw [haccepted]; rfl⟩, hready, Consensus.inStep_empty.propose _ _, by rw [hstate],
    fun hname => absurd hname List.not_mem_nil, fun {name r} hr => ?_, fun {id outcome} hrecorded => ?_⟩
  · rw [hstate] at hr
    cases hr
  · rcases hremembered hrecorded with ⟨rfl, rfl⟩ | hempty
    · exact ⟨⟨_, rfl⟩, fun name hname => absurd hname (topologyRequest_ne name)⟩
    · cases hempty

/-- One more database is accepted, whether or not it was proposed before. -/
theorem Founded.propose (h : c.Founded names log) (name : String) :
    (∃ index, (log.propose (databaseRequest name) (c.createHere name)).1.outcome = .ok index) ∧
      c.Founded (names ++ [name]) (log.propose (databaseRequest name) (c.createHere name)).2 := by
  have hid := isBlankText_databaseRequest name
  cases hrecorded : log.recorded? (databaseRequest name) with
  | some outcome =>
      obtain ⟨⟨index, rfl⟩, hproposed⟩ := h.remembered hrecorded
      have hmem := hproposed name rfl
      rw [Consensus.propose_recorded hid h.ready hrecorded]
      refine ⟨⟨index, rfl⟩, h.ready, h.inStep, h.topology, fun hname => ?_, fun hr => ?_,
        fun hrecorded' => ?_⟩
      · rcases List.mem_append.1 hname with hold | hnew
        · exact h.created hold
        · rw [List.mem_singleton.1 hnew]
          exact h.created hmem
      · exact ⟨List.mem_append_left _ (h.here hr).1, (h.here hr).2⟩
      · obtain ⟨hok, hnames⟩ := h.remembered hrecorded'
        exact ⟨hok, fun other hother => List.mem_append_left _ (hnames other hother)⟩
  | none =>
      obtain ⟨next, r, happly, hr, htopology, hdatabases⟩ :=
        apply_createHere h.topology name (log.state.lastIndex + 1)
      obtain ⟨haccepted, hready, hstate, hremembered⟩ :=
        h.inStep.propose_fresh hid h.ready hrecorded happly
      refine ⟨⟨_, by rw [haccepted]; rfl⟩, hready, h.inStep.propose _ _, ?_,
        fun {asked} hname => ?_, fun {asked q} hq => ?_, fun {id outcome} hrecorded' => ?_⟩
      · rw [hstate, htopology, h.topology]
      · rw [hstate, hdatabases]
        split
        · exact ⟨r, rfl⟩
        · rename_i hother
          exact h.created ((List.mem_append.1 hname).resolve_right fun hnew =>
            hother (List.mem_singleton.1 hnew))
      · rw [hstate, hdatabases] at hq
        split at hq
        · rename_i hasked
          cases hq
          exact ⟨by simp [hasked], hr⟩
        · exact ⟨List.mem_append_left _ (h.here hq).1, (h.here hq).2⟩
      · rcases hremembered hrecorded' with ⟨rfl, rfl⟩ | hold
        · exact ⟨⟨_, rfl⟩, fun asked hasked => by simp [databaseRequest_injective hasked]⟩
        · obtain ⟨hok, hnames⟩ := h.remembered hold
          exact ⟨hok, fun asked hasked => List.mem_append_left _ (hnames asked hasked)⟩

/-! ### All proposals -/

/-- Databases are accepted one after another, in whatever order and however often they come. -/
theorem Founded.accepts (h : c.Founded names log) (rest : List String) :
    log.Accepts (rest.map fun name => (databaseRequest name, c.createHere name)) ∧
      c.Founded (names ++ rest)
        (log.afterAll (rest.map fun name => (databaseRequest name, c.createHere name))) := by
  induction rest generalizing names log with
  | nil => exact ⟨trivial, by simpa [Consensus.afterAll] using h⟩
  | cons name rest ih =>
      obtain ⟨haccepted, hnext⟩ := h.propose name
      obtain ⟨haccepts, hfounded⟩ := ih hnext
      exact ⟨⟨haccepted, haccepts⟩, by simpa [Consensus.afterAll] using hfounded⟩

theorem founded_proposals (h : c.topology.validate = .ok ()) :
    Consensus.empty.Accepts c.proposals ∧
      c.Founded c.databases (Consensus.empty.afterAll c.proposals) := by
  obtain ⟨haccepted, hfounded⟩ := founded_topology h
  obtain ⟨haccepts, hall⟩ := hfounded.accepts c.databases
  exact ⟨⟨haccepted, haccepts⟩, hall⟩

theorem Founded.settled (h : c.Founded c.databases log) : c.Settled log where
  topology := by
    rw [h.topology]
    rfl
  members {tag url} := by
    rw [h.topology, SortedMap.get?_eq_some_iff]
    simp [NodeConfig.topology]
  alive {node} hnode := by
    rw [h.topology] at hnode
    simp only [NodeConfig.topology, List.mem_cons, List.mem_map] at hnode
    rcases hnode with rfl | ⟨member, -, rfl⟩ <;> rfl
  ordered := by
    rw [h.topology]
    refine List.pairwise_map.2 (c.clusterMembers.ordered.imp fun {a b} hlt => ?_)
    exact compareOfLessAndEq_eq_lt.1 hlt
  hosted {name} hname node := by
    obtain ⟨r, hr⟩ := h.created hname
    simp [ClusterState.hosts, hr, (h.here hr).2, DatabaseTopology.contains]
  databases {name} := by
    rw [Option.isSome_iff_exists]
    exact ⟨fun ⟨r, hr⟩ => (h.here hr).1, h.created⟩

/-- The rules on the file hold of the cluster that it describes. -/
theorem validate_topology (h : c.validate = .ok ()) : c.topology.validate = .ok () := by
  simp only [validate, bind, Except.bind] at h
  split at h
  · cases h
  · split at h
    · cases h
    · exact h

/-- A node starts from every configuration that keeps the rules and whose security loads: all that
it proposes to its log is accepted, and the log then holds its cluster and its databases. -/
theorem bootstrap_of_validate {fileAt : String → Option String} {security : ServerSecurity}
    (hvalid : c.validate = .ok ()) (hsecurity : ServerSecurity.load c.security fileAt = .ok security) :
    Consensus.empty.Accepts c.proposals ∧
      ∃ log, c.bootstrap fileAt = .ok (security, log) ∧ c.Settled log := by
  obtain ⟨haccepts, hfounded⟩ := founded_proposals (validate_topology hvalid)
  obtain ⟨entries, hall⟩ := Consensus.proposeAll_of_accepts haccepts
  refine ⟨haccepts, _, ?_, hfounded.settled⟩
  unfold bootstrap
  rw [hvalid, hsecurity, hall]
  rfl

/-- A node between two others, which names one database twice. -/
def between : NodeConfig :=
  { NodeConfig.default with
    nodeTag := "B"
    clusterMembers := .ofList [("C", "tcp://c:38888"), ("A", "tcp://a:38888")]
    databases := ["orders", "users", "orders"] }

/-- The second proposal of one database is answered from the first, and the members come in the
order of their tags. -/
theorem bootstrap_of_validate_between :
    between.validate = .ok () ∧
      ServerSecurity.load between.security (fun _ => none) = .ok .unsecured ∧
      Consensus.empty.Accepts between.proposals ∧
      ∃ log, between.bootstrap (fun _ => none) = .ok (.unsecured, log) ∧
        log.state.topology.nodes.map (·.tag) = [⟨"B"⟩, ⟨"A"⟩, ⟨"C"⟩] ∧ log.state.lastIndex = 3 ∧
        log.state.hosts ⟨"B"⟩ "orders" = true ∧ log.state.hosts ⟨"A"⟩ "orders" = false := by
  have hvalid : between.validate = .ok () := by decide +kernel
  have hsecurity : ServerSecurity.load between.security (fun _ => none) = .ok .unsecured := rfl
  obtain ⟨haccepts, log, hlog, hsettled⟩ := bootstrap_of_validate hvalid hsecurity
  have hmember : "orders" ∈ between.databases := by decide
  refine ⟨hvalid, hsecurity, haccepts, log, hlog, ?_, ?_, (hsettled.hosted hmember _).2 rfl, ?_⟩
  · have htags : (between.bootstrap fun _ => none).map
        (fun node => node.2.state.topology.nodes.map (·.tag)) = .ok [⟨"B"⟩, ⟨"A"⟩, ⟨"C"⟩] := by
      decide +kernel
    rw [hlog] at htags
    exact Except.ok.inj htags
  · have hindex : (between.bootstrap fun _ => none).map (fun node => node.2.state.lastIndex) =
        .ok 3 := by decide +kernel
    rw [hlog] at hindex
    exact Except.ok.inj hindex
  · exact Bool.eq_false_iff.2 fun h => absurd ((hsettled.hosted hmember _).1 h) (by decide)

end NodeConfig

end HubReplication
