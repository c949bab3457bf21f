/-
**Tenancies.**

Which databases a node loads and unloads turns on little of a fleet: who the node is and how it is
set up, which connections it counts, when its loaded databases were last asked for, the state it
follows, and the time.  Most of what goes on in a fleet leaves all of that alone.

Main definitions:

* `Tenancy`, `Fleet.tenancy?` — what loading and unloading turn on;
* `Fleet.Quiet` — a change of a fleet that leaves every tenancy alone;
* `Tenancy.ask` — a database is asked for.

Main results:

* `Fleet.quiet_startMissing`, `quiet_reconcile`, `quiet_stopTask`, ... — work on tasks is quiet;
* `Fleet.does_load`, `Fleet.does_loadDialing` — loading is asking.
-/

import HubReplication.Fleet.Jobs
import HubReplication.Proofs.Bindings

set_option relaxedAutoImplicit false
set_option autoImplicit false

namespace HubReplication

/-- What loading and unloading on a node turn on. -/
structure Tenancy where
  tag : NodeTag
  settings : ReplicationSettings
  activity : Activity
  /-- When each loaded database was last asked for. -/
  lastUsed : String → Option Nat
  /-- The state that the node follows. -/
  state : ClusterState
  uptime : Nat

/-- A database is asked for: if the node hosts it, it is loaded from then on. -/
def Tenancy.ask (t : Tenancy) (name : String) : Tenancy :=
  { t with
    lastUsed := fun other =>
      if other = name ∧ t.state.hosts t.tag name = true then some t.uptime else t.lastUsed other }

/-- Some of the loaded databases are kept. -/
def Tenancy.keep (t : Tenancy) (kept : String → Bool) : Tenancy :=
  { t with lastUsed := fun name => if kept name then t.lastUsed name else none }

/-- The databases that a node has to load for their dialing tasks. -/
def dialingOn (tag : NodeTag) (state : ClusterState) : List String :=
  (state.databases.toList.filter fun (_, record) =>
    record.topology.contains tag && record.ongoingTasks.any (runsOn state record tag)).map (·.1)

/-- When each loaded database of a node was last asked for. -/
def Node.lastUsed (n : Node) (name : String) : Option Nat := (n.leases.get? name).map (·.lastUsed)

namespace Fleet

/-- The tenancy of a node in a state at a time. -/
def tenancyOf (n : Node) (state : ClusterState) (uptime : Nat) : Tenancy :=
  ⟨n.tag, n.settings, n.activity, n.lastUsed, state, uptime⟩

/-- The tenancy of a node of a fleet. -/
def tenancy? (f : Fleet) (member : Nat) : Option Tenancy :=
  (f.members.get? member).map fun m => tenancyOf m.node (f.stateOf m) f.uptime

theorem exists_member {f : Fleet} {member : Nat} {t : Tenancy} (h : f.tenancy? member = some t) :
    ∃ m, f.members.get? member = some m ∧ t = tenancyOf m.node (f.stateOf m) f.uptime := by
  obtain ⟨m, hm, rfl⟩ := Option.map_eq_some_iff.1 h
  exact ⟨m, hm, rfl⟩

/-! ### Quiet changes -/

/-- A change of a fleet that leaves the tenancy of every node alone. -/
def Quiet {α : Type} (x : FleetM α) : Prop :=
  ∀ f member, (x.run f).2.tenancy? member = f.tenancy? member

section Quiet

variable {α β : Type} {x : FleetM α}

theorem quiet_pure (a : α) : Quiet (pure a) := fun _ _ => rfl

theorem quiet_get : Quiet get := fun _ _ => rfl

theorem Quiet.bind (hx : Quiet x) {k : α → FleetM β} (hk : ∀ a, Quiet (k a)) : Quiet (x >>= k) :=
  fun f member => (hk (x.run f).1 (x.run f).2 member).trans (hx f member)

theorem quiet_forIn (l : List β) {k : β → FleetM Unit} (hk : ∀ b, Quiet (k b)) :
    Quiet (forIn l PUnit.unit fun b _ => do k b; pure (.yield PUnit.unit)) := by
  induction l with
  | nil => exact quiet_pure _
  | cons b rest ih =>
      rw [List.forIn_cons]
      exact ((hk b).bind fun _ => quiet_pure _).bind fun
        | .done _ => quiet_pure _
        | .yield _ => ih

theorem quiet_onNode (member : Nat) {g : Node → Node}
    (hg : ∀ n state uptime, tenancyOf (g n) state uptime = tenancyOf n state uptime) :
    Quiet (onNode member g) := by
  intro f other
  show ((f.members.adjust member _).get? other).map _ = _
  rw [SortedMap.get?_adjust]
  split
  · rename_i hother
    subst hother
    rw [Option.map_map]
    exact congrArg (Option.map · _) (funext fun m => hg _ _ _)
  · rfl

theorem quiet_onDatabase (member serial : Nat) (g : LoadedDatabase → LoadedDatabase) :
    Quiet (onDatabase member serial g) :=
  quiet_onNode member fun _ _ _ => rfl

theorem quiet_log (entry : LogEntry) : Quiet (log entry) := fun _ _ => rfl

theorem quiet_logAll (entries : List LogEntry) : Quiet (logAll entries) := fun _ _ => rfl

theorem quiet_fresh : Quiet fresh := fun _ _ => rfl

theorem quiet_put (id : Nat) (process : Process) : Quiet (put id process) := fun _ _ => rfl

theorem quiet_remove (id : Nat) : Quiet (remove id) := fun _ _ => rfl

theorem quiet_spawn (process : Process) : Quiet (spawn process) :=
  quiet_fresh.bind fun id => (quiet_put id process).bind fun _ => quiet_pure id

end Quiet

/-! ### Work on tasks -/

section Tasks

variable (member serial : Nat)

theorem quiet_startTask (n : Node) (name : String) (work : DialingTask) :
    Quiet (startTask member serial n name work) :=
  (quiet_log _).bind fun _ => (quiet_spawn _).bind fun _ => quiet_onDatabase member serial _

theorem quiet_startMissing (record : DatabaseRecord) (state : ClusterState) :
    Quiet (startMissing member serial record state) := by
  refine quiet_get.bind fun f => ?_
  split
  · exact (quiet_forIn _ fun work => quiet_startTask member serial _ _ work).bind fun _ =>
      quiet_pure _
  · exact quiet_pure _

theorem quiet_cancelDialer (id : Nat) : Quiet (cancelDialer id) := by
  refine quiet_get.bind fun f => ?_
  split
  · exact quiet_put id _
  · exact quiet_pure _

theorem quiet_stopTask (task : Nat) : Quiet (stopTask member serial task) := by
  refine quiet_get.bind fun f => ?_
  split
  · exact quiet_pure _
  · exact (quiet_onDatabase member serial _).bind fun _ => quiet_pure _

theorem quiet_reconcile (state : ClusterState) : Quiet (reconcile member serial state) := by
  refine quiet_get.bind fun f => ?_
  split
  · exact quiet_pure _
  · split
    · exact quiet_pure _
    · split <;> exact quiet_pure _

theorem quiet_stopStale (record : DatabaseRecord) (state : ClusterState) :
    Quiet (stopStale member serial record state) := by
  refine quiet_get.bind fun f => ?_
  split <;> exact quiet_pure _

theorem quiet_revoke (record : DatabaseRecord) : Quiet (revoke member serial record) := by
  refine quiet_get.bind fun f => ?_
  split
  · exact quiet_pure _
  · exact (quiet_onDatabase member serial _).bind fun _ => quiet_logAll _

theorem quiet_occupy : Quiet (occupy member serial) := by
  refine quiet_get.bind fun f => ?_
  split
  · exact quiet_pure _
  · split
    · exact quiet_pure _
    · exact (quiet_onDatabase member serial _).bind fun _ => quiet_pure _

theorem quiet_clear : Quiet (clear member serial) := by
  refine quiet_get.bind fun f => ?_
  split
  · exact quiet_pure _
  · exact (quiet_onDatabase member serial _).bind fun _ => quiet_pure _

end Tasks

/-! ### Loading -/

theorem lastUsed_lease (n : Node) (name : String) (serial uptime : Nat) :
    (n.lease name serial uptime).lastUsed =
      fun other => if other = name then some uptime else n.lastUsed other := by
  funext other
  unfold Node.lastUsed Node.lease
  split
  · rename_i hother
    rw [hother, SortedMap.get?_insert_self]
    rfl
  · rename_i hother
    rw [SortedMap.get?_insert_of_ne _ _ hother]

theorem lastUsed_touch {n : Node} {name : String} {lease : Lease}
    (h : n.leases.get? name = some lease) (uptime : Nat) :
    (n.touch name uptime).lastUsed =
      fun other => if other = name then some uptime else n.lastUsed other := by
  funext other
  unfold Node.lastUsed Node.touch
  rw [SortedMap.get?_adjust]
  split
  · rw [h]
    rfl
  · rfl

theorem mem_loaded_iff {n : Node} {name : String} : name ∈ n.loaded ↔ n.lastUsed name ≠ none := by
  rw [Node.lastUsed, ne_eq, Option.map_eq_none_iff]
  constructor
  · intro h
    obtain ⟨⟨k, lease⟩, hmem, rfl⟩ := List.mem_map.1 h
    rw [SortedMap.get?_eq_some_iff.2 hmem]
    exact Option.some_ne_none lease
  · intro h
    obtain ⟨lease, hlease⟩ := Option.ne_none_iff_exists'.1 h
    exact List.mem_map.2 ⟨_, SortedMap.get?_eq_some_iff.1 hlease, rfl⟩

theorem exists_lease_of_leased? {n : Node} {name : String} {serial : Nat}
    (h : n.leased? name = some serial) : ∃ lease, n.leases.get? name = some lease := by
  unfold Node.leased? at h
  split at h
  · rename_i lease hlease
    exact ⟨lease, hlease⟩
  · cases h

/-- A node takes a database that the state has it host. -/
theorem checkHosted_eq_ok_iff (n : Node) (state : ClusterState) (name : String) :
    n.checkHosted state name = .ok () ↔ state.hosts n.tag name = true := by
  unfold Node.checkHosted ClusterState.hosts
  cases state.database? name with
  | none => simp
  | some record => cases h : record.topology.contains n.tag <;> simp [h]

/-- A change of a fleet that changes the tenancy of a node in a given way. -/
def Does {α : Type} (member : Nat) (g : Tenancy → Tenancy) (x : FleetM α) : Prop :=
  ∀ f t, f.tenancy? member = some t → (x.run f).2.tenancy? member = some (g t)

theorem ask_of_not_hosts {t : Tenancy} {name : String} (h : ¬t.state.hosts t.tag name = true) :
    t.ask name = t := by
  simp [Tenancy.ask, h]

theorem ask_of_hosts {t : Tenancy} {name : String} (h : t.state.hosts t.tag name = true) :
    t.ask name = { t with
      lastUsed := fun other => if other = name then some t.uptime else t.lastUsed other } := by
  simp [Tenancy.ask, h]

theorem exists_record_of_hosts {s : ClusterState} {tag : NodeTag} {name : String}
    (h : s.hosts tag name = true) : ∃ record, s.database? name = some record := by
  unfold ClusterState.hosts at h
  split at h
  · rename_i record hrecord
    exact ⟨record, hrecord⟩
  · cases h

section Does

variable {α β : Type} {member : Nat} {g : Tenancy → Tenancy} {x : FleetM α} {name : String}

theorem Quiet.does (hx : Quiet x) : Does member id x := fun f _ h => (hx f member).trans h

theorem Quiet.then (hx : Quiet x) {k : α → FleetM β} (hk : ∀ a, Does member g (k a)) :
    Does member g (x >>= k) := fun f t h => hk _ _ t ((hx f member).trans h)

theorem Does.quiet (hx : Does member g x) {k : α → FleetM β} (hk : ∀ a, Quiet (k a)) :
    Does member g (x >>= k) := fun f t h => (hk _ _ member).trans (hx f t h)

theorem run_get_bind (k : Fleet → FleetM α) (f : Fleet) : (get >>= k).run f = (k f).run f := rfl

theorem tenancy?_onNode {f : Fleet} {m : Member} (hm : f.members.get? member = some m)
    (change : Node → Node) :
    ((onNode member change).run f).2.tenancy? member =
      some (tenancyOf (change m.node) (f.stateOf m) f.uptime) := by
  show ((f.members.adjust member _).get? member).map _ = _
  rw [SortedMap.get?_adjust, if_pos rfl, hm]
  rfl

/-- A database that was taken in is kept under its name as used now. -/
theorem does_install (record : DatabaseRecord) (state : ClusterState) :
    Does member (fun t => { t with
        lastUsed := fun other => if other = name then some t.uptime else t.lastUsed other })
      (install member name record state) := by
  refine quiet_fresh.then fun serial => Quiet.then ?_ fun _ =>
    (quiet_startMissing member serial record state).then fun _ => ?_
  · exact quiet_onNode member fun _ _ _ => rfl
  · intro f t h
    obtain ⟨m, hm, rfl⟩ := exists_member h
    rw [run_get_bind]
    refine (((quiet_log _).bind fun _ => quiet_pure serial) _ member).trans ?_
    refine (tenancy?_onNode hm (·.lease name serial f.uptime)).trans ?_
    rw [tenancyOf, lastUsed_lease]
    rfl

/-- A loop does what its rounds do, one after another. -/
theorem does_forIn {step : Tenancy → β → Tenancy} (l : List β) {k : β → FleetM α}
    (hk : ∀ b, Does member (step · b) (k b)) :
    Does member (l.foldl step ·)
      (forIn l PUnit.unit fun b _ => do let _ ← k b; pure (.yield PUnit.unit)) := by
  induction l with
  | nil => exact (quiet_pure _).does
  | cons b rest ih =>
      intro f t h
      rw [List.forIn_cons]
      exact ih _ _ (hk b f t h)

/-- Loading a database is asking for it. -/
theorem does_load (name : String) : Does member (·.ask name) (load member name) := by
  intro f t h
  obtain ⟨m, hm, rfl⟩ := exists_member h
  unfold load
  rw [run_get_bind]
  simp only [hm]
  have hhosts := checkHosted_eq_ok_iff m.node (f.stateOf m) name
  cases hcheck : m.node.checkHosted (f.stateOf m) name with
  | error e =>
      have hno : ¬(f.stateOf m).hosts m.node.tag name = true := by simp [← hhosts, hcheck]
      rw [ask_of_not_hosts hno]
      exact h
  | ok u =>
      have hyes := hhosts.1 hcheck
      rw [ask_of_hosts hyes]
      obtain ⟨record, hrecord⟩ := exists_record_of_hosts hyes
      simp only [hrecord]
      split
      · rename_i serial hleased
        obtain ⟨lease, hlease⟩ := exists_lease_of_leased? hleased
        refine (tenancy?_onNode hm (·.touch name f.uptime)).trans ?_
        rw [tenancyOf, lastUsed_touch hlease]
        rfl
      · exact (does_install record _).quiet (fun _ => quiet_pure _) f _ h

/-- Loading the databases with dialing tasks is asking for them. -/
theorem does_loadDialing (state : ClusterState) :
    Does member (fun t => (dialingOn t.tag state).foldl Tenancy.ask t) (loadDialing member state) := by
  intro f t h
  obtain ⟨m, hm, rfl⟩ := exists_member h
  unfold loadDialing
  rw [run_get_bind]
  simp only [hm]
  exact ((does_forIn _ does_load).quiet fun _ => quiet_pure _) f _ h

end Does

end Fleet

end HubReplication
