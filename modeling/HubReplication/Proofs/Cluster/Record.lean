/-
**Sound records.**

What holds of a record has two halves that do not meet: hubs with their grants, and dialing tasks
with their connection strings.  Every operation that succeeds keeps both, leaves name and etag
alone, and gives no identity but the index of its command.

Main definitions:

* `HubsSound`, `DialersSound` — the two halves;
* `DatabaseRecord.Keeps` — what a successful operation does to a record.

Main results:

* `DatabaseRecord.keeps_putHub`, `keeps_addGrant`, `keeps_removeGrant`, `keeps_putSink`,
  `keeps_putExternal`, `keeps_putConnectionString`, `keeps_toggleTask`, `keeps_deleteTask` — every
  operation does that.
-/

import HubReplication.Proofs.Cluster.Grants

set_option relaxedAutoImplicit false
set_option autoImplicit false

namespace HubReplication

/-- Hubs have names and shapes, and agree with their grants. -/
structure HubsSound (hubs : List HubDefinition)
    (grants : SortedMap String (List HubAccessGrant)) : Prop where
  names : NamesApart (·.name) hubs
  shape : ∀ {h}, h ∈ hubs → HubDefinition.validateShape h = .ok ()
  grants_fit : GrantsFit hubs grants

/-- Dialing tasks have names and connection strings, each of which stands under its own name. -/
structure DialersSound (sinks : List SinkDefinition)
    (externals : List ExternalReplicationDefinition)
    (connections : SortedMap String ReplicationConnectionString) : Prop where
  sink_names : NamesApart (·.name) sinks
  external_names : NamesApart (·.name) externals
  sink_connection : ∀ {s}, s ∈ sinks → ∃ c, connections.get? s.connectionStringName = some c
  /-- An external replication goes to the database of its connection string. -/
  external_connection : ∀ {e}, e ∈ externals →
    ∃ c, connections.get? e.connectionStringName = some c ∧ e.database = c.database
  connection_name : ∀ {k c}, connections.get? k = some c → c.name = k

/-- Whether a hub is disabled is nothing to its shape and to its grants. -/
theorem HubsSound.toggle {hubs hubs' : List HubDefinition}
    {grants : SortedMap String (List HubAccessGrant)} (h : HubsSound hubs grants)
    {p : HubDefinition → Bool} {disabled : Bool}
    (hchange : DatabaseRecord.changeFirst p (fun hub => { hub with disabled }) hubs = some hubs') :
    HubsSound hubs' grants := by
  refine ⟨h.names.of_map_eq (DatabaseRecord.map_changeFirst hchange fun _ => rfl), ?_, ?_⟩
  · intro hub hhub
    rcases DatabaseRecord.mem_changeFirst hchange hhub with hhub | ⟨before, hbefore, rfl⟩
    · exact h.shape hhub
    · have hshape := h.shape hbefore
      exact hshape
  · refine h.grants_fit.of_heirs fun hub hhub => ?_
    rcases DatabaseRecord.exists_mem_changeFirst hchange hhub with hhub | hhub
    · exact ⟨hub, hhub, rfl, fun _ hg => hg⟩
    · exact ⟨_, hhub, rfl, fun _ hg => hg⟩

namespace DatabaseRecord

/-- What a successful operation does to a record. -/
structure Keeps (index : Nat) (r r' : DatabaseRecord) : Prop where
  name_eq : r'.name = r.name
  etag_eq : r'.etag = r.etag
  ids : r.IdsFrom r' index
  hubs : HubsSound r.hubs r.hubGrants → HubsSound r'.hubs r'.hubGrants
  dialers : DialersSound r.sinks r.externals r.connectionStrings →
    DialersSound r'.sinks r'.externals r'.connectionStrings

variable {r r' : DatabaseRecord} {index : Nat} {id : TaskId}

/-! ### Hubs -/

/-- A hub is added under a name that is free, or takes the place of the hub of its identity under a
name that clashes with no other and with grants that fit it. -/
theorem putHub_eq_ok {d : HubDefinition} (h : r.putHub d index = .ok (id, r')) :
    d.validateShape = .ok () ∧
      ((d.taskId.isAssigned = false ∧
        (r.hubs.findIdx? fun b => Text.sameName b.name d.name) = none ∧
        r' = { r with hubs := r.hubs ++ [{ d with taskId := ⟨index⟩ }] }) ∨
      d.taskId.isAssigned = true ∧ ∃ position previous, r.hubs[position]? = some previous ∧
        r.hubs.find? (·.taskId == d.taskId) = some previous ∧
        (r.hubs.findIdx? fun b => Text.sameName b.name d.name).any (· != position) = false ∧
        (∀ g ∈ r.grants previous.name, g.validate d = .ok ()) ∧
        r' = r.replaceHub d position previous) := by
  unfold putHub at h
  split at h
  · cases h
  · rename_i hshape
    refine ⟨hshape, ?_⟩
    simp only at h
    split at h
    · rename_i hassigned
      split at h
      · cases h
      · rename_i position hposition
        obtain ⟨previous, hprevious, -, hfind⟩ := getElem?_of_findIdx? hposition
        split at h
        · cases h
        · rename_i hclash
          split at h
          · cases h
          · rename_i hcheck
            rw [hprevious] at h
            cases h
            refine .inr ⟨hassigned, position, previous, hprevious, hfind,
              by simpa using hclash, ?_, rfl⟩
            simp only [checkHubUpdate, hassigned, hfind] at hcheck
            exact fun g hg => fits_of_checkGrants hcheck hg
    · rename_i hunassigned
      split at h
      · cases h
      · rename_i hclash
        cases h
        exact .inl ⟨by simpa using hunassigned, by simpa using hclash, rfl⟩

theorem keeps_putHub {d : HubDefinition} (h : r.putHub d index = .ok (id, r')) :
    Keeps index r r' := by
  obtain ⟨hshape, ⟨-, hfree, rfl⟩ | ⟨-, position, previous, hget, hfind, hclash, hfits, rfl⟩⟩ :=
    putHub_eq_ok h
  · refine ⟨rfl, rfl, .of_perm ?_, fun hubs => ⟨?_, ?_, ?_⟩, fun h => h⟩
    · simp only [taskIds_eq, List.map_append, List.map_cons, List.map_nil, List.append_assoc,
        List.singleton_append]
      exact List.perm_middle
    · exact hubs.names.append hfree
    · intro hub hhub
      rcases List.mem_append.1 hhub with hhub | hhub
      · exact hubs.shape hhub
      · rw [List.mem_singleton.1 hhub]
        exact hshape
    · exact hubs.grants_fit.subset (List.subset_append_left _ _)
  · refine ⟨rfl, rfl, .of_eq ?_, fun hubs => ⟨?_, ?_, ?_⟩, fun h => h⟩
    · have hid : previous.taskId = d.taskId := by simpa using List.find?_some hfind
      simp only [taskIds_eq, replaceHub]
      rw [map_set_of_eq hget hid.symm]
    · exact hubs.names.set hclash
    · intro hub hhub
      rcases List.mem_or_eq_of_mem_set hhub with hhub | rfl
      · exact hubs.shape hhub
      · exact hshape
    · exact hubs.grants_fit.replace hubs.names hget hfits

theorem keeps_addGrant {g : HubAccessGrant} (h : r.addGrant g = .ok r') : Keeps index r r' := by
  obtain ⟨-, -, rfl⟩ := addGrant_eq_ok h
  refine ⟨rfl, rfl, .of_eq rfl, fun hubs => ⟨hubs.names, hubs.shape, ?_⟩, fun h => h⟩
  exact hubs.grants_fit.add hubs.names h

theorem keeps_removeGrant {hub thumbprint : String} {g : HubAccessGrant}
    (h : r.removeGrant hub thumbprint = (.ok g, r')) : Keeps index r r' := by
  obtain ⟨-, rfl⟩ := removeGrant_eq_ok h
  refine ⟨rfl, rfl, .of_eq rfl, fun hubs => ⟨hubs.names, hubs.shape, ?_⟩, fun h => h⟩
  exact hubs.grants_fit.remove hubs.names h

/-! ### Dialing tasks -/

/-- A sink through a connection string that exists is added, or takes the place of the sink of its
identity; its URL is dropped. -/
theorem putSink_eq_ok {d : SinkDefinition} (h : r.putSink d index = .ok (id, r')) :
    (∃ c, r.connectionStrings.get? d.connectionStringName = some c) ∧
      (((r.sinks.findIdx? fun b => Text.sameName b.name d.name) = none ∧
        r' = { r with sinks := r.sinks ++ [{ d with url := none, taskId := ⟨index⟩ }] }) ∨
      ∃ position previous, r.sinks[position]? = some previous ∧ previous.taskId = d.taskId ∧
        (r.sinks.findIdx? fun b => Text.sameName b.name d.name).any (· != position) = false ∧
        r' = { r with sinks := r.sinks.set position { d with url := none } }) := by
  unfold putSink at h
  split at h
  · cases h
  · rename_i hconnection
    refine ⟨Option.ne_none_iff_exists'.1 (by simpa [connectionString?] using hconnection), ?_⟩
    simp only at h
    split at h
    · split at h
      · cases h
      · rename_i position hposition
        obtain ⟨previous, hprevious, hid, -⟩ := getElem?_of_findIdx? hposition
        split at h
        · cases h
        · rename_i hclash
          cases h
          exact .inr ⟨position, previous, hprevious, by simpa using hid, by simpa using hclash, rfl⟩
    · split at h
      · cases h
      · rename_i hclash
        cases h
        exact .inl ⟨by simpa using hclash, rfl⟩

theorem keeps_putSink {d : SinkDefinition} (h : r.putSink d index = .ok (id, r')) :
    Keeps index r r' := by
  obtain ⟨hconnection, ⟨hfree, rfl⟩ | ⟨position, previous, hget, hid, hclash, rfl⟩⟩ :=
    putSink_eq_ok h
  · refine ⟨rfl, rfl, .of_perm ?_, fun h => h, fun dialers => ⟨?_, dialers.external_names, ?_,
      dialers.external_connection, dialers.connection_name⟩⟩
    · simp only [taskIds_eq, List.map_append, List.map_cons, List.map_nil, List.append_assoc,
        List.singleton_append]
      rw [← List.append_assoc, ← List.append_assoc (r.hubs.map _)]
      exact List.perm_middle
    · exact dialers.sink_names.append hfree
    · intro s hs
      rcases List.mem_append.1 hs with hs | hs
      · exact dialers.sink_connection hs
      · rw [List.mem_singleton.1 hs]
        exact hconnection
  · refine ⟨rfl, rfl, .of_eq ?_, fun h => h, fun dialers => ⟨?_, dialers.external_names, ?_,
      dialers.external_connection, dialers.connection_name⟩⟩
    · simp only [taskIds_eq]
      rw [map_set_of_eq (a := { d with url := none }) hget hid.symm]
    · exact dialers.sink_names.set hclash
    · intro s hs
      rcases List.mem_or_eq_of_mem_set hs with hs | rfl
      · exact dialers.sink_connection hs
      · exact hconnection

/-- An external replication through a connection string that exists is added, or takes the place of
the one of its identity; it goes to the database of the connection string. -/
theorem putExternal_eq_ok {d : ExternalReplicationDefinition}
    (h : r.putExternal d index = .ok (id, r')) :
    ∃ c, r.connectionStrings.get? d.connectionStringName = some c ∧
      (((r.externals.findIdx? fun b => Text.sameName b.name d.name) = none ∧
        r' = { r with
          externals := r.externals ++ [{ d with database := c.database, taskId := ⟨index⟩ }] }) ∨
      ∃ position previous, r.externals[position]? = some previous ∧
        previous.taskId = d.taskId ∧
        (r.externals.findIdx? fun b => Text.sameName b.name d.name).any (· != position) = false ∧
        r' = { r with
          externals := r.externals.set position { d with database := c.database } }) := by
  unfold putExternal at h
  split at h
  · cases h
  · rename_i c hconnection
    refine ⟨c, hconnection, ?_⟩
    simp only at h
    split at h
    · split at h
      · cases h
      · rename_i position hposition
        obtain ⟨previous, hprevious, hid, -⟩ := getElem?_of_findIdx? hposition
        split at h
        · cases h
        · rename_i hclash
          cases h
          exact .inr ⟨position, previous, hprevious, by simpa using hid, by simpa using hclash, rfl⟩
    · split at h
      · cases h
      · rename_i hclash
        cases h
        exact .inl ⟨by simpa using hclash, rfl⟩

theorem keeps_putExternal {d : ExternalReplicationDefinition}
    (h : r.putExternal d index = .ok (id, r')) : Keeps index r r' := by
  obtain ⟨c, hconnection, ⟨hfree, rfl⟩ | ⟨position, previous, hget, hid, hclash, rfl⟩⟩ :=
    putExternal_eq_ok h
  · refine ⟨rfl, rfl, .of_perm ?_, fun h => h, fun dialers => ⟨dialers.sink_names, ?_,
      dialers.sink_connection, ?_, dialers.connection_name⟩⟩
    · simp only [taskIds_eq, List.map_append, List.map_cons, List.map_nil]
      rw [← List.append_assoc]
      exact List.perm_append_singleton _ _
    · exact dialers.external_names.append hfree
    · intro e he
      rcases List.mem_append.1 he with he | he
      · exact dialers.external_connection he
      · rw [List.mem_singleton.1 he]
        exact ⟨c, hconnection, rfl⟩
  · refine ⟨rfl, rfl, .of_eq ?_, fun h => h, fun dialers => ⟨dialers.sink_names, ?_,
      dialers.sink_connection, ?_, dialers.connection_name⟩⟩
    · simp only [taskIds_eq]
      rw [map_set_of_eq (a := { d with database := c.database }) hget hid.symm]
    · exact dialers.external_names.set hclash
    · intro e he
      rcases List.mem_or_eq_of_mem_set he with he | rfl
      · exact dialers.external_connection he
      · exact ⟨c, hconnection, rfl⟩

/-! ### Connection strings -/

/-- An external replication once a connection string was put: it follows its own. -/
def follow (c : ReplicationConnectionString) (e : ExternalReplicationDefinition) :
    ExternalReplicationDefinition :=
  if e.connectionStringName = c.name then { e with database := c.database } else e

theorem follow_name (c : ReplicationConnectionString) (e : ExternalReplicationDefinition) :
    (follow c e).name = e.name ∧ (follow c e).taskId = e.taskId ∧
      (follow c e).connectionStringName = e.connectionStringName := by
  unfold follow
  split <;> exact ⟨rfl, rfl, rfl⟩

theorem keeps_putConnectionString {c : ReplicationConnectionString}
    (h : r.putConnectionString c = .ok r') : Keeps index r r' := by
  have hr : r' = { r with
      externals := r.externals.map (follow c)
      connectionStrings := r.connectionStrings.insert c.name c } := by
    unfold putConnectionString at h
    split at h <;> cases h
    rfl
  subst hr
  -- Strings are replaced, never removed, so nothing loses the string that it names.
  have hbound : ∀ {name c'}, r.connectionStrings.get? name = some c' →
      ∃ c', (r.connectionStrings.insert c.name c).get? name = some c' := by
    intro name c' hget
    by_cases hname : name = c.name
    · exact ⟨c, by rw [hname, SortedMap.get?_insert_self]⟩
    · exact ⟨c', by rw [SortedMap.get?_insert_of_ne _ _ hname, hget]⟩
  refine ⟨rfl, rfl, .of_eq ?_, fun h => h,
    fun dialers => ⟨dialers.sink_names, dialers.external_names.of_map_eq ?_, ?_, ?_, ?_⟩⟩
  · simp only [taskIds_eq, List.map_map, Function.comp_def, (follow_name c _).2.1]
  · simp only [List.map_map, Function.comp_def, (follow_name c _).1]
  · intro s hs
    obtain ⟨c', hget⟩ := dialers.sink_connection hs
    exact hbound hget
  · intro e he
    obtain ⟨e', he', rfl⟩ := List.mem_map.1 he
    obtain ⟨c', hget, hdatabase⟩ := dialers.external_connection he'
    rw [(follow_name c e').2.2]
    -- What names the new string follows it to its database.
    by_cases hname : e'.connectionStringName = c.name
    · exact ⟨c, by rw [hname, SortedMap.get?_insert_self], by simp [follow, hname]⟩
    · refine ⟨c', by rw [SortedMap.get?_insert_of_ne _ _ hname, hget], ?_⟩
      simpa [follow, hname] using hdatabase
  · intro name c' hget
    by_cases hname : name = c.name
    · rw [hname, SortedMap.get?_insert_self] at hget
      cases hget
      exact hname.symm
    · rw [SortedMap.get?_insert_of_ne _ _ hname] at hget
      exact dialers.connection_name hget

/-! ### Any task -/

/-- Switching a task on or off changes no identity. -/
theorem taskIds_toggleTask {disabled : Bool} (h : r.toggleTask id disabled = .ok r') :
    r'.taskIds = r.taskIds := by
  unfold toggleTask at h
  split at h
  · rename_i hubs hchange
    cases h
    simp only [taskIds_eq, map_changeFirst (g := (·.taskId)) hchange fun _ => rfl]
  · split at h
    · rename_i sinks hchange
      cases h
      simp only [taskIds_eq, map_changeFirst (g := (·.taskId)) hchange fun _ => rfl]
    · split at h
      · rename_i externals hchange
        cases h
        simp only [taskIds_eq, map_changeFirst (g := (·.taskId)) hchange fun _ => rfl]
      · cases h

theorem keeps_toggleTask {disabled : Bool} (h : r.toggleTask id disabled = .ok r') :
    Keeps index r r' := by
  have hids := taskIds_toggleTask h
  unfold toggleTask at h
  split at h
  · rename_i hubs hchange
    cases h
    exact ⟨rfl, rfl, .of_eq hids, fun hubs => hubs.toggle hchange, fun h => h⟩
  · split at h
    · rename_i sinks hchange
      cases h
      refine ⟨rfl, rfl, .of_eq hids, fun h => h, fun dialers =>
        ⟨dialers.sink_names.of_map_eq (map_changeFirst hchange fun _ => rfl),
          dialers.external_names, ?_, dialers.external_connection, dialers.connection_name⟩⟩
      intro s hs
      rcases mem_changeFirst hchange hs with hs | ⟨before, hbefore, rfl⟩
      · exact dialers.sink_connection hs
      · have hconnection := dialers.sink_connection hbefore
        exact hconnection
    · split at h
      · rename_i externals hchange
        cases h
        refine ⟨rfl, rfl, .of_eq hids, fun h => h, fun dialers =>
          ⟨dialers.sink_names,
            dialers.external_names.of_map_eq (map_changeFirst hchange fun _ => rfl),
            dialers.sink_connection, ?_, dialers.connection_name⟩⟩
        intro e he
        rcases mem_changeFirst hchange he with he | ⟨before, hbefore, rfl⟩
        · exact dialers.external_connection he
        · have hconnection := dialers.external_connection hbefore
          exact hconnection
      · cases h

/-- Deleting a task deletes its identity and no other. -/
theorem taskIds_deleteTask {task : OngoingTask} (h : r.deleteTask id = .ok (task, r')) :
    r.taskIds.Perm (id :: r'.taskIds) := by
  unfold deleteTask at h
  split at h
  · rename_i hub hfind
    cases h
    have hperm := perm_map_eraseP (f := (·.taskId)) hfind fun a ha => by simpa using ha
    simp only [taskIds_eq]
    exact (hperm.append_right _).append_right _
  · split at h
    · rename_i sink hfind
      cases h
      have hperm := perm_map_eraseP (f := (·.taskId)) hfind fun a ha => by simpa using ha
      simp only [taskIds_eq]
      exact ((hperm.append_left _).trans List.perm_middle).append_right _
    · split at h
      · rename_i external hfind
        cases h
        have hperm := perm_map_eraseP (f := (·.taskId)) hfind fun a ha => by simpa using ha
        simp only [taskIds_eq]
        exact (hperm.append_left _).trans List.perm_middle
      · cases h

theorem keeps_deleteTask {task : OngoingTask} (h : r.deleteTask id = .ok (task, r')) :
    Keeps index r r' := by
  unfold deleteTask at h
  split at h
  · rename_i hub hfind
    cases h
    refine ⟨rfl, rfl, .of_sublist ?_, fun hubs => ⟨?_, ?_, ?_⟩, fun h => h⟩
    · simp only [taskIds_eq]
      exact ((List.eraseP_sublist.map _).append_right _).append_right _
    · exact hubs.names.sublist List.eraseP_sublist
    · exact fun hhub => hubs.shape (List.mem_of_mem_eraseP hhub)
    · exact hubs.grants_fit.delete hfind
  · split at h
    · cases h
      refine ⟨rfl, rfl, .of_sublist ?_, fun h => h, fun dialers =>
        ⟨dialers.sink_names.sublist List.eraseP_sublist, dialers.external_names, ?_,
          dialers.external_connection, dialers.connection_name⟩⟩
      · simp only [taskIds_eq]
        exact ((List.eraseP_sublist.map _).append_left _).append_right _
      · exact fun hs => dialers.sink_connection (List.mem_of_mem_eraseP hs)
    · split at h
      · cases h
        refine ⟨rfl, rfl, .of_sublist ?_, fun h => h, fun dialers =>
          ⟨dialers.sink_names, dialers.external_names.sublist List.eraseP_sublist,
            dialers.sink_connection, ?_, dialers.connection_name⟩⟩
        · simp only [taskIds_eq]
          exact (List.eraseP_sublist.map _).append_left _
        · exact fun he => dialers.external_connection (List.mem_of_mem_eraseP he)
      · cases h

end DatabaseRecord

end HubReplication
