/-
**Syncs and sweeps.**

A job is done chore by chore, and a chore may give way to others; in between, anything may happen
that leaves the tenancy of the node alone.  What a sync and a sweep come to does not depend on any
of that: a sync drops some databases and then asks for each with dialing tasks, and a sweep drops
those that were not asked for in a while and have no connection.

Main definitions:

* `Fleet.Done` — chores were done, with whatever they gave way to;
* `Chore.isInner` — chores inside a database, which are quiet and give way to such only;
* `Tenancy.sweep` — what is left after a sweep.

Main results:

* `Fleet.Done.inner` — chores inside databases leave tenancies alone;
* `Fleet.Done.sync`, `Fleet.Done.sweep` — what a sync and a sweep come to.
-/

import HubReplication.Proofs.Fleet.Tenancy

set_option relaxedAutoImplicit false
set_option autoImplicit false

namespace HubReplication

/-- A chore inside one database. -/
def Chore.isInner : Chore → Bool
  | .reconcile .. | .occupy .. | .stopStale .. | .stopTask .. | .stopDialer .. | .awaitDialer .. => true
  | .startMissing .. | .vacate .. | .revoke .. | .dispose .. | .clear .. | .release .. => true
  | .released => true
  | _ => false

/-- Chores that bring databases in line. -/
inductive Chore.IsAligning : Chore → Prop
  | align (name : String) (serial : Nat) (state : ClusterState) : IsAligning (.align name serial state)
  | dropStale (name : String) (serial : Nat) (hosted : Bool) :
      IsAligning (.dropStale name serial hosted)
  | inner {c : Chore} (h : c.isInner = true) : IsAligning c

/-- Chores that unload databases. -/
inductive Chore.IsUnloading : Chore → Prop
  | unload (name : String) : IsUnloading (.unload name)
  | inner {c : Chore} (h : c.isInner = true) : IsUnloading c

/-- Whether a chore unloads a database. -/
def Chore.unloads (name : String) : Chore → Bool
  | .unload other => other == name
  | _ => false

namespace Tenancy

/-- Whether a database was not asked for in a while. -/
def isUnused (t : Tenancy) (now : Nat) (name : String) : Bool :=
  (t.lastUsed name).any fun used => t.settings.idleUnloadAfter ≤ now - used

/-- What is left after a sweep. -/
def sweep (t : Tenancy) (now : Nat) : Tenancy :=
  t.keep fun name => !(t.isUnused now name && t.activity.canUnload name)

end Tenancy

namespace Fleet

variable {member id serial : Nat} {j : Job} {c : Chore} {state : ClusterState}

/-! ### Chores inside databases -/

theorem quiet_doChore (hc : c.isInner = true) : Quiet (doChore id j c) := by
  cases c with
  | reconcile serial state =>
      exact (quiet_reconcile j.member serial state).bind fun _ => quiet_pure _
  | occupy serial => exact (quiet_occupy j.member serial).bind fun _ => quiet_pure _
  | stopStale serial record state =>
      exact (quiet_stopStale j.member serial record state).bind fun _ => quiet_pure _
  | stopTask serial task => exact (quiet_stopTask j.member serial task).bind fun _ => quiet_pure _
  | stopDialer dialer =>
      exact (quiet_log _).bind fun _ => (quiet_cancelDialer dialer).bind fun _ => quiet_pure _
  | awaitDialer dialer =>
      refine quiet_get.bind fun f => ?_
      split
      · exact (quiet_remove dialer).bind fun _ => quiet_pure _
      · exact quiet_pure _
  | startMissing serial record state =>
      exact (quiet_startMissing j.member serial record state).bind fun _ => quiet_pure _
  | vacate serial => exact (quiet_onDatabase j.member serial _).bind fun _ => quiet_pure _
  | revoke serial record => exact (quiet_revoke j.member serial record).bind fun _ => quiet_pure _
  | dispose serial => exact (quiet_onDatabase j.member serial _).bind fun _ => quiet_pure _
  | clear serial => exact (quiet_clear j.member serial).bind fun _ => quiet_pure _
  | release serial => exact quiet_pure _
  | released =>
      refine Quiet.bind ?_ fun _ => (quiet_log _).bind fun _ => quiet_pure _
      exact quiet_onNode j.member fun _ _ _ => rfl
  | _ => cases hc

theorem inner_reconcile (f : Fleet) :
    ((reconcile member serial state).run f).1.all Chore.isInner = true := by
  unfold reconcile
  rw [run_get_bind]
  split
  · rfl
  · split
    · rfl
    · split <;> rfl

theorem inner_stopStale (record : DatabaseRecord) (f : Fleet) :
    ((stopStale member serial record state).run f).1.all Chore.isInner = true := by
  unfold stopStale
  rw [run_get_bind]
  split
  · exact List.all_map.trans (List.all_eq_true.2 fun _ _ => rfl)
  · rfl

theorem inner_stopTask (task : Nat) (f : Fleet) :
    ((stopTask member serial task).run f).1.all Chore.isInner = true := by
  unfold stopTask
  rw [run_get_bind]
  split <;> rfl

theorem inner_clear (f : Fleet) :
    ((clear member serial).run f).1.all Chore.isInner = true := by
  unfold clear
  rw [run_get_bind]
  split
  · rfl
  · exact List.all_map.trans (List.all_eq_true.2 fun _ _ => rfl)

/-- A chore inside a database gives way to such chores only. -/
theorem inner_doChore {f : Fleet} {first : List Chore} (hc : c.isInner = true)
    (h : ((doChore id j c).run f).1 = some first) : first.all Chore.isInner = true := by
  cases c with
  | reconcile serial state =>
      cases h
      exact inner_reconcile f
  | occupy serial =>
      change (if ((occupy j.member serial).run f).1 = true then some [] else none) = _ at h
      split at h <;> cases h
      rfl
  | stopStale serial record state =>
      cases h
      exact inner_stopStale record f
  | stopTask serial task =>
      cases h
      exact inner_stopTask task f
  | awaitDialer dialer =>
      unfold doChore at h
      simp only [run_get_bind] at h
      split at h <;> cases h
      rfl
  | clear serial =>
      cases h
      exact inner_clear f
  | stopDialer _ | startMissing _ _ _ | vacate _ | revoke _ _ | dispose _ | release _ | released =>
      cases h
      rfl
  | _ => cases hc

theorem quiet_of_isInner {f f' : Fleet} {first : List Chore} (hc : c.isInner = true)
    (hchore : (doChore id j c).run f = (some first, f')) :
    f'.tenancy? member = f.tenancy? member ∧ first.all Chore.isInner = true := by
  have hquiet : ((doChore id j c).run f).2.tenancy? member = f.tenancy? member :=
    quiet_doChore hc f member
  rw [hchore] at hquiet
  exact ⟨hquiet, inner_doChore hc (congrArg Prod.fst hchore)⟩

/-! ### Chores that load and unload -/

theorem aligning_of_all_inner {chores : List Chore} (h : chores.all Chore.isInner = true) :
    ∀ c ∈ chores, c.IsAligning :=
  fun _ hc => .inner (List.all_eq_true.1 h _ hc)

theorem unloading_of_all_inner {chores : List Chore} (h : chores.all Chore.isInner = true) :
    ∀ c ∈ chores, c.IsUnloading :=
  fun _ hc => .inner (List.all_eq_true.1 h _ hc)

theorem not_unloads_of_isInner (hc : c.isInner = true) (name : String) :
    c.unloads name = false := by
  cases c with
  | unload other => cases hc
  | _ => rfl

theorem chores_eq {f : Fleet} {m : Member} (hm : f.members.get? member = some m)
    (g : Node → List Chore) : (chores member g).run f = (g m.node, f) := by
  unfold chores
  rw [run_get_bind]
  simp only [hm]
  rfl

theorem doChore_sync {f : Fleet} {m : Member} (hm : f.members.get? j.member = some m) :
    (doChore id j (.sync state)).run f =
      (some ((m.node.leases.toList.map fun b => .align b.1 b.2.serial state) ++
        [.loadDialing state]), f) := by
  simp only [doChore, StateT.run_bind, chores_eq hm]
  rfl

theorem doChore_unloadUnused {f : Fleet} {m : Member} (hm : f.members.get? j.member = some m)
    (now : Nat) : (doChore id j (.unloadUnused now)).run f =
      (some ((m.node.unused now).map .unload), f) := by
  simp only [doChore, StateT.run_bind, chores_eq hm]
  rfl

section Leases

variable {f f' : Fleet} {t : Tenancy} {first : List Chore} {name : String}

theorem lastUsed_evict (n : Node) (name : String) :
    (n.evict name).lastUsed = fun other => if other != name then n.lastUsed other else none := by
  funext other
  unfold Node.lastUsed Node.evict
  by_cases hother : other = name
  · simp [hother]
  · simp [hother, SortedMap.get?_erase_of_ne]

theorem keep_keep (kept kept' : String → Bool) :
    (t.keep kept).keep kept' = t.keep fun name => kept' name && kept name := by
  unfold Tenancy.keep
  congr 1
  funext name
  cases h : kept' name <;> simp [h]

theorem keep_eq_self {kept : String → Bool}
    (h : ∀ name, kept name = false → t.lastUsed name = none) : t.keep kept = t := by
  unfold Tenancy.keep
  congr 1
  funext name
  cases hkept : kept name with
  | true => rfl
  | false => exact (h name hkept).symm

/-- Releasing a database drops it, or leaves everything as it was. -/
theorem keep_dropStale {hosted : Bool} (h : f.tenancy? member = some t) :
    (∃ kept, ((dropStale member name serial hosted).run f).2.tenancy? member =
        some (t.keep kept)) ∧
      ((dropStale member name serial hosted).run f).1.all Chore.isInner = true := by
  obtain ⟨m, hm, rfl⟩ := exists_member h
  unfold dropStale
  rw [run_get_bind]
  simp only [hm]
  split
  · exact ⟨⟨fun _ => true, h⟩, rfl⟩
  · split
    · exact ⟨⟨fun _ => true, h⟩, rfl⟩
    · refine ⟨⟨(· != name), (tenancy?_onNode hm (·.evict name)).trans ?_⟩, rfl⟩
      rw [tenancyOf, lastUsed_evict]
      rfl

/-- Unloading a database drops it unless a connection keeps it active. -/
theorem keep_unload (id : Nat) (name : String) (h : f.tenancy? j.member = some t) :
    ((unload id j name).run f).2.tenancy? j.member =
        some (t.keep fun other => !(other == name && t.activity.canUnload other)) ∧
      ((unload id j name).run f).1.all Chore.isInner = true := by
  obtain ⟨m, hm, rfl⟩ := exists_member h
  unfold unload
  rw [run_get_bind]
  simp only [hm]
  split
  · rename_i hnone
    refine ⟨h.trans (congrArg some (keep_eq_self fun other hother => ?_).symm), rfl⟩
    have hname : other = name := by simp_all
    simp [hname, tenancyOf, Node.lastUsed, hnone]
  · rename_i lease hlease
    split
    · rename_i hmay
      refine ⟨((quiet_put id _).bind (fun _ => quiet_pure _) _ j.member).trans ?_, rfl⟩
      refine (tenancy?_onNode hm (·.evict name)).trans ?_
      rw [tenancyOf, lastUsed_evict]
      refine congrArg some ?_
      unfold Tenancy.keep tenancyOf
      congr 1
      funext other
      by_cases hother : other = name
      · subst hother
        have hcan : m.node.activity.canUnload other = true := hmay
        simp [hcan]
      · simp [hother]
    · rename_i hmay
      refine ⟨h.trans (congrArg some (keep_eq_self fun other hother => ?_).symm), rfl⟩
      exfalso
      have hname : other = name ∧ m.node.activity.canUnload other = true := by
        simpa [tenancyOf] using hother
      exact hmay (hname.1 ▸ hname.2)

/-- A chore that brings databases in line drops some. -/
theorem keep_of_isAligning (hc : c.IsAligning)
    (hchore : (doChore id j c).run f = (some first, f')) (h : f.tenancy? j.member = some t) :
    (∃ kept, f'.tenancy? j.member = some (t.keep kept)) ∧ ∀ c ∈ first, c.IsAligning := by
  cases hc with
  | align name serial state =>
      cases hchore
      refine ⟨⟨fun _ => true, h⟩, ?_⟩
      obtain ⟨m, hm, rfl⟩ := exists_member h
      simp only [align, hm]
      intro c hc
      rcases List.mem_append.1 hc with hc | hc
      · refine .inner ?_
        split at hc
        · rw [List.mem_singleton.1 hc]
          rfl
        · cases hc
      · rw [List.mem_singleton.1 hc]
        exact .dropStale _ _ _
  | dropStale name serial hosted =>
      cases hchore
      obtain ⟨hkeep, hfirst⟩ := keep_dropStale h
      exact ⟨hkeep, aligning_of_all_inner hfirst⟩
  | inner hc =>
      obtain ⟨hquiet, hfirst⟩ := quiet_of_isInner hc hchore
      exact ⟨⟨fun _ => true, hquiet.trans h⟩, aligning_of_all_inner hfirst⟩

/-- A chore that unloads a database drops it unless a connection keeps it active. -/
theorem keep_of_isUnloading (hc : c.IsUnloading)
    (hchore : (doChore id j c).run f = (some first, f')) (h : f.tenancy? j.member = some t) :
    f'.tenancy? j.member =
        some (t.keep fun name => !(c.unloads name && t.activity.canUnload name)) ∧
      first.all Chore.isInner = true := by
  cases hc with
  | unload name =>
      cases hchore
      obtain ⟨hkeep, hfirst⟩ := keep_unload id name h
      refine ⟨hkeep.trans ?_, hfirst⟩
      simp only [Chore.unloads, BEq.comm]
  | inner hc =>
      obtain ⟨hquiet, hfirst⟩ := quiet_of_isInner hc hchore
      refine ⟨(hquiet.trans h).trans ?_, hfirst⟩
      simp only [not_unloads_of_isInner hc]
      rfl

end Leases

/-! ### Jobs -/

/-- Chores of a node were done one after another, each with the chores it gave way to.  While one has
to wait, and in between, anything may happen that leaves the tenancy of the node alone. -/
inductive Done (member : Nat) : List Chore → Fleet → Fleet → Prop
  | nil (f : Fleet) : Done member [] f f
  | work {id : Nat} {j : Job} {c : Chore} {rest first : List Chore} {f f' f'' : Fleet}
      (hj : j.member = member) (hchore : (doChore id j c).run f = (some first, f'))
      (hrest : Done member (first ++ rest) f' f'') : Done member (c :: rest) f f''
  | wait {chores : List Chore} {f f' f'' : Fleet}
      (hquiet : f'.tenancy? member = f.tenancy? member) (hrest : Done member chores f' f'') :
      Done member chores f f''

/-- The databases that are unloaded are those that were not asked for in a while. -/
theorem any_unloads (n : Node) (state : ClusterState) (uptime now : Nat) (name : String) :
    ((n.unused now).map Chore.unload).any (Chore.unloads name) =
      (tenancyOf n state uptime).isUnused now name := by
  rw [Bool.eq_iff_iff, List.any_eq_true]
  constructor
  · rintro ⟨c, hc, hname⟩
    obtain ⟨other, hother, rfl⟩ := List.mem_map.1 hc
    obtain ⟨⟨k, lease⟩, hlease, rfl⟩ := List.mem_map.1 hother
    obtain ⟨hmem, hidle⟩ := List.mem_filter.1 hlease
    have hget := SortedMap.get?_eq_some_iff.2 hmem
    have hk : k = name := by simpa [Chore.unloads] using hname
    subst hk
    exact (Option.any_eq_true _ _).2 ⟨lease.lastUsed, by simp [tenancyOf, Node.lastUsed, hget], hidle⟩
  · intro hunused
    obtain ⟨used, hused, hidle⟩ := (Option.any_eq_true _ _).1 hunused
    obtain ⟨lease, hlease, rfl⟩ := Option.map_eq_some_iff.1 hused
    have hmem : name ∈ n.unused now :=
      List.mem_map.2 ⟨(name, lease),
        List.mem_filter.2 ⟨SortedMap.get?_eq_some_iff.1 hlease, hidle⟩, rfl⟩
    exact ⟨.unload name, List.mem_map.2 ⟨name, hmem, rfl⟩, beq_self_eq_true name⟩

namespace Done

variable {chores : List Chore} {f f' f'' : Fleet} {t : Tenancy}

theorem append {a b : List Chore} (ha : Done member a f f') (hb : Done member b f' f'') :
    Done member (a ++ b) f f'' := by
  induction ha with
  | nil f => exact hb
  | work hj hchore _ ih =>
      have hrest := ih hb
      rw [List.append_assoc] at hrest
      exact .work hj hchore hrest
  | wait hquiet _ ih => exact .wait hquiet (ih hb)

theorem inner (h : Done member chores f f') (hchores : chores.all Chore.isInner = true) :
    f'.tenancy? member = f.tenancy? member := by
  induction h with
  | nil f => rfl
  | work hj hchore _ ih =>
      rw [List.all_cons, Bool.and_eq_true] at hchores
      obtain ⟨hquiet, hfirst⟩ := quiet_of_isInner hchores.1 hchore
      rw [ih (by rw [List.all_append, hfirst, hchores.2]; rfl), hquiet]
  | wait hquiet _ ih => rw [ih hchores, hquiet]

/-- Databases were brought in line, and those with dialing tasks were loaded. -/
theorem loadDialing (h : Done member chores f f') {aligning : List Chore}
    (hchores : chores = aligning ++ [.loadDialing state])
    (haligning : ∀ c ∈ aligning, c.IsAligning) (ht : f.tenancy? member = some t) :
    ∃ kept, f'.tenancy? member =
      some ((dialingOn t.tag state).foldl Tenancy.ask (t.keep kept)) := by
  induction h generalizing aligning t with
  | nil f => simp at hchores
  | wait hquiet _ ih => exact ih hchores haligning (hquiet.trans ht)
  | work hj hchore hrest ih =>
      subst hj
      cases aligning with
      | nil =>
          cases hchores
          cases hchore
          exact ⟨fun _ => true, (hrest.inner rfl).trans (does_loadDialing state _ t ht)⟩
      | cons c rest =>
          cases hchores
          rw [List.forall_mem_cons] at haligning
          obtain ⟨⟨kept, hkept⟩, hfirst⟩ := keep_of_isAligning haligning.1 hchore ht
          obtain ⟨kept', hkept'⟩ := ih (List.append_assoc _ _ _).symm
            (List.forall_mem_append.2 ⟨hfirst, haligning.2⟩) hkept
          rw [keep_keep] at hkept'
          exact ⟨_, hkept'⟩

/-- Databases were unloaded, unless a connection kept them active. -/
theorem unload (h : Done member chores f f') (hchores : ∀ c ∈ chores, c.IsUnloading)
    (ht : f.tenancy? member = some t) :
    f'.tenancy? member = some (t.keep fun name =>
      !(chores.any (Chore.unloads name) && t.activity.canUnload name)) := by
  induction h generalizing t with
  | nil f => exact ht
  | wait hquiet _ ih => exact ih hchores (hquiet.trans ht)
  | @work id j c rest first f f₁ f₂ hj hchore hrest ih =>
      subst hj
      rw [List.forall_mem_cons] at hchores
      obtain ⟨hkept, hfirst⟩ := keep_of_isUnloading hchores.1 hchore ht
      have hnone : ∀ name, first.any (Chore.unloads name) = false := fun name =>
        List.any_eq_false.2 fun d hd => by
          simp [not_unloads_of_isInner (List.all_eq_true.1 hfirst d hd)]
      have hrest := ih
        (List.forall_mem_append.2 ⟨unloading_of_all_inner hfirst, hchores.2⟩) hkept
      rw [keep_keep] at hrest
      refine hrest.trans (congrArg (some <| t.keep ·) (funext fun name => ?_))
      rw [List.any_append, hnone, List.any_cons]
      cases c.unloads name <;> cases rest.any (Chore.unloads name) <;>
        cases ht : t.activity.canUnload name <;> simp [Tenancy.keep, ht]

theorem of_singleton (h : Done member [c] f f') :
    ∃ id j f₁ first f₂, f₁.tenancy? member = f.tenancy? member ∧ j.member = member ∧
      (doChore id j c).run f₁ = (some first, f₂) ∧ Done member first f₂ f' := by
  generalize hchores : [c] = chores at h
  induction h with
  | nil f => cases hchores
  | wait hquiet _ ih =>
      obtain ⟨id, j, f₁, first, f₂, hbefore, hdone⟩ := ih hchores
      exact ⟨id, j, f₁, first, f₂, hbefore.trans hquiet, hdone⟩
  | work hj hchore hrest _ =>
      cases hchores
      rw [List.append_nil] at hrest
      exact ⟨_, _, _, _, _, rfl, hj, hchore, hrest⟩

/-- A sync drops some databases and asks for those with dialing tasks. -/
theorem sync (h : Done member [.sync state] f f') (ht : f.tenancy? member = some t) :
    ∃ kept, f'.tenancy? member =
      some ((dialingOn t.tag state).foldl Tenancy.ask (t.keep kept)) := by
  obtain ⟨id, j, f₁, first, f₂, hbefore, rfl, hchore, hrest⟩ := h.of_singleton
  have ht₁ := hbefore.trans ht
  obtain ⟨m, hm, rfl⟩ := exists_member ht₁
  rw [doChore_sync hm] at hchore
  cases hchore
  refine hrest.loadDialing rfl (fun c hc => ?_) ht₁
  obtain ⟨b, -, rfl⟩ := List.mem_map.1 hc
  exact .align _ _ _

/-- A sweep drops what was not asked for in a while, unless a connection keeps it active. -/
theorem sweep {now : Nat} (h : Done member [.unloadUnused now] f f')
    (ht : f.tenancy? member = some t) : f'.tenancy? member = some (t.sweep now) := by
  obtain ⟨id, j, f₁, first, f₂, hbefore, rfl, hchore, hrest⟩ := h.of_singleton
  have ht₁ := hbefore.trans ht
  obtain ⟨m, hm, rfl⟩ := exists_member ht₁
  rw [doChore_unloadUnused hm] at hchore
  cases hchore
  have hunloading : ∀ c ∈ (m.node.unused now).map Chore.unload, c.IsUnloading := by
    intro c hc
    obtain ⟨name, -, rfl⟩ := List.mem_map.1 hc
    exact .unload name
  refine (hrest.unload hunloading ht₁).trans ?_
  simp only [any_unloads m.node (f₁.stateOf m) f₁.uptime]
  rfl

end Done

end Fleet

end HubReplication
