/-
**Databases with connections.**

Connections come and go in any order, each for a database under a name of its own spelling, while
databases are loaded and unloaded.  The count that a node keeps of a database is the number of its
connections that came and did not go yet, case aside.  So a database is unloaded, by itself or by a
sweep, only where none of its connections is left, and then nothing is in the way.

Main definitions:

* `Fleet.activity?` — what a node counts;
* `Chore.ServesUnloading` — the chores that unloading a database or sweeping comes to;
* `Fleet.Occupied` — what may happen, with the connections that came and did not go yet;
* `Fleet.Vetoes` — what these connections do to counts and to unloading.

Main results:

* `Fleet.exists_keep_of_servesUnloading` — what a chore of unloading can drop;
* `Fleet.Occupied.count_eq` — a node counts the connections that are left;
* `Fleet.Occupied.vetoes` — the connections that are left, and no others, keep a database loaded.
-/

import HubReplication.Proofs.Fleet.Chores

set_option relaxedAutoImplicit false
set_option autoImplicit false

namespace HubReplication

/-- The chores that unloading one database or sweeping comes to, from the call to the last of them. -/
inductive Chore.ServesUnloading : Chore → Prop
  | sweep (now : Nat) : ServesUnloading (.unloadUnused now)
  | unloading {c : Chore} (h : c.IsUnloading) : ServesUnloading c

namespace Fleet

/-- The connections that a node counts. -/
def activity? (f : Fleet) (member : Nat) : Option Activity :=
  (f.members.get? member).map (·.node.activity)

/-- What may happen to a fleet while connections of a node come and go, and the databases of those
that came and did not go yet, each in the spelling of its connection.  Chores of unloading may be
done at any time and in any order, and whatever else happens leaves the connections alone. -/
inductive Occupied (member : Nat) : List String → Fleet → Prop
  | start {f : Fleet} (hnone : f.activity? member = some .empty) : Occupied member [] f
  /-- A connection of a database comes. -/
  | enter {live : List String} {f f' : Fleet} (name : String) (h : Occupied member live f)
      (henter : f'.activity? member = (f.activity? member).map (·.enter name)) :
      Occupied member (name :: live) f'
  /-- A connection that came before goes. -/
  | leave {live : List String} {f f' : Fleet} {name : String} (h : Occupied member live f)
      (hlive : name ∈ live)
      (hleave : f'.activity? member = (f.activity? member).map (·.leave name)) :
      Occupied member (live.erase name) f'
  | load {live : List String} {f : Fleet} (name : String) (h : Occupied member live f) :
      Occupied member live ((Fleet.load member name).run f).2
  /-- A chore of unloading is done, or has to wait. -/
  | chore {live : List String} {f : Fleet} (id : Nat) {j : Job} {c : Chore}
      (h : Occupied member live f) (hj : j.member = member) (hc : c.ServesUnloading) :
      Occupied member live ((doChore id j c).run f).2
  | other {live : List String} {f f' : Fleet} (h : Occupied member live f)
      (hother : f'.activity? member = f.activity? member) : Occupied member live f'

variable {member id : Nat} {live : List String} {f f' : Fleet} {t : Tenancy} {j : Job} {c : Chore}
  {name : String}

/-! ### Unloading leaves the counts alone -/

theorem activity?_eq (f : Fleet) (member : Nat) :
    f.activity? member = (f.tenancy? member).map (·.activity) := by
  unfold activity? tenancy?
  rw [Option.map_map]
  rfl

/-- A chore of unloading drops nothing, but for the one that unloads a database, and that one only
where the node counts no connection of it. -/
theorem exists_keep_of_servesUnloading (id : Nat) (hc : c.ServesUnloading)
    (h : f.tenancy? j.member = some t) :
    ((doChore id j c).run f).2.tenancy? j.member =
      some (t.keep fun name => !(c.unloads name && t.activity.canUnload name)) := by
  cases hc with
  | sweep now =>
      obtain ⟨m, hm, rfl⟩ := exists_member h
      rw [doChore_unloadUnused hm]
      exact h
  | unloading hc =>
      cases hc with
      | unload name =>
          refine (keep_unload id name h).1.trans ?_
          simp only [Chore.unloads, BEq.comm]
      | inner hc =>
          refine ((quiet_doChore hc f j.member).trans h).trans ?_
          simp only [not_unloads_of_isInner hc]
          rfl

/-- What a chore of unloading gives way to serves unloading too. -/
theorem servesUnloading_of_doChore {first : List Chore} (hc : c.ServesUnloading)
    (h : ((doChore id j c).run f).1 = some first) : ∀ d ∈ first, d.ServesUnloading := by
  intro d hd
  refine .unloading ?_
  cases hc with
  | sweep now =>
      change some ((chores j.member fun n => (n.unused now).map .unload).run f).1 = some first at h
      unfold chores at h
      rw [run_get_bind] at h
      split at h <;> cases h
      · cases hd
      · obtain ⟨name, -, rfl⟩ := List.mem_map.1 hd
        exact .unload name
  | unloading hc =>
      cases hc with
      | unload name =>
          change some ((unload id j name).run f).1 = some first at h
          unfold unload at h
          rw [run_get_bind] at h
          split at h
          · cases h
            cases hd
          · split at h
            · cases h
              cases hd
            · split at h <;> cases h
              · rw [List.mem_singleton.1 hd]
                exact .inner rfl
              · cases hd
      | inner hc => exact unloading_of_all_inner (inner_doChore hc h) d hd

/-! ### Counts -/

/-- Taking one text out of a list takes one out of those of its name. -/
theorem countP_erase_sameName (hmem : name ∈ live) (other : String) :
    (live.erase name).countP (Text.sameName other) =
      if Text.sameName name other then live.countP (Text.sameName other) - 1
      else live.countP (Text.sameName other) := by
  have hperm := (List.perm_cons_erase hmem).countP_eq (Text.sameName other)
  rw [List.countP_cons, Text.sameName_comm other name] at hperm
  split
  · rename_i hsame
    rw [if_pos hsame] at hperm
    omega
  · rename_i hother
    rw [if_neg hother] at hperm
    omega

/-- A node counts the connections of a database that came and did not go yet. -/
theorem Occupied.count_eq (h : Occupied member live f) :
    ∃ a, f.activity? member = some a ∧
      ∀ name, a.count name = live.countP (Text.sameName name) := by
  induction h with
  | start hnone => exact ⟨.empty, hnone, fun name => rfl⟩
  | enter name _ henter ih =>
      obtain ⟨a, ha, hcount⟩ := ih
      rw [ha] at henter
      refine ⟨a.enter name, henter, fun other => ?_⟩
      rw [Activity.count_enter, hcount, List.countP_cons, Text.sameName_comm other name]
      split <;> rfl
  | @leave live f f' name _ hlive hleave ih =>
      obtain ⟨a, ha, hcount⟩ := ih
      rw [ha] at hleave
      refine ⟨a.leave name, hleave, fun other => ?_⟩
      rw [Activity.count_leave, hcount, countP_erase_sameName hlive]
  | load name _ ih =>
      obtain ⟨a, ha, hcount⟩ := ih
      rw [activity?_eq] at ha
      obtain ⟨t, ht, rfl⟩ := Option.map_eq_some_iff.1 ha
      refine ⟨t.activity, ?_, hcount⟩
      rw [activity?_eq, does_load name _ t ht]
      rfl
  | chore id _ hj hc ih =>
      subst hj
      obtain ⟨a, ha, hcount⟩ := ih
      rw [activity?_eq] at ha
      obtain ⟨t, ht, rfl⟩ := Option.map_eq_some_iff.1 ha
      refine ⟨t.activity, ?_, hcount⟩
      rw [activity?_eq, exists_keep_of_servesUnloading id hc ht]
      rfl
  | other _ hother ih =>
      obtain ⟨a, ha, hcount⟩ := ih
      exact ⟨a, hother.trans ha, hcount⟩

/-! ### The veto -/

theorem unload_eq {m : Member} {lease : Lease} (hm : f.members.get? j.member = some m)
    (hlease : m.node.leases.get? name = some lease) (hmay : m.node.mayUnload name = true) (id : Nat) :
    ((doChore id j (.unload name)).run f).1 = some [.release lease.serial] := by
  change some ((unload id j name).run f).1 = _
  unfold unload
  rw [run_get_bind]
  simp only [hm, hlease, hmay]
  rfl

/-- What the connections of a node do to its counts and to unloading. -/
structure Vetoes (member : Nat) (live : List String) (f : Fleet) (n : Node) : Prop where
  /-- The count of a database is the number of its connections. -/
  counted : ∀ name, n.activity.count name = live.countP (Text.sameName name)
  /-- When a connection goes, there is something to count down, and it is counted down by one. -/
  counted_down : ∀ name ∈ live, ∀ other,
    (n.activity.leave name).count other + (if Text.sameName name other then 1 else 0) =
      n.activity.count other
  /-- Unloading and sweeping come to chores that serve unloading only. -/
  gives_way : ∀ id j c first, j.member = member → c.ServesUnloading →
    ((doChore id j c).run f).1 = some first → ∀ d ∈ first, d.ServesUnloading
  /-- None of these drops a database that has a connection. -/
  kept : ∀ id j c, j.member = member → c.ServesUnloading →
    ∃ m, ((doChore id j c).run f).2.members.get? member = some m ∧
      ∀ name ∈ n.loaded, (∃ g ∈ live, Text.sameName g name = true) → name ∈ m.node.loaded
  /-- A loaded database that has none is dropped when it is unloaded, and then released. -/
  dropped : ∀ id j name lease, j.member = member → n.leases.get? name = some lease →
    (∀ g ∈ live, Text.sameName g name = false) →
      ((doChore id j (.unload name)).run f).1 = some [.release lease.serial] ∧
        ∃ m, ((doChore id j (.unload name)).run f).2.members.get? member = some m ∧
          name ∉ m.node.loaded

theorem countP_pos_iff (name : String) :
    0 < live.countP (Text.sameName name) ↔ ∃ g ∈ live, Text.sameName g name = true := by
  rw [List.countP_pos_iff]
  simp only [Text.sameName_comm name]

theorem canUnload_eq_true_iff (a : Activity) (name : String) :
    a.canUnload name = true ↔ a.count name = 0 := by
  simp [Activity.canUnload]

/-- **Connections veto unloading.**  However connections of a node come and go while databases are
loaded and unloaded, the node counts for each database its connections that are left; the count
never has to go below zero; no chore of unloading or sweeping drops a database that has one; and a
loaded database that has none any more is dropped when it is unloaded. -/
theorem Occupied.vetoes (h : Occupied member live f) :
    ∃ m, f.members.get? member = some m ∧ Vetoes member live f m.node := by
  obtain ⟨a, ha, hcount⟩ := h.count_eq
  obtain ⟨m, hm, rfl⟩ := Option.map_eq_some_iff.1 ha
  have ht : f.tenancy? member = some (tenancyOf m.node (f.stateOf m) f.uptime) :=
    congrArg (Option.map _) hm
  refine ⟨m, hm, hcount, fun name hname other => ?_, fun id j c first _ hc => ?_,
    fun id j c hj hc => ?_, fun id j name lease hj hlease hnone => ?_⟩
  · rw [Activity.count_leave]
    split
    · rename_i hsame
      have hpos : 0 < m.node.activity.count other := by
        rw [hcount, countP_pos_iff]
        exact ⟨name, hname, hsame⟩
      omega
    · rfl
  · exact servesUnloading_of_doChore hc
  · subst hj
    obtain ⟨m', hm', heq⟩ := exists_member (exists_keep_of_servesUnloading id hc ht)
    refine ⟨m', hm', fun name hname hconnected => ?_⟩
    have hcan : m.node.activity.canUnload name = false := by
      rw [← Bool.not_eq_true, canUnload_eq_true_iff, hcount]
      exact Nat.ne_of_gt ((countP_pos_iff name).2 hconnected)
    have hused := congrFun (congrArg Tenancy.lastUsed heq) name
    simp only [Tenancy.keep, tenancyOf, hcan, Bool.and_false, Bool.not_false, if_true] at hused
    rw [mem_loaded_iff, ← hused]
    exact mem_loaded_iff.1 hname
  · subst hj
    have hcan : m.node.activity.canUnload name = true := by
      rw [canUnload_eq_true_iff, hcount, List.countP_eq_zero]
      intro g hg
      rw [Text.sameName_comm, hnone g hg]
      exact Bool.false_ne_true
    refine ⟨unload_eq hm hlease hcan id, ?_⟩
    obtain ⟨m', hm', heq⟩ :=
      exists_member (exists_keep_of_servesUnloading id (.unloading (.unload name)) ht)
    refine ⟨m', hm', fun hloaded => ?_⟩
    have hused := congrFun (congrArg Tenancy.lastUsed heq) name
    simp only [Tenancy.keep, tenancyOf, Chore.unloads, beq_self_eq_true, hcan, Bool.and_self,
      Bool.not_true, Bool.false_eq_true, if_false] at hused
    exact mem_loaded_iff.1 hloaded hused.symm

/-- A node that has loaded a database and counts some connections. -/
def lodgedFleet (activity : Activity) : Fleet :=
  let node := ((Node.new ⟨"A"⟩ .unsecured .default).install "orders" 0).lease "orders" 0 0
  { Fleet.empty default with
    members := .ofList [(0, ⟨{ node with activity }, 0, [], false⟩)]
    next := 1 }

/-- Of two connections, one in another spelling, the last one keeps the database loaded through a
sweep; when it is gone, the database is dropped. -/
theorem vetoes_lodgedFleet :
    let one := lodgedFleet (((Activity.empty.enter "orders").enter "Orders").leave "orders")
    let none := lodgedFleet ((((Activity.empty.enter "orders").enter "Orders").leave "orders").leave
      "Orders")
    Occupied 0 ["Orders"] one ∧ Occupied 0 [] none ∧
      (∃ m, ((doChore 1 ⟨0, [], []⟩ (.unload "orders")).run one).2.members.get? 0 = some m ∧
        "orders" ∈ m.node.loaded) ∧
      ∃ m, ((doChore 1 ⟨0, [], []⟩ (.unload "orders")).run none).2.members.get? 0 = some m ∧
        "orders" ∉ m.node.loaded := by
  intro one none
  have hstart : Occupied 0 [] (lodgedFleet .empty) := .start rfl
  have hboth : Occupied 0 ["Orders", "orders"]
      (lodgedFleet ((Activity.empty.enter "orders").enter "Orders")) :=
    have hfirst : Occupied 0 ["orders"] (lodgedFleet (Activity.empty.enter "orders")) :=
      .enter "orders" hstart rfl
    .enter "Orders" hfirst rfl
  have horders : "orders" ∈ ["Orders", "orders"] := by decide
  have hOrders : "Orders" ∈ ["Orders"] := by decide
  have hone : Occupied 0 ["Orders"] one := hboth.leave horders rfl
  have hnone : Occupied 0 [] none := hone.leave hOrders rfl
  obtain ⟨m, hm, hveto⟩ := hone.vetoes
  obtain ⟨m', hm', hfree⟩ := hnone.vetoes
  cases hm
  cases hm'
  obtain ⟨n, hn, hkept⟩ := hveto.kept 1 ⟨0, [], []⟩ (.unload "orders") rfl (.unloading (.unload _))
  have hdropped := hfree.dropped 1 ⟨0, [], []⟩ "orders" ⟨0, 0⟩ rfl rfl (by simp)
  exact ⟨hone, hnone, ⟨n, hn, hkept "orders" (by decide +kernel) ⟨"Orders", by simp, by decide +kernel⟩⟩,
    hdropped.2⟩

end Fleet

end HubReplication
