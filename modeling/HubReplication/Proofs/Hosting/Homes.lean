/-
**Where stores are created.**

A node creates the store of a database under an id of its own: the name of the database, an at sign
and the tag of the node.  Such an id may stand before an etag in the text of a change vector if
neither the name nor the tag has a comma, and the name does not start with a blank.  No command asks
that of a name: any name may be that of a database, and any tag but the empty one that of a node.

Main definitions:

* `Home` — a database of a cluster, and a node that creates the store for it;
* `Home.Clean` — names without commas, and without a blank at the start.

Main results:

* `Home.legibleId_iff` — which ids may stand before an etag;
* `Home.exists_home` — any name may be that of a database.
-/

import HubReplication.Hosting.Node
import HubReplication.Proofs.ChangeVector.Text
import HubReplication.Proofs.Cluster.Reachable

set_option relaxedAutoImplicit false
set_option autoImplicit false

namespace HubReplication

/-! ### Where stores are created -/

/-- A tag is that of a node of the cluster, or of a member of one of its databases. -/
def ClusterState.Mentions (s : ClusterState) (tag : NodeTag) : Prop :=
  (s.topology.node? tag).isSome = true ∨ ∃ name, s.hosts tag name = true

/-- A database of a cluster, and a node that did not create its store yet. -/
structure Home where
  state : ClusterState
  reachable : state.Reachable
  name : String
  listed : (state.database? name).isSome = true
  node : Node
  mentioned : state.Mentions node.tag
  fresh : node.stores.get? name = none

namespace Home

/-- The store that the node creates. -/
def store (home : Home) : Store := home.node.store home.name

/-- The id of the store. -/
def databaseId (home : Home) : String := home.node.databaseId home.name

theorem store_eq (home : Home) : home.store = .empty home.databaseId := by
  rw [store, Node.store, home.fresh, Option.getD_none, databaseId]

/-- Neither the name nor the tag has a comma, and the name does not start with a blank. -/
structure Clean (home : Home) : Prop where
  name : ',' ∉ home.name.toList
  tag : ',' ∉ home.node.tag.text.toList
  start : ∀ c ∈ home.name.toList.head?, Text.isBlank c = false

theorem toList_databaseId (home : Home) :
    home.databaseId.toList = home.name.toList ++ '@' :: home.node.tag.text.toList := by
  rw [databaseId, Node.databaseId, String.toList_append, String.toList_append, List.append_assoc]
  rfl

/-- An id may stand before an etag exactly if the names it is made of are clean. -/
theorem legibleId_iff (home : Home) : ChangeVector.LegibleId home.databaseId ↔ home.Clean := by
  have hchars := home.toList_databaseId
  constructor
  · rintro ⟨-, hcomma, hstart⟩
    rw [hchars, List.mem_append, List.mem_cons, not_or, not_or] at hcomma
    refine ⟨hcomma.1, hcomma.2.2, fun c hc => hstart c ?_⟩
    rw [hchars, List.head?_append, Option.mem_def.1 hc]
    rfl
  · rintro ⟨hname, htag, hstart⟩
    refine ⟨?_, ?_, ?_⟩
    · intro hempty
      rw [hempty] at hchars
      exact absurd hchars.symm (by simp)
    · rw [hchars, List.mem_append, List.mem_cons, not_or, not_or]
      exact ⟨hname, by decide, htag⟩
    · intro c hc
      rw [hchars] at hc
      cases hchars : home.name.toList with
      | nil =>
          -- Without a name the id starts with the at sign.
          rw [hchars] at hc
          cases hc
          decide
      | cons d rest =>
          rw [hchars] at hc hstart
          exact hstart c hc

end Home

/-! ### Any name -/

namespace ClusterState

theorem apply_putClusterTopology (s : ClusterState) (index : Nat) {topology : ClusterTopology}
    (h : topology.validate = .ok ()) :
    s.apply index (.putClusterTopology topology) =
      (.ok none, { s with lastIndex := index, topology }) := by
  simp only [apply, run, h, stamp, ClusterCommand.database]

/-- A database of any name is created on nodes of the cluster. -/
theorem apply_putDatabase (s : ClusterState) (index : Nat) (name : String) {members : List NodeTag}
    (hmembers : members ≠ [])
    (hknown : ∀ tag ∈ members, (s.topology.node? tag).isSome = true) :
    ∃ s', s.apply index (.putDatabase name ⟨members⟩) = (.ok none, s') ∧
      (s'.database? name).isSome = true ∧ s'.topology = s.topology := by
  have hempty : members.isEmpty = false := List.isEmpty_eq_false_iff.2 hmembers
  have hunknown : (members.find? fun tag => (s.topology.node? tag).isNone) = none := by
    refine List.find?_eq_none.2 fun tag htag => ?_
    rw [Option.isNone_iff_eq_none]
    exact Option.ne_none_iff_isSome.2 (hknown tag htag)
  let r := { (s.database? name).getD (.new name ⟨members⟩) with topology := ⟨members⟩ }
  refine ⟨(s.putRecord name r).stamp index (some name), ?_, ?_, rfl⟩
  · simp only [apply, run, putDatabase, hempty, hunknown, ClusterCommand.database]
    rfl
  · rw [database?_stamp_putRecord, if_pos rfl]
    rfl

end ClusterState

/-- Any name may be that of a database, and any tag but the empty one that of a node. -/
theorem Home.exists_home (name : String) {tag : NodeTag} (h : tag.text ≠ "") :
    ∃ home : Home, home.name = name ∧ home.node.tag = tag := by
  let topology : ClusterTopology := ⟨[⟨tag, "mem://node", true⟩]⟩
  have hvalid : topology.validate = .ok () := by
    have htag : tag.text.isEmpty = false := Bool.eq_false_iff.2 fun hempty =>
      h (String.isEmpty_iff.1 hempty)
    have hurl : Text.isBlankText "mem://node" = false := by decide
    simp [topology, ClusterTopology.validate, ClusterTopology.validateAfter, htag, hurl]
  have hnode : (topology.node? tag).isSome = true := by simp [topology, ClusterTopology.node?]
  have hknown : ∀ other ∈ [tag], (topology.node? other).isSome = true := by
    intro other hother
    rw [List.mem_singleton.1 hother]
    exact hnode
  have hnodes := ClusterState.Reachable.empty.applied (Nat.lt_succ_self 0)
    (ClusterState.apply_putClusterTopology .empty 1 hvalid)
  obtain ⟨s, happly, hlisted, hkept⟩ := ClusterState.apply_putDatabase
    { ClusterState.empty with lastIndex := 1, topology } 2 name (List.cons_ne_nil tag []) hknown
  exact ⟨{
    state := s
    reachable := hnodes.applied (Nat.lt_succ_self 1) happly
    name
    listed := hlisted
    node := .new tag .unsecured .default
    mentioned := .inl (by rw [hkept]; exact hnode)
    fresh := rfl }, rfl, rfl⟩

end HubReplication
