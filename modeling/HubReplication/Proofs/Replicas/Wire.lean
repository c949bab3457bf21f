/-
**Change vectors on the wire.**

Documents are written to the stores of databases of any clusters, and go from one store to the
other.  The vectors that there are then have entries of the ids of these stores only, with etags
that a store of the id gave.  So it depends on names alone whether a vector is read back from its
text: it is, exactly if the names are clean that its ids are made of.  Once a document is written to
a store whose id has a comma, its vector reaches no peer.

Main definitions:

* `Replicas.Tells` — the vectors of stores, of their items and of items on their way;
* `Replicas.Vouches` — some store of an id gave an etag;
* `Replicas.Reached` — stores after any writes, and any exchange of what they hold.

Main results:

* `Replicas.Reached.vouched` — every entry of every vector was given by a store of its id;
* `Replicas.readsBack_iff_clean` — which vectors, acknowledgements and batches are read back;
* `Replicas.survive_iff_clean` — all of them are, whatever happens, exactly if all names are clean.
-/

import HubReplication.Proofs.Frame.Text
import HubReplication.Proofs.Hosting.Homes
import HubReplication.Proofs.Replicas.Versions

set_option relaxedAutoImplicit false
set_option autoImplicit false

namespace HubReplication

/-! ### What stores tell -/

namespace Store

/-- Every entry of the vectors that a store has meets a condition. -/
structure All (s : Store) (p : String → Nat → Prop) : Prop where
  vector : s.changeVector.All p
  items : ∀ {k item}, s.items.get? k = some item → item.changeVector.All p

variable {s s' : Store} {p q : String → Nat → Prop} {item : Item}

theorem All.mono (h : s.All p) (himp : ∀ {d n}, p d n → q d n) : s.All q :=
  ⟨h.vector.mono himp, fun hget => (h.items hget).mono himp⟩

theorem All.seen (h : s.All p) (k : ItemKey) : (s.seen k).All p := by
  cases hget : s.items.get? k with
  | none =>
      rw [Store.seen, hget]
      exact ChangeVector.all_empty
  | some own =>
      rw [seen_eq hget]
      exact h.items hget

theorem All.keep (h : s.All p) (item : Item) {cv : ChangeVector} (hcv : cv.All p) :
    (s.keep item cv).All p where
  vector := h.vector.merge hcv
  items := by
    intro k own hget
    rw [get?_keep] at hget
    split at hget
    · cases hget
      exact hcv
    · exact h.items hget

/-- A local write adds one entry: the etag of the write. -/
theorem All.keepLocal (h : s.All p) (item : Item) (hown : p s.databaseId (s.lastEtag + 1)) :
    (s.keepLocal item).All p :=
  h.keep item ((h.seen item.key).raise hown)

theorem All.announce (h : s.All p) : s.announce.All p := ⟨h.vector, h.items⟩

theorem All.takeOver (h : s.All p) (hitem : item.changeVector.All p) : (s.takeOver item).All p := by
  rcases takeOver_cases s item with hleft | ⟨hkept, -⟩
  · rwa [hleft]
  · rw [hkept]
    exact h.keep item ((h.seen item.key).merge hitem)

theorem All.foldl_takeOver {items : List Item} (h : s.All p)
    (hitems : ∀ item ∈ items, item.changeVector.All p) : (items.foldl Store.takeOver s).All p := by
  induction items generalizing s with
  | nil => exact h
  | cons item rest ih =>
      obtain ⟨hitem, hrest⟩ := List.forall_mem_cons.1 hitems
      exact ih (h.takeOver hitem) hrest

/-- A batch adds no entry that none of its items had. -/
theorem All.applyBatch (h : s.All p) {source : String} {items : List Item} {etag : Nat}
    {cv : ChangeVector} (hitems : ∀ item ∈ items, item.changeVector.All p)
    (happly : s.applyBatch source items etag = .ok (cv, s')) : s'.All p := by
  obtain ⟨hvector, hversions⟩ := h.foldl_takeOver hitems
  have haccepted : ((items.foldl Store.takeOver s).accept source etag).All p := ⟨hvector, hversions⟩
  rcases applyBatch_eq_ok happly with rfl | rfl
  · exact haccepted
  · exact haccepted.announce

theorem All.of_mem_changesAfter (h : s.All p) {after max : Nat}
    (hitem : item ∈ s.changesAfter after max) : item.changeVector.All p := by
  obtain ⟨entry, -, hget⟩ := List.mem_filterMap.1 hitem
  exact h.items hget

end Store

namespace Replicas

/-- The vector of a store, or of an item in a store or in a batch. -/
def Tells (r : Replicas) (cv : ChangeVector) : Prop :=
  (∃ s ∈ r.stores, s.changeVector = cv) ∨ ∃ item, r.Holds item ∧ item.changeVector = cv

/-- Every entry of the vectors that there are meets a condition. -/
structure All (r : Replicas) (p : String → Nat → Prop) : Prop where
  stores : ∀ s ∈ r.stores, s.All p
  batches : ∀ items ∈ r.batches, ∀ item ∈ items, item.changeVector.All p

/-- Some store of an id gave an etag. -/
def Vouches (r : Replicas) (d : String) (n : Nat) : Prop :=
  ∃ s ∈ r.stores, s.databaseId = d ∧ n ≤ s.lastEtag

/-- The etags that the stores gave have 64 bits. -/
def Numbered (r : Replicas) : Prop := ∀ s ∈ r.stores, s.lastEtag < UInt64.size

/-- Stores of some ids, after documents were written to them and items went from one to the other.
What is delivered is what was read from a store, or a choice of it. -/
inductive Reached (ids : List String) : Replicas → Prop
  | start : Reached ids (start ids)
  | acted {r : Replicas} (h : Reached ids r) (action : ReplicaAction) : Reached ids (r.step action)
  | chosen {r : Replicas} (h : Reached ids r) {items : List Item}
      (hitems : ∀ item ∈ items, r.Holds item) :
      Reached ids { r with batches := r.batches ++ [items] }

variable {r r' : Replicas} {ids : List String} {p q : String → Nat → Prop} {item : Item}
  {cv : ChangeVector}

/-- The stores at the start are those that their nodes create. -/
theorem stores_start (homes : List Home) :
    (start (homes.map Home.databaseId)).stores = homes.map Home.store := by
  rw [start, List.map_map]
  exact List.map_congr_left fun home _ => home.store_eq.symm

theorem reached_run (ids : List String) (actions : List ReplicaAction) :
    Reached ids (run ids actions) := by
  have hfoldl : ∀ {r}, Reached ids r → Reached ids (actions.foldl step r) := by
    induction actions with
    | nil => exact fun h => h
    | cons action rest ih => exact fun h => ih (h.acted action)
  exact hfoldl .start

theorem All.mono (h : r.All p) (himp : ∀ {d n}, p d n → q d n) : r.All q :=
  ⟨fun s hs => (h.stores s hs).mono himp,
    fun items hitems item hitem => (h.batches items hitems item hitem).mono himp⟩

theorem All.of_holds (h : r.All p) (hitem : r.Holds item) : item.changeVector.All p := by
  rcases hitem with ⟨i, s, k, hs, hget⟩ | ⟨items, hitems, hitem⟩
  · exact (h.stores s (List.mem_of_getElem? hs)).items hget
  · exact h.batches items hitems item hitem

theorem All.of_tells (h : r.All p) (htold : r.Tells cv) : cv.All p := by
  rcases htold with ⟨s, hs, rfl⟩ | ⟨item, hitem, rfl⟩
  · exact (h.stores s hs).vector
  · exact h.of_holds hitem

theorem All.batch (h : r.All p) {items : List Item}
    (hitems : ∀ item ∈ items, item.changeVector.All p) :
    ({ r with batches := r.batches ++ [items] } : Replicas).All p := by
  refine ⟨h.stores, fun batch hbatch => ?_⟩
  rcases List.mem_append.1 hbatch with hold | hnew
  · exact h.batches batch hold
  · rw [List.mem_singleton.1 hnew]
    exact hitems

theorem All.store (h : r.All p) {i : Nat} {s' : Store} (hs' : s'.All p)
    (settled : List Settlement) :
    ({ r with stores := r.stores.set i s', settled } : Replicas).All p := by
  refine ⟨fun s hs => ?_, h.batches⟩
  rcases List.mem_or_eq_of_mem_set hs with hold | rfl
  · exact h.stores s hold
  · exact hs'

/-! ### One step -/

/-- A step leaves the stores as they are, or one of them is later. -/
theorem stores_stepped (h : Stepped r r') :
    r'.stores = r.stores ∨
      ∃ (i : Nat) (s s' : Store), r.stores[i]? = some s ∧ s.Later s' ∧
        r'.stores = r.stores.set i s' := by
  cases h with
  | idle => exact .inl rfl
  | written hs item =>
      exact .inr ⟨_, _, _, hs, (Store.keepLocal_later item).trans Store.announce_later, rfl⟩
  | read => exact .inl rfl
  | delivered hs hitems happly => exact .inr ⟨_, _, _, hs, Store.applyBatch_later happly, rfl⟩

/-- Stores keep their ids. -/
theorem ids_stepped (h : Stepped r r') :
    r'.stores.map (·.databaseId) = r.stores.map (·.databaseId) := by
  rcases stores_stepped h with heq | ⟨i, s, s', hs, hlater, heq⟩
  · rw [heq]
  · rw [heq]
    exact map_set_eq hs hlater.databaseId_eq

/-- What was vouched for stays so. -/
theorem Vouches.stepped {d : String} {n : Nat} (hvouch : r.Vouches d n) (h : Stepped r r') :
    r'.Vouches d n := by
  obtain ⟨t, ht, hid, hle⟩ := hvouch
  rcases stores_stepped h with heq | ⟨i, s, s', hs, hlater, heq⟩
  · exact ⟨t, heq ▸ ht, hid, hle⟩
  · obtain ⟨j, hj⟩ := List.mem_iff_getElem?.1 ht
    obtain ⟨hlt, rfl⟩ := List.getElem?_eq_some_iff.1 hs
    by_cases hij : i = j
    · subst hij
      obtain rfl : r.stores[i] = t := (List.getElem?_eq_some_iff.1 hj).2
      refine ⟨s', ?_, hlater.databaseId_eq.trans hid, Nat.le_trans hle hlater.lastEtag_le⟩
      rw [heq]
      exact List.mem_set hlt s'
    · refine ⟨t, ?_, hid, hle⟩
      rw [heq, List.mem_iff_getElem?]
      exact ⟨j, by rw [List.getElem?_set_ne hij, hj]⟩

/-- A step adds no entry but that of a last etag. -/
theorem All.stepped (hr : r.All p) (h : Stepped r r')
    (hown : ∀ s ∈ r'.stores, p s.databaseId s.lastEtag) : r'.All p := by
  cases h with
  | idle => exact hr
  | @written i s hs item =>
      have hkept := hown _ (List.mem_set (List.getElem?_eq_some_iff.1 hs).1 _)
      have hstore := hr.stores s (List.mem_of_getElem? hs)
      exact hr.store (hstore.keepLocal item hkept).announce r.settled
  | read hs after max =>
      exact hr.batch fun item hitem =>
        (hr.stores _ (List.mem_of_getElem? hs)).of_mem_changesAfter hitem
  | delivered hs hitems happly =>
      have hstore := hr.stores _ (List.mem_of_getElem? hs)
      exact hr.store (hstore.applyBatch (hr.batches _ hitems) happly) _

/-! ### Every run -/

theorem Reached.ids_eq (h : Reached ids r) : r.stores.map (·.databaseId) = ids := by
  induction h with
  | start =>
      rw [Replicas.start, List.map_map]
      exact List.map_id' ids
  | @acted r h action ih => exact (ids_stepped (stepped r action)).trans ih
  | chosen h hitems ih => exact ih

/-- Every entry of every vector is that of an etag that a store of its id gave. -/
theorem Reached.vouched (h : Reached ids r) : r.All r.Vouches := by
  induction h with
  | start =>
      refine ⟨fun s hs => ?_, fun items hitems => by cases hitems⟩
      obtain ⟨id, -, rfl⟩ := List.mem_map.1 hs
      exact ⟨ChangeVector.all_empty, fun hget => by cases hget⟩
  | @acted r h action ih =>
      have hstep := stepped r action
      exact (ih.mono fun hvouch => hvouch.stepped hstep).stepped hstep
        fun s hs => ⟨s, hs, rfl, Nat.le_refl _⟩
  | chosen h hitems ih => exact ih.batch fun item hitem => ih.of_holds (hitems item hitem)

/-- So a vector has entries of the ids of stores only, and its etags have 64 bits. -/
theorem Reached.all_of_tells (h : Reached ids r) (hnumbered : r.Numbered) (htold : r.Tells cv) :
    cv.All fun d n => d ∈ ids ∧ n < ChangeVector.etagBound := by
  refine (h.vouched.of_tells htold).mono ?_
  rintro d n ⟨s, hs, rfl, hle⟩
  refine ⟨?_, Nat.lt_of_le_of_lt hle (hnumbered s hs)⟩
  rw [← h.ids_eq]
  exact List.mem_map_of_mem hs

/-! ### Which vectors are read back -/

section Homes

variable {homes : List Home} (h : Reached (homes.map Home.databaseId) r) (hnumbered : r.Numbered)

include h hnumbered

/-- A vector is legible exactly if the names are clean that its ids are made of. -/
theorem legible_iff_clean (htold : r.Tells cv) :
    cv.Legible ↔ ∀ home ∈ homes, home.databaseId ∈ cv.entries.keys → home.Clean := by
  constructor
  · intro hlegible home _ hlisted
    obtain ⟨e, he, hid⟩ := List.mem_map.1 hlisted
    rw [← home.legibleId_iff, ← hid]
    exact (hlegible e he).1
  · intro hclean e he
    obtain ⟨hid, hbound⟩ := h.all_of_tells hnumbered htold e he
    obtain ⟨home, hhome, hid⟩ := List.mem_map.1 hid
    refine ⟨?_, hbound⟩
    rw [← hid, home.legibleId_iff]
    exact hclean home hhome (hid ▸ List.mem_map_of_mem he)

/-- **Which vectors survive the wire.**  Nodes create stores for databases of any clusters, and
documents are written to them and go from one to the other.  A vector that there is then is read
back from its text, and so is an acknowledgement that carries it, exactly if the names are clean
that its ids are made of.  A batch of items that are legible otherwise is read back exactly if this
holds of all their vectors. -/
theorem readsBack_iff_clean :
    (∀ cv, r.Tells cv →
      (cv.ReadsBack ↔ ∀ home ∈ homes, home.databaseId ∈ cv.entries.keys → home.Clean) ∧
      ∀ etag < UInt64.size, (Frame.ack ⟨etag, cv⟩).ReadsBack ↔ cv.ReadsBack) ∧
    ∀ items, (∀ item ∈ items, r.Holds item ∧ item.Legible) → ∀ etag < UInt64.size,
      ((Frame.batch ⟨items, etag⟩).ReadsBack ↔ ∀ item ∈ items, ∀ home ∈ homes,
        home.databaseId ∈ item.changeVector.entries.keys → home.Clean) := by
  have hvector : ∀ {cv}, r.Tells cv →
      (cv.ReadsBack ↔ ∀ home ∈ homes, home.databaseId ∈ cv.entries.keys → home.Clean) :=
    fun htold => ChangeVector.readsBack_iff.trans (legible_iff_clean h hnumbered htold)
  refine ⟨fun cv htold => ⟨hvector htold, fun etag hetag => Frame.readsBack_ack_iff hetag⟩, ?_⟩
  intro items hitems etag hetag
  rw [Frame.readsBack_batch_iff hetag fun item hitem => (hitems item hitem).2]
  exact forall₂_congr fun item hitem => hvector (.inr ⟨item, (hitems item hitem).1, rfl⟩)

end Homes

/-- A database with a comma in its name. -/
def commaHome : Home where
  state := ClusterState.replay
    [(1, .putClusterTopology ⟨[⟨⟨"A"⟩, "mem://a", true⟩]⟩), (2, .putDatabase "a,b" ⟨[⟨"A"⟩]⟩)]
  reachable := ClusterState.reachable_replay (by decide) (by decide)
  name := "a,b"
  listed := by decide +kernel
  node := .new ⟨"A"⟩ .unsecured .default
  mentioned := .inl (by decide +kernel)
  fresh := rfl

/-- A document was written to it. -/
def commaWrite : Replicas :=
  run ([commaHome].map Home.databaseId) [.put 0 "x" "C" (.bool true) ⟨1704067200, 0⟩]

/-- The document. -/
def commaItem : Item :=
  ⟨"x", .document, some "C", 1, .single "a,b@A" 1, ⟨1704067200, 0⟩, false, some (.bool true)⟩

/-- Neither the vector of a database with a comma in its name is read back, nor an acknowledgement
or a batch that carries it. -/
theorem not_readsBack_commaWrite :
    Reached ([commaHome].map Home.databaseId) commaWrite ∧ commaWrite.Numbered ∧
    commaWrite.Tells (.single "a,b@A" 1) ∧ commaWrite.Holds commaItem ∧
    ¬(ChangeVector.single "a,b@A" 1).ReadsBack ∧
    ¬(Frame.ack ⟨1, .single "a,b@A" 1⟩).ReadsBack ∧ ¬(Frame.batch ⟨[commaItem], 1⟩).ReadsBack := by
  have hreached : Reached ([commaHome].map Home.databaseId) commaWrite := reached_run _ _
  have hnumbered : commaWrite.Numbered := by
    change ∀ s ∈ commaWrite.stores, s.lastEtag < UInt64.size
    decide +kernel
  have hheld : commaWrite.Holds commaItem := .inl ⟨0, _, ⟨"x", .document⟩, rfl, rfl⟩
  have htold : commaWrite.Tells (.single "a,b@A" 1) := .inr ⟨commaItem, hheld, rfl⟩
  have hlegible : commaItem.Legible := by
    refine ⟨by decide, ?_, ?_⟩
    · change Instant.parse? (Instant.text ⟨1704067200, 0⟩) = some ⟨1704067200, 0⟩
      decide +kernel
    · intro j hj
      cases hj
      exact ⟨trivial, rfl, rfl, fun h => by cases h⟩
  have hlisted : commaHome.databaseId ∈ (ChangeVector.single "a,b@A" 1).entries.keys := by
    decide +kernel
  have hunclean : ¬commaHome.Clean := fun hclean => hclean.name (by decide)
  obtain ⟨hvectors, hbatches⟩ := readsBack_iff_clean hreached hnumbered
  obtain ⟨hvector, hacks⟩ := hvectors _ htold
  have hlost : ¬(ChangeVector.single "a,b@A" 1).ReadsBack := fun hread =>
    hunclean (hvector.1 hread commaHome (List.mem_singleton_self _) hlisted)
  have hitems : ∀ item ∈ [commaItem], commaWrite.Holds item ∧ item.Legible := by
    intro item hitem
    rw [List.mem_singleton.1 hitem]
    exact ⟨hheld, hlegible⟩
  refine ⟨hreached, hnumbered, htold, hheld, hlost, ?_, ?_⟩
  · exact fun hread => hlost ((hacks 1 (by decide)).1 hread)
  · intro hread
    have hclean := (hbatches _ hitems 1 (by decide)).1 hread commaItem (List.mem_singleton_self _)
    exact hunclean (hclean commaHome (List.mem_singleton_self _) hlisted)

/-- The first document that is written to a store enters its id into its vector. -/
theorem databaseId_mem_keys (id : String) (item : Item) :
    id ∈ ((Store.empty id).keepLocal item).changeVector.entries.keys := List.mem_singleton_self id

/-- All vectors survive the wire, whatever is written and exchanged, exactly if all names are
clean. -/
theorem survive_iff_clean (homes : List Home) :
    (∀ r, Reached (homes.map Home.databaseId) r → r.Numbered → ∀ cv, r.Tells cv → cv.ReadsBack) ↔
      ∀ home ∈ homes, home.Clean := by
  constructor
  · intro hsurvive home hhome
    obtain ⟨i, hi, rfl⟩ := List.mem_iff_getElem.1 hhome
    let item : Item :=
      { id := "x", kind := .document, collection := some "C", etag := 0, changeVector := .empty
        lastModified := ⟨0, 0⟩, deleted := false, body := some .null }
    let s := Store.empty homes[i].databaseId
    let r : Replicas := (start (homes.map Home.databaseId)).step (.put i "x" "C" .null ⟨0, 0⟩)
    have hreached : Reached (homes.map Home.databaseId) r := Reached.start.acted _
    have hstores : r.stores =
        (start (homes.map Home.databaseId)).stores.set i (s.keepLocal item).announce := by
      have hat : (start (homes.map Home.databaseId)).stores[i]? = some s := by
        simp [start, hi, s]
      simp only [r, step, write, hat]
      rfl
    have hnumbered : r.Numbered := by
      intro t ht
      rw [hstores] at ht
      rcases List.mem_or_eq_of_mem_set ht with hold | rfl
      · obtain ⟨id, -, rfl⟩ := List.mem_map.1 hold
        exact (by decide : 0 < UInt64.size)
      · exact (by decide : 1 < UInt64.size)
    have htold : r.Tells (s.keepLocal item).changeVector := by
      refine .inl ⟨(s.keepLocal item).announce, ?_, rfl⟩
      rw [hstores]
      exact List.mem_set (by simpa [start] using hi) _
    have hread := hsurvive r hreached hnumbered _ htold
    rw [ChangeVector.readsBack_iff, legible_iff_clean hreached hnumbered htold] at hread
    exact hread homes[i] hhome (databaseId_mem_keys _ item)
  · intro hclean r h hnumbered cv htold
    rw [ChangeVector.readsBack_iff, legible_iff_clean h hnumbered htold]
    exact fun home hhome _ => hclean home hhome

end Replicas

end HubReplication
