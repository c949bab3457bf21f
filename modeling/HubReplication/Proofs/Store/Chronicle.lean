/-
**The chronicle of a store.**

A store is written to: documents are put and deleted, and batches are applied, one after another and
in any order.  Whatever is refused changes nothing.  The chronicle is the store together with what
happened to it: the versions that it ever kept, in the order of their etags, the versions that were
delivered in batches, and those that were written here.  Nothing reads the lists; they are there to
speak of the past.

Main definitions:

* `StoreAction` — what may be done to a store;
* `Store.keptOf` — the versions that a store keeps of a batch;
* `Chronicle`, `Chronicle.act`, `Chronicle.after` — a store and its past, after any actions.

Main results:

* `Chronicle.Acted` with `Chronicle.acted` — what an action can do;
* `Chronicle.after_induction` — what every action keeps holds of every chronicle;
* `Chronicle.Kept` with `Chronicle.kept_after` — every etag was given once, and what a
  store has under a key is the last version that it kept there.
-/

import HubReplication.Proofs.Store.Visibility

set_option relaxedAutoImplicit false
set_option autoImplicit false

namespace HubReplication

/-- What may be done to a store. -/
inductive StoreAction where
  /-- A document is written. -/
  | put (id collection : String) (body : Json) (time : Instant)
  /-- A document is deleted. -/
  | delete (id : String) (time : Instant)
  /-- A batch is applied, as the etags of a source up to some etag. -/
  | apply (source : String) (items : List Item) (etag : Nat)

namespace Store

/-- The versions that a store keeps when it takes over items one after another. -/
def keptOf (s : Store) : List Item → List Item
  | [] => []
  | item :: rest =>
    let s' := s.takeOver item
    (if s'.lastEtag = s.lastEtag then [] else (s'.items.get? item.key).toList) ++ s'.keptOf rest

end Store

/-- A store, and what happened to it. -/
structure Chronicle where
  store : Store
  /-- The versions that the store ever kept, in order. -/
  kept : List Item
  /-- The items of the batches that were applied, in order. -/
  delivered : List Item
  /-- The versions that were written here, in order. -/
  written : List Item

namespace Chronicle

/-- A store that nothing happened to. -/
def empty (databaseId : String) : Chronicle := ⟨.empty databaseId, [], [], []⟩

/-- A version was written here. -/
def write (c : Chronicle) (item : Item) (store : Store) : Chronicle :=
  { c with store, kept := c.kept ++ [item], written := c.written ++ [item] }

/-- A batch was applied. -/
def deliver (c : Chronicle) (items : List Item) (store : Store) : Chronicle :=
  { c with store, kept := c.kept ++ c.store.keptOf items, delivered := c.delivered ++ items }

/-- The chronicle after an action; what is refused changes nothing. -/
def act (c : Chronicle) : StoreAction → Chronicle
  | .put id collection body time =>
    match c.store.putAt id collection body time with
    | .ok (item, store) => c.write item store
    | .error _ => c
  | .delete id time =>
    match c.store.delete id time with
    | .ok (some item, store) => c.write item store
    | .ok (none, store) => { c with store }
    | .error _ => c
  | .apply source items etag =>
    match c.store.applyBatch source items etag with
    | .ok (_, store) => c.deliver items store
    | .error _ => c

/-- The chronicle of a store after any actions. -/
def after (databaseId : String) (actions : List StoreAction) : Chronicle :=
  actions.foldl act (empty databaseId)

/-! ### What an action can do -/

/-- What an action can do. -/
inductive Acted (c : Chronicle) : Chronicle → Prop
  | idle : Acted c c
  | written {item : Item} {store : Store} (h : c.store.LocalWrite item store) :
      Acted c (c.write item store)
  | applied {source : String} {items : List Item} {etag : Nat} {cv : ChangeVector} {store : Store}
      (h : c.store.applyBatch source items etag = .ok (cv, store)) :
      Acted c (c.deliver items store)

/-- Only a document that is not there is deleted without a trace. -/
theorem store_of_delete_none {s s' : Store} {id : String} {time : Instant}
    (h : s.delete id time = .ok (none, s')) : s' = s := by
  unfold Store.delete at h
  split at h
  · cases h
    rfl
  · split at h <;> cases h

theorem acted (c : Chronicle) (action : StoreAction) : Acted c (c.act action) := by
  cases action with
  | put id collection body time =>
      simp only [act]
      split
      · rename_i hput
        exact .written (.put hput)
      · exact .idle
  | delete id time =>
      simp only [act]
      split
      · rename_i hdelete
        exact .written (.delete hdelete)
      · rename_i hnone
        rw [store_of_delete_none hnone]
        exact .idle
      · exact .idle
  | apply source items etag =>
      simp only [act]
      split
      · rename_i happly
        exact .applied happly
      · exact .idle

/-- What every action keeps, any actions keep. -/
theorem foldl_act_induction {P : Chronicle → Prop} (hact : ∀ {c c'}, P c → Acted c c' → P c')
    {c : Chronicle} (hc : P c) (actions : List StoreAction) : P (actions.foldl act c) := by
  induction actions generalizing c with
  | nil => exact hc
  | cons action rest ih => exact ih (hact hc (acted c action))

/-- What every action keeps holds of every chronicle. -/
theorem after_induction {P : Chronicle → Prop} {databaseId : String} (hempty : P (empty databaseId))
    (hact : ∀ {c c'}, P c → Acted c c' → P c') (actions : List StoreAction) :
    P (after databaseId actions) :=
  foldl_act_induction hact hempty actions

theorem after_append (databaseId : String) (actions actions' : List StoreAction) :
    after databaseId (actions ++ actions') = actions'.foldl act (after databaseId actions) :=
  List.foldl_append

/-! ### The store of a chronicle -/

theorem Acted.written_subset {c c' : Chronicle} (h : Acted c c') : c.written ⊆ c'.written := by
  cases h with
  | idle => exact List.Subset.refl _
  | written => exact List.subset_append_left _ _
  | applied => exact List.Subset.refl _

theorem Acted.later {c c' : Chronicle} (h : Acted c c') : c.store.Later c'.store := by
  cases h with
  | idle => exact .refl _
  | written hwrite =>
      obtain ⟨_, hwrite⟩ := hwrite.exists_writeLocal
      exact Store.writeLocal_later hwrite
  | applied happly => exact Store.applyBatch_later happly

theorem wellIndexed_after (databaseId : String) (actions : List StoreAction) :
    (after databaseId actions).store.WellIndexed :=
  after_induction (P := fun c => c.store.WellIndexed) (Store.wellIndexed_empty databaseId)
    (fun h hacted => hacted.later.wellIndexed h) actions

/-! ### The versions that a store kept -/

/-- Versions were kept one after another, each under the next etag, and what there is under a key is
the last version that was kept there. -/
structure Kept (s s' : Store) (kept : List Item) : Prop where
  etags_eq : kept.map (·.etag) = List.range' (s.lastEtag + 1) kept.length
  lastEtag_eq : s'.lastEtag = s.lastEtag + kept.length
  latest : ∀ k, s'.items.get? k =
    (kept.reverse.find? fun v => decide (v.key = k)).or (s.items.get? k)

theorem Kept.refl (s : Store) : Kept s s [] := ⟨rfl, rfl, fun _ => rfl⟩

theorem Kept.trans {s s' s'' : Store} {kept kept' : List Item} (h : Kept s s' kept)
    (h' : Kept s' s'' kept') : Kept s s'' (kept ++ kept') where
  etags_eq := by
    rw [List.map_append, h.etags_eq, h'.etags_eq, h.lastEtag_eq, List.length_append,
      ← List.range'_append_1]
    congr 2
    omega
  lastEtag_eq := by
    rw [h'.lastEtag_eq, h.lastEtag_eq, List.length_append, Nat.add_assoc]
  latest k := by
    rw [h'.latest, h.latest, List.reverse_append, List.find?_append, Option.or_assoc]

/-- Etags, versions and the last etag are all that this speaks of. -/
theorem Kept.of_items_eq {s s' s'' : Store} {kept : List Item} (h : Kept s s' kept)
    (hitems : s''.items = s'.items) (hetag : s''.lastEtag = s'.lastEtag) : Kept s s'' kept :=
  ⟨h.etags_eq, hetag.trans h.lastEtag_eq, fun k => by rw [hitems, h.latest]⟩

theorem kept_keep (s : Store) (item : Item) (cv : ChangeVector) :
    Kept s (s.keep item cv) [{ item with etag := s.lastEtag + 1, changeVector := cv }] where
  etags_eq := rfl
  lastEtag_eq := rfl
  latest k := by
    rw [Store.get?_keep]
    by_cases hk : k = item.key
    · subst hk
      rw [if_pos rfl]
      simp [Item.key]
    · rw [if_neg hk]
      have hne : ¬Item.key { item with etag := s.lastEtag + 1, changeVector := cv } = k :=
        fun h => hk h.symm
      simp [hne]

theorem kept_takeOver (s : Store) (item : Item) :
    Kept s (s.takeOver item)
      (if (s.takeOver item).lastEtag = s.lastEtag then []
        else ((s.takeOver item).items.get? item.key).toList) := by
  have hkeep := kept_keep s item ((s.seen item.key).merge item.changeVector)
  rcases Store.takeOver_cases s item with heq | ⟨heq, -⟩
  · rw [heq, if_pos rfl]
    exact .refl s
  · have hetag : (s.keepReplicated item).lastEtag ≠ s.lastEtag := Nat.succ_ne_self _
    rw [heq, if_neg hetag, Store.keepReplicated, Store.get?_keep, if_pos rfl]
    exact hkeep

theorem kept_foldl_takeOver (items : List Item) (s : Store) :
    Kept s (items.foldl Store.takeOver s) (s.keptOf items) := by
  induction items generalizing s with
  | nil => exact .refl s
  | cons item rest ih => exact (kept_takeOver s item).trans (ih (s.takeOver item))

theorem Acted.kept {c c' : Chronicle} (h : Acted c c') :
    ∃ more, c'.kept = c.kept ++ more ∧ Kept c.store c'.store more := by
  cases h with
  | idle => exact ⟨[], (List.append_nil _).symm, .refl _⟩
  | @written item store hwrite =>
      obtain ⟨_, hwrite⟩ := hwrite.exists_writeLocal
      refine ⟨[item], rfl, ?_⟩
      rw [write, Store.writeLocal_eq_ok hwrite, Store.written_of_writeLocal hwrite]
      exact (kept_keep _ _ _).of_items_eq rfl rfl
  | applied happly =>
      refine ⟨_, rfl, ?_⟩
      rcases Store.applyBatch_eq_ok happly with rfl | rfl
      · exact (kept_foldl_takeOver _ _).of_items_eq rfl rfl
      · exact (kept_foldl_takeOver _ _).of_items_eq rfl rfl

/-- Every etag was given once, in order, and what a store has under a key is the last version that
it kept there. -/
theorem kept_after (databaseId : String) (actions : List StoreAction) :
    Kept (.empty databaseId) (after databaseId actions).store (after databaseId actions).kept :=
  after_induction (P := fun c => Kept (.empty databaseId) c.store c.kept) (.refl _)
    (fun h hacted => by
      obtain ⟨more, hkept, hmore⟩ := hacted.kept
      rw [hkept]
      exact h.trans hmore)
    actions

end Chronicle

end HubReplication
