/-
**Stores that write and exchange batches.**

Any number of stores, each with a database id of its own, are written to and read from.  A piece
that was read from the change stream of one store is a batch; from then on it may be delivered to
any store, at any time and any number of times.  So batches may cross each other, come late, or
never.

When a store takes over a version and neither it nor what the store has dominates the other, the
store settles the conflict: it keeps the version that arrived, under a vector that has seen both.
Settlements are listed; nothing reads the list, it is there to speak of the past.

Main definitions:

* `Settlement`, `Store.settlements` — the conflicts that a store settles over a batch;
* `Store.version` — the version that a local write makes;
* `Replicas` — stores, batches and settlements;
* `ReplicaAction`, `Replicas.step`, `Replicas.run` — what may happen, one after another.

Main results:

* `Store.get?_takeOver` — what a store has is what it had, or what it took over;
* `Replicas.Stepped` with `Replicas.stepped` — what a step can do.
-/

import HubReplication.Proofs.Store.History

set_option relaxedAutoImplicit false
set_option autoImplicit false

namespace HubReplication

/-! ### Settlements -/

/-- A conflict was settled: the key, and the vector that has seen both versions. -/
structure Settlement where
  key : ItemKey
  vector : ChangeVector

namespace Store

/-- The conflict that a store settles when it takes over an item. -/
def settlement? (s : Store) (item : Item) : Option Settlement :=
  match s.items.get? item.key with
  | none => none
  | some own =>
    if own.changeVector.compare item.changeVector = .conflict then
      some ⟨item.key, own.changeVector.merge item.changeVector⟩
    else none

/-- The conflicts that a store settles when it takes over items one after another. -/
def settlements (s : Store) : List Item → List Settlement
  | [] => []
  | item :: rest => (s.settlement? item).toList ++ (s.takeOver item).settlements rest

variable {s : Store} {item own : Item} {k : ItemKey}

/-- The version that a local write of an item makes. -/
def version (s : Store) (item : Item) : Item :=
  { item with
    etag := s.lastEtag + 1
    changeVector := (s.seen item.key).raise s.databaseId (s.lastEtag + 1) }

/-- What a store has after a local write is what it had, or what was written. -/
theorem get?_keepLocal (h : (s.keepLocal item).announce.items.get? k = some own) :
    s.items.get? k = some own ∨ own = s.version item := by
  have hkeep : (s.keepLocal item).items.get? k = some own := h
  rw [keepLocal, get?_keep] at hkeep
  split at hkeep
  · cases hkeep
    exact .inr rfl
  · exact .inl hkeep

/-- What a store has after it took an item over is what it had, or the item under a vector that has
seen both, where the store had not seen the item. -/
theorem get?_takeOver (h : (s.takeOver item).items.get? k = some own) :
    s.items.get? k = some own ∨
      own = { item with
        etag := s.lastEtag + 1
        changeVector := (s.seen item.key).merge item.changeVector } ∧
      ∀ {previous}, s.items.get? item.key = some previous →
        previous.changeVector.dominates item.changeVector = false := by
  rcases takeOver_cases s item with heq | ⟨heq, hunseen⟩
  · rw [heq] at h
    exact .inl h
  · rw [heq, keepReplicated, get?_keep] at h
    split at h
    · cases h
      exact .inr ⟨rfl, hunseen⟩
    · exact .inl h

theorem delete_cases {id : String} {time : Instant} {deleted : Option Item} {s' : Store}
    (h : s.delete id time = .ok (deleted, s')) :
    s' = s ∨ ∃ item written, s.writeLocal item = .ok (written, s') := by
  unfold delete at h
  split at h
  · cases h
    exact .inl rfl
  · split at h
    · rename_i hwrite
      cases h
      exact .inr ⟨_, _, hwrite⟩
    · cases h

end Store

/-! ### Stores and batches -/

/-- Stores, the batches that were read from them so far, and the conflicts they settled. -/
structure Replicas where
  stores : List Store
  batches : List (List Item)
  settled : List Settlement

/-- What may happen to stores; stores and batches go by their places in their lists. -/
inductive ReplicaAction where
  /-- A document is written. -/
  | put (store : Nat) (id collection : String) (body : Json) (time : Instant)
  /-- A document is deleted. -/
  | delete (store : Nat) (id : String) (time : Instant)
  /-- A piece of the change stream is read. -/
  | read (store after max : Nat)
  /-- A batch is delivered, as the etags of a source up to some etag. -/
  | deliver (batch store : Nat) (source : String) (etag : Nat)

namespace Replicas

/-- Stores of some database ids that nothing was written to. -/
def start (ids : List String) : Replicas := ⟨ids.map Store.empty, [], []⟩

/-- Write to a store; what is refused changes nothing. -/
def write {α : Type} (r : Replicas) (i : Nat) (operation : Store → Outcome (α × Store)) :
    Replicas :=
  match r.stores[i]? with
  | none => r
  | some s =>
    match operation s with
    | .error _ => r
    | .ok (_, s') => { r with stores := r.stores.set i s' }

/-- One step; an action on what is not there changes nothing. -/
def step (r : Replicas) : ReplicaAction → Replicas
  | .put i id collection body time => r.write i (·.putAt id collection body time)
  | .delete i id time => r.write i (·.delete id time)
  | .read i after max =>
    match r.stores[i]? with
    | none => r
    | some s => { r with batches := r.batches ++ [s.changesAfter after max] }
  | .deliver n i source etag =>
    match r.stores[i]?, r.batches[n]? with
    | some s, some items =>
      match s.applyBatch source items etag with
      | .error _ => r
      | .ok (_, s') =>
        { r with stores := r.stores.set i s', settled := r.settled ++ s.settlements items }
    | _, _ => r

/-- What a list of actions leads to. -/
def run (ids : List String) (actions : List ReplicaAction) : Replicas :=
  actions.foldl step (start ids)

/-! ### What a step can do -/

/-- What a step can do. -/
inductive Stepped (r : Replicas) : Replicas → Prop
  | idle : Stepped r r
  /-- A version was written to a store. -/
  | written {i : Nat} {s : Store} (hs : r.stores[i]? = some s) (item : Item) :
      Stepped r { r with stores := r.stores.set i (s.keepLocal item).announce }
  /-- A batch was read from a store. -/
  | read {i : Nat} {s : Store} (hs : r.stores[i]? = some s) (after max : Nat) :
      Stepped r { r with batches := r.batches ++ [s.changesAfter after max] }
  /-- A batch was taken over by a store. -/
  | delivered {i : Nat} {s s' : Store} {items : List Item} {source : String} {etag : Nat}
      {cv : ChangeVector} (hs : r.stores[i]? = some s) (hitems : items ∈ r.batches)
      (happly : s.applyBatch source items etag = .ok (cv, s')) :
      Stepped r { r with stores := r.stores.set i s', settled := r.settled ++ s.settlements items }

variable {r : Replicas} {i : Nat}

/-- A store in the place of one that it agrees with leaves what they agree on as it is. -/
theorem map_set_eq {α : Type} {f : Store → α} {s s' : Store} (hs : r.stores[i]? = some s)
    (hf : f s' = f s) : (r.stores.set i s').map f = r.stores.map f := by
  obtain ⟨hlt, rfl⟩ := List.getElem?_eq_some_iff.1 hs
  rw [List.map_set, hf, ← List.map_set, List.set_getElem_self]

theorem stepped_write {α : Type} {operation : Store → Outcome (α × Store)}
    (hwrite : ∀ {s a s'}, operation s = .ok (a, s') →
      s' = s ∨ ∃ item written, s.writeLocal item = .ok (written, s')) :
    Stepped r (r.write i operation) := by
  unfold write
  split
  · exact .idle
  · rename_i s hs
    split
    · exact .idle
    · rename_i a s' hok
      rcases hwrite hok with rfl | ⟨item, written, hlocal⟩
      · -- Putting a store in its own place changes nothing.
        have hset : r.stores.set i s' = r.stores := by
          obtain ⟨hlt, rfl⟩ := List.getElem?_eq_some_iff.1 hs
          exact List.set_getElem_self hlt
        rw [hset]
        exact .idle
      · rw [Store.writeLocal_eq_ok hlocal]
        exact .written hs item

theorem stepped (r : Replicas) (action : ReplicaAction) : Stepped r (r.step action) := by
  cases action with
  | put i id collection body time =>
      exact stepped_write fun hput => .inr ⟨_, _, hput⟩
  | delete i id time => exact stepped_write Store.delete_cases
  | read i after max =>
      simp only [step]
      split
      · exact .idle
      · rename_i s hs
        exact .read hs after max
  | deliver n i source etag =>
      simp only [step]
      split
      · rename_i s items hs hitems
        split
        · exact .idle
        · rename_i cv s' happly
          exact .delivered hs (List.mem_of_getElem? hitems) happly
      · exact .idle

end Replicas

end HubReplication
