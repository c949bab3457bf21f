/-
**Stores come to rest.**

A version that a store takes over gets an etag of the store's own, so it is offered back to where it
came from.  Nothing goes round in circles all the same: what a store has of a key then says more of
some database than before, and never more than all the vectors say together that there were when the
last document was written.  Each store has so much room under each key, the room is a number, and
every delivery that changes a store makes it smaller.

Main definitions:

* `ChangeVector.lag` — how far a vector is behind a bound;
* `Horizon`, `Store.Within` — keys and a vector that all versions stay within;
* `Replicas.room` — how much the stores may still take over;
* `Replicas.after` — stores under an endless schedule.

Main results:

* `Replicas.within_horizon` — whatever stores and batches there are, they have a horizon;
* `Replicas.unmoved_or_room_lt` — an exchange moves nothing, or there is less room after it;
* `Replicas.contents_settle` — under every schedule of exchanges only finitely many of them change
  a store, and after the last of them no etag moves.
-/

import HubReplication.Proofs.Replicas.Basic
import Mathlib.Algebra.Order.BigOperators.Group.List
import Mathlib.Algebra.Order.Ring.Nat
import Mathlib.Data.Set.Finite.Basic
import Mathlib.Order.OrderIsoNat

set_option relaxedAutoImplicit false
set_option autoImplicit false

namespace HubReplication

/-! ### How far a vector is behind -/

namespace ChangeVector

/-- How far a vector is behind a bound, over all databases of the bound. -/
def lag (bound cv : ChangeVector) : Nat :=
  (bound.entries.keys.map fun d => bound.get d - cv.get d).sum

variable {bound cv cv' : ChangeVector}

theorem lag_le (h : cv'.dominates cv = true) : bound.lag cv' ≤ bound.lag cv := by
  refine List.sum_le_sum fun d _ => ?_
  have hd := dominates_iff.1 h d
  omega

/-- A vector that says more of some database, and no more than the bound, is less far behind. -/
theorem lag_lt (h : cv'.dominates cv = true) (hmore : cv.dominates cv' = false)
    (hbound : bound.dominates cv' = true) : bound.lag cv' < bound.lag cv := by
  have hmore : ∃ d, cv.get d < cv'.get d := by
    by_contra hnone
    have hdom : cv.dominates cv' = true := dominates_iff.2 fun d => by
      have hd := not_exists.1 hnone d
      omega
    rw [hdom] at hmore
    cases hmore
  obtain ⟨d, hd⟩ := hmore
  have hle := dominates_iff.1 hbound d
  have hmem : d ∈ bound.entries.keys := by
    by_contra hout
    rw [get_eq_zero_of_not_mem hout] at hle
    omega
  refine List.sum_lt_sum _ _ (fun d' _ => ?_) ⟨d, hmem, ?_⟩
  · have hd' := dominates_iff.1 h d'
    omega
  · omega

theorem dominates_empty (bound : ChangeVector) : bound.dominates .empty = true :=
  dominates_iff.2 fun _ => Nat.zero_le _

/-- All that any of the vectors says. -/
def join : List ChangeVector → ChangeVector
  | [] => .empty
  | cv :: rest => cv.merge (join rest)

theorem join_dominates {vectors : List ChangeVector} (h : cv ∈ vectors) :
    (join vectors).dominates cv = true := by
  induction vectors with
  | nil => cases h
  | cons first rest ih =>
      rcases List.mem_cons.1 h with rfl | h
      · exact merge_dominates_left _ _
      · exact dominates_trans (merge_dominates_right _ _) (ih h)

end ChangeVector

/-! ### The horizon of a store -/

/-- Keys, and the most that a version of one of them may have seen. -/
structure Horizon where
  keys : List ItemKey
  vector : ChangeVector

/-- A version is of one of the keys and has seen no more than the horizon says. -/
structure Item.Within (item : Item) (z : Horizon) : Prop where
  key_mem : item.key ∈ z.keys
  dominates : z.vector.dominates item.changeVector = true

/-- How much may still be taken over under a key; having the key at all counts for one. -/
def Horizon.roomAt (z : Horizon) (items : SortedMap ItemKey Item) (k : ItemKey) : Nat :=
  match items.get? k with
  | some own => z.vector.lag own.changeVector
  | none => z.vector.lag .empty + 1

/-- How much may still be taken over. -/
def Horizon.room (z : Horizon) (items : SortedMap ItemKey Item) : Nat :=
  (z.keys.map (z.roomAt items)).sum

namespace Store

/-- All versions of a store are within a horizon. -/
def Within (s : Store) (z : Horizon) : Prop :=
  ∀ k own, s.items.get? k = some own → own.Within z

variable {s s' : Store} {z : Horizon} {item : Item}

theorem dominates_seen (hs : s.Within z) (k : ItemKey) : z.vector.dominates (s.seen k) = true := by
  cases hget : s.items.get? k with
  | none => simpa [seen, hget] using ChangeVector.dominates_empty z.vector
  | some own => simpa [seen, hget] using (hs k own hget).dominates

/-- What a store makes of an item is within the horizon of both. -/
theorem Within.takeOver (hs : s.Within z) (hitem : item.Within z) : (s.takeOver item).Within z := by
  intro k own hget
  rcases get?_takeOver hget with hold | ⟨rfl, -⟩
  · exact hs k own hold
  · exact ⟨hitem.key_mem, ChangeVector.dominates_merge (dominates_seen hs _) hitem.dominates⟩

theorem Within.foldl_takeOver {items : List Item} (hs : s.Within z)
    (hitems : ∀ item ∈ items, item.Within z) : (items.foldl Store.takeOver s).Within z := by
  induction items generalizing s with
  | nil => exact hs
  | cons item items ih =>
      obtain ⟨hitem, hrest⟩ := List.forall_mem_cons.1 hitems
      exact ih (hs.takeOver hitem) hrest

/-- Under the key of an item that was not seen, there is less room once it is kept. -/
theorem roomAt_keepReplicated_lt (hs : s.Within z) (hitem : item.Within z)
    (hunseen : ∀ {own}, s.items.get? item.key = some own →
      own.changeVector.dominates item.changeVector = false) :
    z.roomAt (s.keepReplicated item).items item.key < z.roomAt s.items item.key := by
  have hkept := get?_keep s item ((s.seen item.key).merge item.changeVector) item.key
  rw [if_pos rfl] at hkept
  have hgrown := ChangeVector.merge_dominates_left (s.seen item.key) item.changeVector
  have hbound := ChangeVector.dominates_merge (dominates_seen hs item.key) hitem.dominates
  simp only [Horizon.roomAt, keepReplicated, hkept]
  cases hget : s.items.get? item.key with
  | none =>
      have hseen : s.seen item.key = .empty := by simp [seen, hget]
      rw [hseen] at hgrown ⊢
      exact Nat.lt_succ_of_le (ChangeVector.lag_le hgrown)
  | some own =>
      rw [seen_eq hget] at hgrown hbound ⊢
      -- Had the old vector seen all of the merged one, it would have seen the item.
      have hmore :
          own.changeVector.dominates (own.changeVector.merge item.changeVector) = false := by
        cases hdom : own.changeVector.dominates (own.changeVector.merge item.changeVector) with
        | false => rfl
        | true =>
            have hitem := ChangeVector.dominates_trans hdom (ChangeVector.merge_dominates_right _ _)
            rw [hunseen hget] at hitem
            cases hitem
      exact ChangeVector.lag_lt hgrown hmore hbound

/-- A store leaves an item that it has seen, and has less room after it kept one. -/
theorem takeOver_eq_or_room_lt (hs : s.Within z) (hitem : item.Within z) :
    s.takeOver item = s ∨ z.room (s.takeOver item).items < z.room s.items := by
  rcases takeOver_cases s item with hleft | ⟨hkept, hunseen⟩
  · exact .inl hleft
  · right
    rw [hkept]
    have hless := roomAt_keepReplicated_lt hs hitem hunseen
    refine List.sum_lt_sum _ _ (fun k _ => ?_) ⟨item.key, hitem.key_mem, hless⟩
    by_cases hk : k = item.key
    · rw [hk]
      exact Nat.le_of_lt hless
    · refine Nat.le_of_eq ?_
      have hother := get?_keep s item ((s.seen item.key).merge item.changeVector) k
      rw [if_neg hk] at hother
      simp only [Horizon.roomAt, keepReplicated, hother]

theorem foldl_takeOver_eq_or_room_lt {items : List Item} (hs : s.Within z)
    (hitems : ∀ item ∈ items, item.Within z) :
    items.foldl takeOver s = s ∨ z.room (items.foldl takeOver s).items < z.room s.items := by
  induction items generalizing s with
  | nil => exact .inl rfl
  | cons item items ih =>
      obtain ⟨hitem, hrest⟩ := List.forall_mem_cons.1 hitems
      rw [List.foldl_cons]
      rcases takeOver_eq_or_room_lt hs hitem with hleft | hless
      · rw [hleft]
        exact ih hs hrest
      · rcases ih (hs.takeOver hitem) hrest with hstill | hlesser
        · rw [hstill]
          exact .inr hless
        · exact .inr (Nat.lt_trans hlesser hless)

/-- A batch leaves the versions and the etags of a store as they are, or leaves less room. -/
theorem applyBatch_unmoved_or_room_lt {source : String} {items : List Item} {etag : Nat}
    {cv : ChangeVector} (hs : s.Within z) (hitems : ∀ item ∈ items, item.Within z)
    (h : s.applyBatch source items etag = .ok (cv, s')) :
    (s'.items = s.items ∧ s'.lastEtag = s.lastEtag ∧ s'.announced = s.announced) ∨
      z.room s'.items < z.room s.items := by
  rcases foldl_takeOver_eq_or_room_lt hs hitems with hstill | hless
  · left
    unfold applyBatch at h
    split at h
    · cases h
    · simp only [hstill, accept, if_true] at h
      cases h
      exact ⟨rfl, rfl, rfl⟩
  · right
    rw [items_applyBatch h]
    exact hless

/-- What is read from a store is within its horizon. -/
theorem within_of_mem_changesAfter {after max : Nat} (hs : s.Within z)
    (h : item ∈ s.changesAfter after max) : item.Within z := by
  obtain ⟨entry, -, hget⟩ := List.mem_filterMap.1 h
  exact hs _ _ hget

end Store

/-! ### Exchanges -/

/-- Whether an action writes a document, in contrast to an exchange between stores. -/
def ReplicaAction.isLocal : ReplicaAction → Bool
  | .put .. | .delete .. => true
  | .read .. | .deliver .. => false

namespace Replicas

/-- The versions that the stores have. -/
def contents (r : Replicas) : List (SortedMap ItemKey Item) := r.stores.map (·.items)

/-- The etags of the stores, and those that readers were told of. -/
def etags (r : Replicas) : List (Nat × Nat) := r.stores.map fun s => (s.lastEtag, s.announced)

/-- All stores and all batches in flight are within a horizon. -/
structure Within (r : Replicas) (z : Horizon) : Prop where
  stores : ∀ s ∈ r.stores, s.Within z
  batches : ∀ items ∈ r.batches, ∀ item ∈ items, item.Within z

/-- How much all stores together may still take over. -/
def room (r : Replicas) (z : Horizon) : Nat := (r.contents.map z.room).sum

/-- All versions that there are, in stores and in flight. -/
def versions (r : Replicas) : List Item :=
  r.stores.flatMap (fun s => s.items.values) ++ r.batches.flatten

/-- The keys of all versions, and all that any of them has seen. -/
def horizon (r : Replicas) : Horizon :=
  ⟨r.versions.map Item.key, ChangeVector.join (r.versions.map Item.changeVector)⟩

variable {r : Replicas} {z : Horizon} {action : ReplicaAction}

theorem within_of_mem_versions {item : Item} (h : item ∈ r.versions) : item.Within r.horizon :=
  ⟨List.mem_map_of_mem h, ChangeVector.join_dominates (List.mem_map_of_mem h)⟩

theorem within_horizon (r : Replicas) : r.Within r.horizon where
  stores := by
    intro s hs k own hget
    refine within_of_mem_versions (List.mem_append_left _ (List.mem_flatMap.2 ⟨s, hs, ?_⟩))
    exact List.mem_map_of_mem (f := Prod.snd) (SortedMap.get?_eq_some_iff.1 hget)
  batches := by
    intro items hitems item hitem
    exact within_of_mem_versions
      (List.mem_append_right _ (List.mem_flatten.2 ⟨items, hitems, hitem⟩))

/-! ### One exchange -/

/-- What comes of an exchange: nothing, a batch that was read, or one that was taken over. -/
theorem step_exchange_cases (h : action.isLocal = false) :
    r.step action = r ∨
    (∃ s after max, s ∈ r.stores ∧
      r.step action = { r with batches := r.batches ++ [s.changesAfter after max] }) ∨
    ∃ i s s' items source etag cv, r.stores[i]? = some s ∧ items ∈ r.batches ∧
      s.applyBatch source items etag = .ok (cv, s') ∧
      r.step action =
        { r with stores := r.stores.set i s', settled := r.settled ++ s.settlements items } := by
  cases action with
  | put => cases h
  | delete => cases h
  | read i after max =>
      simp only [step]
      split
      · exact .inl rfl
      · rename_i s hs
        exact .inr (.inl ⟨s, after, max, List.mem_of_getElem? hs, rfl⟩)
  | deliver n i source etag =>
      simp only [step]
      split
      · rename_i s items hs hitems
        split
        · exact .inl rfl
        · rename_i cv s' happly
          exact .inr (.inr
            ⟨i, s, s', items, source, etag, cv, hs, List.mem_of_getElem? hitems, happly, rfl⟩)
      · exact .inl rfl

/-- Exchanges lead nowhere beyond a horizon. -/
theorem Within.step (hr : r.Within z) (h : action.isLocal = false) : (r.step action).Within z := by
  rcases step_exchange_cases h with heq | ⟨s, after, max, hs, heq⟩ |
    ⟨i, s, s', items, source, etag, cv, hs, hitems, happly, heq⟩ <;> rw [heq]
  · exact hr
  · refine ⟨hr.stores, fun items hitems item hitem => ?_⟩
    rcases List.mem_append.1 hitems with hold | hread
    · exact hr.batches items hold item hitem
    · rw [List.mem_singleton.1 hread] at hitem
      exact Store.within_of_mem_changesAfter (hr.stores s hs) hitem
  · refine ⟨fun own hown => ?_, hr.batches⟩
    rcases List.mem_or_eq_of_mem_set hown with hold | rfl
    · exact hr.stores own hold
    · intro k item hget
      rw [Store.items_applyBatch happly] at hget
      exact Store.Within.foldl_takeOver (hr.stores s (List.mem_of_getElem? hs))
        (hr.batches items hitems) k item hget

theorem sum_set_lt {l : List Nat} {i a b : Nat} (h : l[i]? = some b) (hab : a < b) :
    (l.set i a).sum < l.sum := by
  induction l generalizing i with
  | nil => cases h
  | cons first rest ih =>
      cases i with
      | zero =>
          cases h
          simp only [List.set_cons_zero, List.sum_cons]
          omega
      | succ i =>
          have hrest := ih h
          simp only [List.set_cons_succ, List.sum_cons]
          omega

/-- An exchange leaves all versions and etags as they are, or leaves less room. -/
theorem unmoved_or_room_lt (hr : r.Within z) (h : action.isLocal = false) :
    ((r.step action).contents = r.contents ∧ (r.step action).etags = r.etags) ∨
      (r.step action).room z < r.room z := by
  rcases step_exchange_cases h with heq | ⟨s, after, max, hs, heq⟩ |
    ⟨i, s, s', items, source, etag, cv, hs, hitems, happly, heq⟩ <;> rw [heq]
  · exact .inl ⟨rfl, rfl⟩
  · exact .inl ⟨rfl, rfl⟩
  · have hwithin := hr.stores s (List.mem_of_getElem? hs)
    rcases Store.applyBatch_unmoved_or_room_lt hwithin (hr.batches items hitems) happly with
      ⟨hitems, hetag, htold⟩ | hless
    · left
      exact ⟨map_set_eq hs hitems, map_set_eq hs (by rw [hetag, htold])⟩
    · right
      have hplace : (r.contents.map z.room)[i]? = some (z.room s.items) := by
        simp only [contents, List.getElem?_map, hs, Option.map_some]
      simp only [room, contents, List.map_set]
      exact sum_set_lt hplace hless

/-- Where no version changes, no etag moves. -/
theorem etags_step_eq (hr : r.Within z) (h : action.isLocal = false)
    (hsame : (r.step action).contents = r.contents) : (r.step action).etags = r.etags := by
  rcases unmoved_or_room_lt hr h with ⟨-, hetags⟩ | hless
  · exact hetags
  · rw [room, room, hsame] at hless
    exact absurd hless (Nat.lt_irrefl _)

/-! ### Endless schedules -/

/-- Stores after the first so many actions of an endless schedule. -/
def after (r : Replicas) (schedule : Nat → ReplicaAction) : Nat → Replicas
  | 0 => r
  | n + 1 => (r.after schedule n).step (schedule n)

variable {schedule : Nat → ReplicaAction}

theorem Within.after (hr : r.Within z) (h : ∀ n, (schedule n).isLocal = false) (n : Nat) :
    (r.after schedule n).Within z := by
  induction n with
  | zero => exact hr
  | succ n ih => exact ih.step (h n)

theorem antitone_room (hr : r.Within z) (h : ∀ n, (schedule n).isLocal = false) :
    Antitone fun n => (r.after schedule n).room z := by
  refine antitone_nat_of_succ_le fun n => ?_
  rcases unmoved_or_room_lt (hr.after h n) (h n) with ⟨hstill, -⟩ | hless
  · exact Nat.le_of_eq (by rw [room, room, after, hstill])
  · exact Nat.le_of_lt hless

/-- **Stores come to rest.**  Whatever stores and batches in flight there are, and in whatever order
pieces of change streams are read and delivered from then on, again and again or never: only
finitely many of these exchanges change the versions of a store, and once no version changes any
more, no etag moves again. -/
theorem contents_settle (r : Replicas) (h : ∀ n, (schedule n).isLocal = false) :
    {n | (r.after schedule (n + 1)).contents ≠ (r.after schedule n).contents}.Finite ∧
    ∀ n, (∀ m, n ≤ m →
        (r.after schedule (m + 1)).contents = (r.after schedule m).contents) →
      ∀ m, n ≤ m → (r.after schedule m).etags = (r.after schedule n).etags := by
  have hwithin := (within_horizon r).after h
  have hroom := antitone_room (within_horizon r) h
  constructor
  · obtain ⟨last, hlast⟩ := WellFoundedLT.antitone_chain_condition hroom
    refine (Set.finite_Iio last).subset fun n hmoved => ?_
    by_contra hlate
    have hle : last ≤ n := Nat.le_of_not_lt hlate
    rcases unmoved_or_room_lt (hwithin n) (h n) with ⟨hstill, -⟩ | hless
    · exact hmoved hstill
    · -- From `last` on the room stays what it is.
      have hnow := hlast n hle
      have hnext := hlast (n + 1) (Nat.le_succ_of_le hle)
      simp only [after] at hnow hnext
      omega
  · intro n hstill m hm
    induction m, hm using Nat.le_induction with
    | base => rfl
    | succ m hle ih =>
        rw [← ih]
        exact etags_step_eq (hwithin m) (h m) (hstill m hle)

/-- Two stores that each wrote a version of one document. -/
def rivals : Replicas :=
  run ["a", "b"]
    [.put 0 "users/1" "C" (.bool true) ⟨0, 0⟩, .put 1 "users/1" "C" (.bool false) ⟨0, 0⟩]

/-- All that a store has goes to the other one, in turns and for ever. -/
def pingPong (n : Nat) : ReplicaAction :=
  if n % 2 = 0 then .read (n / 2 % 2) 0 10
  else .deliver (n / 2) ((n / 2 + 1) % 2) "peer" n

theorem isLocal_pingPong (n : Nat) : (pingPong n).isLocal = false := by
  unfold pingPong
  split <;> rfl

/-- Each of two rivals takes over what the other one wrote, and that is the end of it. -/
theorem contents_settle_rivals :
    (rivals.etags = [(1, 1), (1, 1)] ∧ (rivals.after pingPong 4).etags = [(2, 2), (2, 2)]) ∧
    {n | (rivals.after pingPong (n + 1)).contents ≠ (rivals.after pingPong n).contents}.Finite ∧
    ∀ n, (∀ m, n ≤ m →
        (rivals.after pingPong (m + 1)).contents = (rivals.after pingPong m).contents) →
      ∀ m, n ≤ m → (rivals.after pingPong m).etags = (rivals.after pingPong n).etags := by
  have hmoved : rivals.etags = [(1, 1), (1, 1)] ∧
      (rivals.after pingPong 4).etags = [(2, 2), (2, 2)] := by decide +kernel
  exact ⟨hmoved, contents_settle rivals isLocal_pingPong⟩

end Replicas

end HubReplication
