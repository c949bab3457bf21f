/-
**Local writes in the eyes of peers.**

A peer that holds a version takes over another one of the same key unless it is dominated by what
the peer holds.  A local write gives its version a vector by raising the entry of the store's own
database to the new etag.  That makes it newer than the version before, as long as nobody sent back
an entry of this database above the etags the store has given.  Such entries come back to a store
that was created again under the id of an earlier one; raising does nothing to them, the new version
stands where the old one did, and peers that hold the old one skip it.

Main definitions:

* `Store.LocalWrite` — a put or a deletion: the version written, and the store afterwards;
* `Store.Grown` — the stores that local writes and batches lead to.

Main results:

* `Store.LocalWrite.changeVector_eq` — the vector of a version written here;
* `Store.visible_iff` — which local writes are newer than the version before, and that peers skip
  all others;
* `Store.Grown.newer` — all are, in a store that takes over honest batches only.
-/

import HubReplication.Proofs.Store.History

set_option relaxedAutoImplicit false
set_option autoImplicit false

namespace HubReplication.Store

variable {s s' : Store} {written previous : Item}

/-! ### Writing -/

/-- A put or a deletion: the version it writes, and the store afterwards. -/
inductive LocalWrite (s : Store) (written : Item) (s' : Store) : Prop
  | put {id collection : String} {body : Json} {at' : Instant}
      (h : s.putAt id collection body at' = .ok (written, s'))
  | delete {id : String} {at' : Instant} (h : s.delete id at' = .ok (some written, s'))

theorem LocalWrite.exists_writeLocal (h : s.LocalWrite written s') :
    ∃ item, s.writeLocal item = .ok (written, s') := by
  cases h with
  | put h => exact ⟨_, h⟩
  | delete h =>
      unfold Store.delete at h
      split at h
      · cases h
      · split at h
        · rename_i hwrite
          cases h
          exact ⟨_, hwrite⟩
        · cases h

/-- What is written is the item under the next etag, with the raised vector. -/
theorem written_of_writeLocal {item : Item} (h : s.writeLocal item = .ok (written, s')) :
    written = { item with
      etag := s.lastEtag + 1
      changeVector := (s.seen item.key).raise s.databaseId (s.lastEtag + 1) } := by
  unfold writeLocal at h
  split at h
  · cases h
  · cases h
    simp only [announce, keepLocal, get?_keep, if_pos, Option.getD_some]

/-- The vector of a version written here is that of the version before it, raised to the new etag. -/
theorem LocalWrite.changeVector_eq (h : s.LocalWrite written s')
    (hprevious : s.items.get? written.key = some previous) :
    written.changeVector = previous.changeVector.raise s.databaseId (s.lastEtag + 1) := by
  obtain ⟨item, hwrite⟩ := h.exists_writeLocal
  have hwritten := written_of_writeLocal hwrite
  have hkey : written.key = item.key := by
    rw [hwritten]
    rfl
  rw [hkey] at hprevious
  rw [hwritten, seen_eq hprevious]

/-! ### Peers -/

/-- A peer skips an item exactly where what it holds dominates the item. -/
theorem takeOver_eq_self_iff {t : Store} {item own : Item}
    (hown : t.items.get? item.key = some own) :
    t.takeOver item = t ↔ own.changeVector.dominates item.changeVector = true := by
  simp only [takeOver, hown]
  split
  · rename_i hdom
    exact iff_of_true rfl hdom
  · rename_i hdom
    refine iff_of_false (fun hsame => ?_) hdom
    -- A version that is kept has an etag of its own.
    have hetag : (t.keepReplicated item).lastEtag = t.lastEtag + 1 := rfl
    rw [hsame] at hetag
    exact absurd hetag (Nat.succ_ne_self _).symm

/-- A version written here is newer than the version before it if the entry of this database was not
above the etags the store has given.  A peer that holds the version before skips it otherwise, and
only then. -/
theorem visible_iff (h : s.LocalWrite written s')
    (hprevious : s.items.get? written.key = some previous) :
    (written.changeVector.compare previous.changeVector = .newer ↔
        previous.changeVector.get s.databaseId ≤ s.lastEtag) ∧
      ∀ (t : Store) (own : Item), t.items.get? written.key = some own →
        own.changeVector.compare previous.changeVector = .equal →
          (t.takeOver written = t ↔
            written.changeVector.compare previous.changeVector ≠ .newer) := by
  have hcv := h.changeVector_eq hprevious
  have hnewer : written.changeVector.compare previous.changeVector = .newer ↔
      previous.changeVector.get s.databaseId ≤ s.lastEtag := by
    rw [hcv, ChangeVector.compare_raise]
    split
    · exact iff_of_false (by simp) (by omega)
    · exact iff_of_true rfl (by omega)
  refine ⟨hnewer, fun t own hown hequal => ?_⟩
  obtain ⟨hdom, hdom'⟩ := ChangeVector.compare_eq_equal_iff.1 hequal
  have hskips : own.changeVector.dominates written.changeVector = true ↔
      previous.changeVector.dominates written.changeVector = true :=
    ⟨ChangeVector.dominates_trans hdom', ChangeVector.dominates_trans hdom⟩
  rw [takeOver_eq_self_iff hown, hskips, ne_eq, hnewer, hcv, ChangeVector.dominates_raise_iff,
    Nat.not_le]
  exact Iff.rfl

/-! ### Whole lives -/

/-- The stores that local writes and batches lead to, when every item of a batch fits the store it
comes to. -/
inductive Grown (fits : Store → Item → Prop) (databaseId : String) : Store → Prop
  | empty : Grown fits databaseId (.empty databaseId)
  | written {s s' : Store} {written : Item} (h : Grown fits databaseId s)
      (hwrite : s.LocalWrite written s') : Grown fits databaseId s'
  | applied {s s' : Store} {source : String} {items : List Item} {etag : Nat} {cv : ChangeVector}
      (h : Grown fits databaseId s) (hitems : ∀ item ∈ items, fits s item)
      (happly : s.applyBatch source items etag = .ok (cv, s')) : Grown fits databaseId s'

theorem Grown.recordedIn {databaseId : String} (h : Grown Honest databaseId s) :
    ∃ past, s.RecordedIn past := by
  induction h with
  | empty => exact ⟨[], recordedIn_empty databaseId⟩
  | written _ hwrite ih =>
      obtain ⟨past, hpast⟩ := ih
      obtain ⟨item, hwrite⟩ := hwrite.exists_writeLocal
      obtain ⟨past', -, hpast'⟩ := hpast.writeLocal hwrite
      exact ⟨past', hpast'⟩
  | applied _ hitems happly ih =>
      obtain ⟨past, hpast⟩ := ih
      obtain ⟨past', -, hpast'⟩ := hpast.applyBatch hitems happly
      exact ⟨past', hpast'⟩

/-- Where no batch claims to have seen etags that the store has not given, every local write is
newer than the version before it. -/
theorem Grown.newer {databaseId : String} (h : Grown Honest databaseId s)
    (hwrite : s.LocalWrite written s') (hprevious : s.items.get? written.key = some previous) :
    written.changeVector.compare previous.changeVector = .newer := by
  obtain ⟨past, hpast⟩ := h.recordedIn
  have hown := hpast.own_le (hpast.current hprevious)
  rw [hwrite.changeVector_eq hprevious, ChangeVector.compare_raise, if_neg (by omega)]

/-- A document that the store wrote under its third etag, in an earlier life. -/
def sentBack : Item :=
  { id := "users/1", kind := .document, collection := some "Users", etag := 3,
    changeVector := .single "a" 3, lastModified := ⟨0, 0⟩, deleted := false,
    body := some (.object []) }

/-- The store in its next life, once a peer sent the document back. -/
def recreated : Store := (((empty "a").takeOver sentBack).accept "b" 3).announce

/-- The peer. -/
def keeper : Store := (empty "b").takeOver sentBack

/-- The version that a put of another document writes. -/
def rewritten : Item :=
  { sentBack with
    etag := 2, changeVector := (ChangeVector.single "a" 3).raise "a" 2,
    lastModified := ⟨1, 0⟩, body := some (.array []) }

/-- The document is put again; the peer that sent it back skips what was put. -/
theorem not_visible_recreated :
    Grown (fun _ _ => True) "a" recreated ∧
      ∃ s' previous, recreated.LocalWrite rewritten s' ∧
        recreated.items.get? rewritten.key = some previous ∧
        rewritten.changeVector.compare previous.changeVector ≠ .newer ∧
        keeper.takeOver rewritten = keeper := by
  obtain ⟨cv, hback⟩ : ∃ cv, (empty "a").applyBatch "b" [sentBack] 3 = .ok (cv, recreated) :=
    ⟨_, rfl⟩
  obtain ⟨s', hput⟩ : ∃ s', recreated.putAt "users/1" "Users" (.array []) ⟨1, 0⟩ =
      .ok (rewritten, s') := ⟨_, rfl⟩
  have hprevious : recreated.items.get? rewritten.key =
      some { sentBack with etag := 1, changeVector := ChangeVector.empty.merge (.single "a" 3) } :=
    rfl
  obtain ⟨hnewer, hskips⟩ := visible_iff (.put hput) hprevious
  -- The entry of this database is above the one etag that the store has given.
  have hnot := mt hnewer.1 (by decide +kernel)
  have hheld := hskips keeper _ rfl (by decide +kernel)
  exact ⟨Grown.empty.applied (fun _ _ => trivial) hback, s', _, .put hput, hprevious, hnot,
    hheld.2 hnot⟩

end HubReplication.Store
