/-
**Redelivery.**

Batches are sent again when an acknowledgment is lost, and they overtake each other on their way.
What a store was once given, or wrote itself, it has seen for good, so giving it again leaves no
trace but the etag of its source.  And where the versions that were given under a key stand in a
line, the store ends with the newest of them, however they were cut into batches, repeated and
reordered: a version that arrives late is behind what is there, and a version that arrives early is
not overtaken.

Main definitions:

* `Chronicle.Knows` — a version was delivered to a store, or written there;
* `Chronicle.Lined` — the versions that were delivered under a key stand in a line;
* `Chronicle.Newest` — no version that was delivered under the key is newer.

Main results:

* `Chronicle.Knows.hasSeen` — what was delivered or written is dominated ever after;
* `Store.applyBatch_of_seen` — a batch of what was seen changes nothing but the etag of its source;
* `Chronicle.drawnAt_after` — without local writes, a store has delivered versions of a line;
* `Chronicle.unharmed_after` — redelivery is harmless, and the order of delivery does not matter.
-/

import HubReplication.Proofs.Store.Chronicle
import HubReplication.Proofs.Store.History

set_option relaxedAutoImplicit false
set_option autoImplicit false

namespace HubReplication

namespace Store

variable {s : Store} {items : List Item}

/-! ### Batches that were seen -/

theorem HasSeen.of_sameVersion {item v : Item} (h : s.HasSeen v) (hsame : item.SameVersion v) :
    s.HasSeen item := by
  obtain ⟨own, hown, hdom⟩ := h
  exact ⟨own, hsame.key_eq ▸ hown, ChangeVector.dominates_trans hdom hsame.dominated⟩

theorem takeOver_of_seen {item : Item} (h : s.HasSeen item) : s.takeOver item = s := by
  obtain ⟨own, hown, hdom⟩ := h
  exact (takeOver_eq_self_iff hown).2 hdom

theorem foldl_takeOver_of_seen (h : ∀ item ∈ items, s.HasSeen item) :
    items.foldl takeOver s = s := by
  induction items with
  | nil => rfl
  | cons item rest ih =>
      obtain ⟨hitem, hrest⟩ := List.forall_mem_cons.1 h
      rw [List.foldl_cons, takeOver_of_seen hitem, ih hrest]

/-- Of a batch that was seen only the etag is taken over. -/
theorem applyBatch_of_seen (hnames : ∀ item ∈ items, Text.isBlankText item.id = false)
    (hseen : ∀ item ∈ items, s.HasSeen item) (source : String) (etag : Nat) :
    s.applyBatch source items etag = .ok (s.changeVector, s.accept source etag) := by
  have hnone : (items.find? fun item => Text.isBlankText item.id) = none :=
    List.find?_eq_none.2 fun item hitem => by simp [hnames item hitem]
  have hetag : (s.accept source etag).lastEtag = s.lastEtag := rfl
  unfold applyBatch
  rw [hnone]
  simp only [foldl_takeOver_of_seen hseen, hetag, if_true]
  rfl

end Store

namespace Chronicle

variable {c c' : Chronicle} {k : ItemKey} {v w : Item}

/-! ### What a store knows -/

/-- A version was delivered, or it was written here. -/
def Knows (c : Chronicle) (v : Item) : Prop := v ∈ c.delivered ∨ v ∈ c.written

theorem Knows.later (h : c.Knows v) (hacted : Acted c c') : c'.Knows v := by
  cases hacted with
  | idle => exact h
  | written => exact h.imp id (List.mem_append_left _)
  | applied => exact h.imp (List.mem_append_left _) id

/-- What an action lets a store know is named, and the store has seen it. -/
theorem Acted.learns (h : Acted c c') (hv : c'.Knows v) :
    c.Knows v ∨ Text.isBlankText v.id = false ∧ c'.store.HasSeen v := by
  cases h with
  | idle => exact .inl hv
  | @written item store hwrite =>
      rcases hv with hv | hv
      · exact .inl (.inl hv)
      · rcases List.mem_append.1 hv with hv | hv
        · exact .inl (.inr hv)
        · obtain rfl := List.mem_singleton.1 hv
          obtain ⟨given, hwrite⟩ := hwrite.exists_writeLocal
          have hname := Store.named_of_writeLocal hwrite
          have hwritten := Store.written_of_writeLocal hwrite
          refine .inr ⟨hwritten ▸ hname, v, ?_, ChangeVector.dominates_self _⟩
          rw [write, Store.writeLocal_eq_ok hwrite, hwritten]
          exact (Store.get?_keep _ _ _ _).trans (if_pos rfl)
  | applied happly =>
      rcases hv with hv | hv
      · rcases List.mem_append.1 hv with hv | hv
        · exact .inl (.inl hv)
        · exact .inr ⟨Store.named_of_applyBatch happly v hv, Store.hasSeen_of_applyBatch happly hv⟩
      · exact .inl (.inr hv)

/-- What was delivered or written is named, and dominated ever after. -/
theorem Knows.hasSeen {databaseId : String} {actions : List StoreAction}
    (h : (after databaseId actions).Knows v) :
    Text.isBlankText v.id = false ∧ (after databaseId actions).store.HasSeen v := by
  suffices hall : ∀ v, (after databaseId actions).Knows v →
      Text.isBlankText v.id = false ∧ (after databaseId actions).store.HasSeen v from hall v h
  refine after_induction
    (P := fun c => ∀ v, c.Knows v → Text.isBlankText v.id = false ∧ c.store.HasSeen v) ?_ ?_ actions
  · rintro v (h | h) <;> cases h
  · intro c c' ih hacted v hv
    rcases hacted.learns hv with hold | hnew
    · obtain ⟨hname, hseen⟩ := ih v hold
      exact ⟨hname, hacted.later.hasSeen hseen⟩
    · exact hnew

theorem Knows.after_append {databaseId : String} {actions : List StoreAction}
    (h : (after databaseId actions).Knows v) (later : List StoreAction) :
    (after databaseId (actions ++ later)).Knows v := by
  rw [Chronicle.after_append]
  exact foldl_act_induction (P := fun c => c.Knows v) Knows.later h later

/-! ### Versions in a line -/

/-- The versions that were delivered under a key stand in a line: any two that differ are one newer
and one older. -/
def Lined (c : Chronicle) (k : ItemKey) : Prop :=
  ∀ ⦃v w⦄, v ∈ c.delivered → w ∈ c.delivered → v.key = k → w.key = k →
    v.SameVersion w ∨ v.changeVector.compare w.changeVector = .newer ∨
      v.changeVector.compare w.changeVector = .older

/-- A version was delivered under a key, and every other one that was delivered there is older. -/
structure Newest (c : Chronicle) (k : ItemKey) (v : Item) : Prop where
  delivered : v ∈ c.delivered
  key_eq : v.key = k
  newer : ∀ {w}, w ∈ c.delivered → w.key = k →
    v.SameVersion w ∨ v.changeVector.compare w.changeVector = .newer

theorem Lined.inLineAt (h : c.Lined k) : Store.InLineAt k (· ∈ c.delivered) := by
  intro v w hv hw hvk hwk
  rcases h hv hw hvk hwk with hsame | hnewer | holder
  · exact .inl hsame.dominates
  · exact .inl (ChangeVector.compare_eq_newer_iff.1 hnewer).1
  · exact .inr (ChangeVector.compare_eq_older_iff.1 holder).2

/-- A line that goes on was a line before. -/
theorem Lined.of_acted (h : c'.Lined k) (hacted : Acted c c') : c.Lined k := by
  cases hacted with
  | idle => exact h
  | written => exact h
  | applied =>
      exact fun v w hv hw => h (List.mem_append_left _ hv) (List.mem_append_left _ hw)

theorem Acted.drawnAt (h : Acted c c') (hline : c'.Lined k) (hlocal : ∀ v ∈ c'.written, v.key ≠ k)
    (hdrawn : c.store.DrawnAt k (· ∈ c.delivered)) : c'.store.DrawnAt k (· ∈ c'.delivered) := by
  cases h with
  | idle => exact hdrawn
  | @written item store hwrite =>
      obtain ⟨given, hwrite⟩ := hwrite.exists_writeLocal
      have hkey : item.key = given.key := by
        rw [Store.written_of_writeLocal hwrite]
        rfl
      have hne : given.key ≠ k := hkey ▸ hlocal item (List.mem_append_right _ List.mem_cons_self)
      rw [write, Store.writeLocal_eq_ok hwrite]
      exact hdrawn.keep_of_ne hne _
  | @applied source items etag cv store happly =>
      exact (hdrawn.mono (List.mem_append_left items)).applyBatch hline.inLineAt
        (fun item hitem _ => List.mem_append_right _ hitem) happly

/-- Without local writes, what a store has under a key is a version that was delivered, if the
versions that were stand in a line. -/
theorem drawnAt_after {databaseId : String} {actions : List StoreAction}
    (hline : (after databaseId actions).Lined k)
    (hlocal : ∀ v ∈ (after databaseId actions).written, v.key ≠ k) :
    (after databaseId actions).store.DrawnAt k (· ∈ (after databaseId actions).delivered) := by
  revert hline hlocal
  refine after_induction (P := fun c => c.Lined k → (∀ v ∈ c.written, v.key ≠ k) →
    c.store.DrawnAt k (· ∈ c.delivered)) ?_ ?_ actions
  · intro _ _ item hitem
    cases hitem
  · intro c c' ih hacted hline hlocal
    have hbefore : ∀ v ∈ c.written, v.key ≠ k := fun v hv => hlocal v (hacted.written_subset hv)
    exact hacted.drawnAt hline hlocal (ih (hline.of_acted hacted) hbefore)

/-- So it ends with the newest of them, in whatever order they came. -/
theorem exists_newest {databaseId : String} {actions : List StoreAction}
    (hline : (after databaseId actions).Lined k)
    (hlocal : ∀ v ∈ (after databaseId actions).written, v.key ≠ k)
    (hv : v ∈ (after databaseId actions).delivered) (hk : v.key = k) :
    ∃ newest own, (after databaseId actions).Newest k newest ∧
      (after databaseId actions).store.items.get? k = some own ∧ own.SameVersion newest := by
  subst hk
  obtain ⟨-, own, hown, -⟩ := Knows.hasSeen (.inl hv)
  obtain ⟨newest, hdelivered, hkey, hsame⟩ := drawnAt_after hline hlocal hown
  refine ⟨newest, own, ⟨hdelivered, hkey, fun {w} hw hwk => ?_⟩, hown, hsame⟩
  -- What is there has seen every version that was delivered, so none of them is newer.
  obtain ⟨-, own', hown', hdom⟩ := Knows.hasSeen (.inl hw)
  rw [hwk, hown] at hown'
  cases hown'
  have hahead := ChangeVector.dominates_trans hsame.dominated hdom
  rcases hline hdelivered hw hkey hwk with heq | hnewer | holder
  · exact .inl heq
  · exact .inr hnewer
  · rw [(ChangeVector.compare_eq_older_iff.1 holder).1] at hahead
    cases hahead

/-! ### Redelivery -/

/-- Whatever happened to a store since, redelivery is harmless and the order of delivery did not
matter. -/
structure Unharmed (c c' : Chronicle) : Prop where
  /-- What was delivered or written is dominated by what there is under its key. -/
  dominated : ∀ {v}, c.Knows v → ∃ own, c'.store.items.get? v.key = some own ∧
    own.changeVector.dominates v.changeVector = true
  /-- A batch of what was delivered or written changes nothing but the etag of its source, and that
  never goes back. -/
  redelivered : ∀ (source : String) (items : List Item) (etag : Nat),
    (∀ item ∈ items, ∃ v, c.Knows v ∧ item.SameVersion v) →
    ∃ replicatedFrom, c'.store.applyBatch source items etag =
        .ok (c'.store.changeVector, { c'.store with replicatedFrom }) ∧
      ∀ d, ({ c'.store with replicatedFrom } : Store).lastReplicatedEtag d =
        if d = source then max (c'.store.lastReplicatedEtag source) etag
        else c'.store.lastReplicatedEtag d
  /-- Where no version was written here and those that were delivered stand in a line, there is the
  newest of them. -/
  settled : ∀ {k}, c'.Lined k → (∀ w ∈ c'.written, w.key ≠ k) →
    ∀ {v}, v ∈ c'.delivered → v.key = k →
      ∃ newest own, c'.Newest k newest ∧ c'.store.items.get? k = some own ∧ own.SameVersion newest

/-- **Redelivery is harmless.**  What a store was given or wrote is dominated by what it has at any
later time, so giving it again, in any batches, changes nothing but the etag of the source.  And
where the versions that were delivered under a key stand in a line, the store has the newest of
them, in whatever batches and order they came, and however often. -/
theorem unharmed_after (databaseId : String) (actions later : List StoreAction) :
    Unharmed (after databaseId actions) (after databaseId (actions ++ later)) := by
  have hknown : ∀ {v}, (after databaseId actions).Knows v → Text.isBlankText v.id = false ∧
      (after databaseId (actions ++ later)).store.HasSeen v :=
    fun hv => (hv.after_append later).hasSeen
  constructor
  case dominated => exact fun hv => (hknown hv).2
  case redelivered =>
    intro source items etag hitems
    refine ⟨_, Store.applyBatch_of_seen (fun item hitem => ?_) (fun item hitem => ?_) source etag,
      fun d => Store.lastReplicatedEtag_accept _ source d etag⟩
    · obtain ⟨v, hv, hsame⟩ := hitems item hitem
      rw [hsame.id_eq]
      exact (hknown hv).1
    · obtain ⟨v, hv, hsame⟩ := hitems item hitem
      exact (hknown hv).2.of_sameVersion hsame
  case settled => exact fun hline hlocal _ hv hk => exists_newest hline hlocal hv hk

end Chronicle

end HubReplication
