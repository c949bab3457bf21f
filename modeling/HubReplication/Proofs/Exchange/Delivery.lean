/-
**No loss across cuts and resumes.**

As long as every link sends for the same paths, whatever the target says it reached, it has: links
may overlap, be cut with all that is on them, and resume where the target says; both stores may be
written to meanwhile, here and from elsewhere.  When nobody else writes to either store, the target
has the very versions of the source, and nothing besides.

Main definitions:

* `Exchange.SourceOnly` — steps in which only the source is written to, and only here;
* `Exchange.resumed` — a link resumes after two others were cut.

Main results:

* `Exchange.no_loss` — the target has what it says it reached.
-/

import HubReplication.Proofs.Exchange.Progress
import HubReplication.Proofs.Exchange.Versions
import HubReplication.Proofs.Frame.Size

set_option relaxedAutoImplicit false
set_option autoImplicit false

namespace HubReplication.Exchange

/-- Steps in which the source takes local writes only, and the target is only written to by the
sessions. -/
def SourceOnly : Action → Prop
  | .take _ _ _ | .writeFar _ | .takeFar _ _ _ => False
  | _ => True

theorem oneSource_of_sourceOnly {e : Exchange} {a : Action} (h : SourceOnly a) : e.OneSource a := by
  cases a with
  | take origin items etag => cases h
  | writeFar item => cases h
  | takeFar origin items etag => cases h
  | _ => exact trivial

variable {source target : String} {paths : TextSet} {e : Exchange}

/-- What the ledger covers for paths that allow it was seen. -/
theorem Sound.hasSeen_of_le_reached (h : e.Sound (· = paths)) {k : ItemKey} {item : Item}
    (hget : e.source.items.get? k = some item) (hle : item.etag ≤ e.reached)
    (hpath : PathFilter.allows paths item.id = true) : e.target.HasSeen item := by
  obtain ⟨r, hr, hcovers⟩ := h.covered (h.source_wellIndexed.etag_pos hget) hle
  exact h.delivered hr hget hcovers ((h.shipment_used hr).symm ▸ hpath)

/-- The target has what it says it reached.  When all links send for the same paths, and nobody but
the sessions gives the target anything under the id of the source, the target has seen every
version of the source up to the etag it reached that the paths allow.  If, besides, the source takes
local writes only and the target is written to by the sessions only, the target has these very
versions, and all it has are versions of items of the source that the paths allow, which the source
has seen. -/
theorem no_loss :
    (Reached (start source target) (Ships (· = paths)) e →
      ∀ k item, e.source.items.get? k = some item →
        item.etag ≤ e.target.lastReplicatedEtag e.source.databaseId →
        PathFilter.allows paths item.id = true →
        ∃ own, e.target.items.get? item.key = some own ∧
          own.changeVector.dominates item.changeVector = true) ∧
    (Reached (start source target) (fun e a => Ships (· = paths) e a ∧ SourceOnly a) e →
      (∀ k item, e.source.items.get? k = some item →
        item.etag ≤ e.target.lastReplicatedEtag e.source.databaseId →
        PathFilter.allows paths item.id = true →
        ∃ own, e.target.items.get? item.key = some own ∧ own.SameVersion item) ∧
      ∀ k own, e.target.items.get? k = some own →
        PathFilter.allows paths own.id = true ∧
          ∃ item, e.source.items.get? k = some item ∧
            item.changeVector.dominates own.changeVector = true) := by
  refine ⟨fun h k item hget hle hpath => ?_, fun h => ?_⟩
  · exact (sound_of_reached h).hasSeen_of_le_reached hget hle hpath
  · -- Without other writers what dominates a version of the source is that version.
    have hsound := sound_of_reached (h.mono fun _ _ ha => ha.1)
    obtain ⟨past, htraced⟩ := traced_of_reached
      (h.mono fun _ _ ha => ⟨ha.1, oneSource_of_sourceOnly ha.2⟩)
    refine ⟨fun k item hget hle hpath => ?_, fun k own hget => ?_⟩
    · have hseen := hsound.hasSeen_of_le_reached hget hle hpath
      exact (Store.sameVersion_of_hasSeen htraced.recorded hsound.source_wellIndexed htraced.drawn
        (fun hv => hv.1) hget hseen).2
    · obtain ⟨v, ⟨hv, r, hr, -, hpath⟩, rfl, hsame⟩ := htraced.drawn hget
      obtain ⟨item, hitem, hdom⟩ := htraced.recorded.latest hv
      refine ⟨?_, item, hitem, ChangeVector.dominates_trans hdom hsame.dominated⟩
      rw [hsame.id_eq, ← hsound.shipment_used hr]
      exact hpath

/-! ### A link that resumes -/

section Due

variable {delay size : Nat} {wall : Instant} {chosen : Selection}

/-- While a batch is on its way on a new link, the stores are as they were. -/
theorem offer_of_room
    (hselect : (⟨e.reached, paths, delay⟩ : OutboundPlan).select wall e.reached
      (e.source.changesAfter e.reached size) = some chosen)
    (hne : chosen.lastEtag ≠ e.reached)
    (hroom : (Frame.batch ⟨chosen.items, chosen.lastEtag⟩).toJson.room ≤ Wire.maxBytes) :
    (e.offer paths delay size wall).source = e.source ∧
      (e.offer paths delay size wall).reached = e.reached := by
  obtain ⟨bytes, hwrite⟩ := Frame.exists_write_off_of_room hroom
  obtain ⟨link, hoffer, -⟩ := exists_offer_eq hselect hne hwrite
  rw [hoffer]
  exact ⟨rfl, rfl⟩

/-- A new link hands over what is due, when it is small enough and no id in it is blank. -/
theorem handOver_of_room
    (hselect : (⟨e.reached, paths, delay⟩ : OutboundPlan).select wall e.reached
      (e.source.changesAfter e.reached size) = some chosen)
    (hne : chosen.lastEtag ≠ e.reached)
    (hroom : (Frame.batch ⟨chosen.items, chosen.lastEtag⟩).toJson.room ≤ Wire.maxBytes)
    (hnames : ∀ item ∈ chosen.items, Text.isBlankText item.id = false) :
    (e.handOver paths delay size wall).source = e.source ∧
      (e.handOver paths delay size wall).reached = max e.reached chosen.lastEtag := by
  obtain ⟨bytes, hwrite⟩ := Frame.exists_write_off_of_room hroom
  obtain ⟨cv, target, happly⟩ :=
    Store.exists_applyBatch_eq_ok e.target e.source.databaseId chosen.lastEtag hnames
  exact ⟨(handOver_eq hselect hne hwrite happly).1, reached_handOver hselect hne hwrite happly⟩

end Due

theorem step_cut (e : Exchange) (i : Nat) :
    (e.step (.cut i)).source = e.source ∧ (e.step (.cut i)).reached = e.reached := ⟨rfl, rfl⟩

theorem step_write (e : Exchange) (item : Item) :
    (e.step (.write item)).source = written e.source item ∧
      (e.step (.write item)).reached = e.reached := by
  refine ⟨rfl, ?_⟩
  have hid : (written e.source item).databaseId = e.source.databaseId :=
    (written_later e.source item).databaseId_eq
  simp only [reached, step, hid]

/-- The paths of the users. -/
def users : TextSet := .ofTexts ["users/*"]

/-- The store after documents are written one after another. -/
def notes (ids : List String) : Store := ids.foldl (fun s id => written s (note id)) (.empty "x")

/-- A document as it was written last. -/
def noteAt (id : String) (etag : Nat) : Item :=
  { note id with etag, changeVector := .single "x" etag }

/-- Three documents are written. -/
def drafted : Exchange :=
  (((start "x" "r").step (.write (note "users/1"))).step (.write (note "orders/1"))).step
    (.write (note "users/2"))

/-- A link for the users hands over the first of them. -/
def begun : Exchange := drafted.handOver users 0 1 default

/-- The link is cut before it is heard that the document came, which is written again. -/
def rewritten : Exchange := (begun.step (.cut 0)).step (.write (note "users/1"))

/-- A second link is cut with a batch on its way. -/
def interrupted : Exchange := (rewritten.offer users 0 1 default).step (.cut 1)

/-- A third link resumes. -/
def resumed : Exchange := interrupted.handOver users 0 3 default

theorem begun_eq :
    begun.source = notes ["users/1", "orders/1", "users/2"] ∧ begun.reached = 1 := by
  have hselect : (⟨drafted.reached, users, 0⟩ : OutboundPlan).select default drafted.reached
      (drafted.source.changesAfter drafted.reached 1) =
        some ⟨[noteAt "users/1" 1], 1, none⟩ := by rfl
  exact handOver_of_room hselect Nat.one_ne_zero (by decide +kernel) (by decide +kernel)

theorem rewritten_eq :
    rewritten.source = notes ["users/1", "orders/1", "users/2", "users/1"] ∧
      rewritten.reached = 1 := by
  obtain ⟨hsource, hreached⟩ := begun_eq
  rw [rewritten, (step_write _ _).1, (step_write _ _).2, (step_cut _ _).1, (step_cut _ _).2,
    hsource, hreached]
  exact ⟨rfl, rfl⟩

theorem interrupted_eq :
    interrupted.source = notes ["users/1", "orders/1", "users/2", "users/1"] ∧
      interrupted.reached = 1 := by
  obtain ⟨hsource, hreached⟩ := rewritten_eq
  have hselect : (⟨rewritten.reached, users, 0⟩ : OutboundPlan).select default rewritten.reached
      (rewritten.source.changesAfter rewritten.reached 1) = some ⟨[], 2, none⟩ := by
    rw [hreached, hsource]
    rfl
  obtain ⟨hsource', hreached'⟩ :=
    offer_of_room hselect (by rw [hreached]; decide) (by decide +kernel)
  rw [interrupted, (step_cut _ _).1, (step_cut _ _).2, hsource', hreached']
  exact ⟨hsource, hreached⟩

theorem resumed_eq :
    resumed.source = notes ["users/1", "orders/1", "users/2", "users/1"] ∧
      resumed.reached = 4 := by
  obtain ⟨hsource, hreached⟩ := interrupted_eq
  have hselect : (⟨interrupted.reached, users, 0⟩ : OutboundPlan).select default
      interrupted.reached (interrupted.source.changesAfter interrupted.reached 3) =
        some ⟨[noteAt "users/2" 3, noteAt "users/1" 4], 4, none⟩ := by
    rw [hreached, hsource]
    rfl
  obtain ⟨hsource', hreached'⟩ := handOver_of_room hselect (by rw [hreached]; decide)
    (by decide +kernel) (by decide +kernel)
  refine ⟨hsource'.trans hsource, hreached'.trans ?_⟩
  rw [hreached]
  rfl

theorem reached_resumed :
    Reached (start "x" "r") (fun e a => Ships (· = users) e a ∧ SourceOnly a) resumed := by
  let fits : Exchange → Action → Prop := fun e a => Ships (· = users) e a ∧ SourceOnly a
  have hconnect : ∀ e size, fits e (.connect (sends users 0 size) takes 0) := by
    refine fun e size => ⟨?_, trivial⟩
    rintro _ ⟨⟩
    rfl
  have hnear : ∀ e i m, fits e (.near i m) := fun _ _ _ => ⟨trivial, trivial⟩
  have hfar : ∀ e i m, fits e (.far i m) := fun _ _ _ => ⟨trivial, trivial⟩
  have hcut : ∀ e i, fits e (.cut i) := fun _ _ => ⟨trivial, trivial⟩
  have hwrite : ∀ e item, fits e (.write item) := fun _ _ => ⟨trivial, trivial⟩
  have hdrafted : Reached (start "x" "r") fits drafted :=
    ((Reached.start.step _ (hwrite _ _)).step _ (hwrite _ _)).step _ (hwrite _ _)
  have hbegun : Reached (start "x" "r") fits begun := hdrafted.handOver (hconnect _ _) hnear hfar
  have hinterrupted : Reached (start "x" "r") fits interrupted :=
    (((hbegun.step _ (hcut _ _)).step _ (hwrite _ _)).offer (hconnect _ _) hnear).step _ (hcut _ _)
  exact hinterrupted.handOver (hconnect _ _) hnear hfar

/-- What the source holds of the users, all of which the target reached. -/
theorem exists_users_resumed : ∀ id ∈ ["users/1", "users/2"], ∃ item,
    resumed.source.items.get? (note id).key = some item ∧ item.etag ≤ resumed.reached ∧
      PathFilter.allows users item.id = true := by
  obtain ⟨hsource, hreached⟩ := resumed_eq
  rw [hsource, hreached]
  intro id hid
  rcases List.mem_cons.1 hid with rfl | hid
  · exact ⟨noteAt "users/1" 4, rfl, by decide, by decide +kernel⟩
  · obtain rfl := List.mem_singleton.1 hid
    exact ⟨noteAt "users/2" 3, rfl, by decide, by decide +kernel⟩

/-- A link that resumed after two cuts, and a user that the target then writes itself. -/
theorem no_loss_resumed :
    resumed.reached = 4 ∧
      (∀ id ∈ ["users/1", "users/2"], ∃ item own,
        resumed.source.items.get? (note id).key = some item ∧
          resumed.target.items.get? item.key = some own ∧ own.SameVersion item) ∧
      (∀ k own, resumed.target.items.get? k = some own → own.id ≠ "orders/1") ∧
      ∀ id ∈ ["users/1", "users/2"], ∃ item own,
        resumed.source.items.get? (note id).key = some item ∧
          (written resumed.target (note "users/1")).items.get? item.key = some own ∧
          own.changeVector.dominates item.changeVector = true := by
  obtain ⟨hheld, hdrawn⟩ := no_loss.2 reached_resumed
  have hwritten : Reached (start "x" "r") (Ships (· = users))
      (resumed.step (.writeFar (note "users/1"))) :=
    (reached_resumed.mono fun _ _ h => h.1).step _ trivial
  refine ⟨resumed_eq.2, fun id hid => ?_, fun k own hown heq => ?_, fun id hid => ?_⟩
  · obtain ⟨item, hitem, hle, hpath⟩ := exists_users_resumed id hid
    obtain ⟨own, hown, hsame⟩ := hheld _ item hitem hle hpath
    exact ⟨item, own, hitem, hown, hsame⟩
  · have hpath : PathFilter.allows users "orders/1" = true := heq ▸ (hdrawn k own hown).1
    have hleft : PathFilter.allows users "orders/1" = false := by decide +kernel
    rw [hleft] at hpath
    cases hpath
  · obtain ⟨item, hitem, hle, hpath⟩ := exists_users_resumed id hid
    rw [reached, ← lastReplicatedEtag_written resumed.target (note "users/1")] at hle
    obtain ⟨own, hown, hdom⟩ := no_loss.1 hwritten _ item hitem hle hpath
    exact ⟨item, own, hitem, hown, hdom⟩

end HubReplication.Exchange
