/-
**One cursor for many paths.**

The target keeps one cursor for a source, and every link moves it past what its own paths leave out.
So an item is lost to the target when every batch that covered its etag was built for paths that
leave it out: a link with wider paths starts behind it and never goes back.  When a link has nothing
left to send, the target has all that the paths of the link allow exactly if one of the batches that
covered each such item was built for paths that allow it.  Whatever is written and whichever links
are made, that is so exactly if all paths that are ever sent for allow the same ids.

Main definitions:

* `Exchange.Drained` — a link has nothing left to send;
* `Exchange.HoldsAll` — the target has the version of every item of the source that paths allow.

Main results:

* `Exchange.sameVersion_iff_shipped` — which items the target has, told by the ledger;
* `Exchange.cursor_safe_iff` — for which paths one cursor is enough.
-/

import HubReplication.Proofs.Exchange.Progress
import HubReplication.Proofs.Exchange.Versions
import HubReplication.Proofs.Frame.Size

set_option relaxedAutoImplicit false
set_option autoImplicit false

namespace HubReplication.Exchange

/-- A session has nothing left to send: nothing is on its link or waits for an acknowledgement, and
no item of the source stands above its cursor. -/
structure Drained (e : Exchange) (link : Link) (s : Session) : Prop where
  near_eq : link.near = some s
  inFlight_eq : s.inFlight = none
  writing_eq : s.writing = none
  out_eq : link.out = []
  back_eq : link.back = []
  etag_le : ∀ {k item}, e.source.items.get? k = some item → item.etag ≤ s.cursor

/-- The target has the version of every item of the source that some paths allow. -/
def HoldsAll (e : Exchange) (paths : TextSet) : Prop :=
  ∀ k item, e.source.items.get? k = some item → PathFilter.allows paths item.id = true →
    ∃ own, e.target.items.get? item.key = some own ∧ own.SameVersion item

/-- Steps that send for given paths only, and in which nobody but the source gives anything to the
target. -/
def OneSourceFor (used : TextSet → Prop) (e : Exchange) (a : Action) : Prop :=
  Ships used e a ∧ OneSource e a

section Ledger

variable {used : TextSet → Prop} {source target : String} {e : Exchange}

/-- The target has a version of the source exactly if a batch that covered it was built for paths
that allow it. -/
theorem sameVersion_iff_shipped
    (h : Reached (start source target) (OneSourceFor used) e) {k : ItemKey} {item : Item}
    (hget : e.source.items.get? k = some item) :
    (∃ own, e.target.items.get? item.key = some own ∧ own.SameVersion item) ↔
      ∃ r ∈ e.shipments, r.Covers item.etag ∧ PathFilter.allows r.paths item.id = true := by
  have hsound := sound_of_reached (h.mono fun _ _ ha => ha.1)
  obtain ⟨past, htraced⟩ := traced_of_reached h
  have hversion := fun hseen => Store.sameVersion_of_hasSeen htraced.recorded
    hsound.source_wellIndexed htraced.drawn (fun hv => hv.1) hget hseen
  constructor
  · rintro ⟨own, hown, hsame⟩
    exact (hversion ⟨own, hown, hsame.dominates⟩).1.2
  · rintro ⟨r, hr, hcovers, hpath⟩
    exact (hversion (hsound.delivered hr hget hcovers hpath)).2

/-- When a link has nothing left to send, the ledger covers every item of the source. -/
theorem covered_of_drained (hsound : e.Sound used) {link : Link} {s : Session}
    (hlink : link ∈ e.links) (hdrained : e.Drained link s) {k : ItemKey} {item : Item}
    (hget : e.source.items.get? k = some item) : ∃ r ∈ e.shipments, r.Covers item.etag := by
  refine hsound.covered (hsound.source_wellIndexed.etag_pos hget) ?_
  exact Nat.le_trans (hdrained.etag_le hget) ((hsound.links hlink).near_cursor hdrained.near_eq)

end Ledger

/-! ### A link that leaves an item behind -/

theorem room_empty_batch : (Frame.batch ⟨[], 1⟩).toJson.room ≤ Wire.maxBytes := by
  decide +kernel

/-- The first link is cut, and a new one is made that sends for some paths. -/
def relink (e : Exchange) (paths : TextSet) : Exchange :=
  (e.step (.cut 0)).step (.connect (sends paths 0 1) takes 0)

/-- The new link starts where the target says that it stands. -/
theorem relink_eq (e : Exchange) (paths : TextSet) :
    (e.relink paths).source = e.source ∧ (e.relink paths).target = e.target ∧
      ∃ link s, link ∈ (e.relink paths).links ∧
        s.terms.outbound = some ⟨e.reached, paths, 0⟩ ∧
        ((∀ {k item}, e.source.items.get? k = some item → item.etag ≤ e.reached) →
          (e.relink paths).Drained link s) := by
  let s := fresh e.source e.target (sends paths 0 1)
  let link : Link := ⟨some s, some (fresh e.target e.source takes), [], []⟩
  have hlinks : (e.relink paths).links = e.links.set 0 .dead ++ [link] := rfl
  refine ⟨rfl, rfl, link, s, ?_, rfl, fun hle => ⟨rfl, rfl, rfl, rfl, rfl, hle⟩⟩
  rw [hlinks]
  exact List.mem_append_right _ List.mem_cons_self

/-- A document is handed over by a link whose paths leave it out, and the link is replaced by one
with other paths. -/
def relinked (id : String) (first second : TextSet) : Exchange :=
  (noteHandedOver "x" "r" id first).relink second

variable {id : String} {first second : TextSet}

theorem reached_relinked {used : TextSet → Prop} (hfirst : used first) (hsecond : used second) :
    Reached (start "x" "r") (OneSourceFor used) (relinked id first second) := by
  have hconnect : ∀ {e : Exchange} {paths : TextSet}, used paths →
      OneSourceFor used e (.connect (sends paths 0 1) takes 0) := by
    refine fun hpaths => ⟨?_, trivial⟩
    rintro _ ⟨⟩
    exact hpaths
  have hwrite : Reached (start "x" "r") (OneSourceFor used) _ :=
    Reached.start.step (.write (note id)) ⟨trivial, trivial⟩
  have hover : Reached (start "x" "r") (OneSourceFor used) (noteHandedOver "x" "r" id first) :=
    hwrite.handOver (hconnect hfirst) (fun _ _ _ => ⟨trivial, trivial⟩)
      fun _ _ _ => ⟨trivial, trivial⟩
  have hcut := hover.step (.cut 0) ⟨trivial, trivial⟩
  exact hcut.step (.connect (sends second 0 1) takes 0) (hconnect hsecond)

/-- The first link moves the cursor past the document, and the target never gets it. -/
theorem noteHandedOver_of_not_allowed (hid : Text.isBlankText id = false)
    (hfirst : PathFilter.allows first id = false) :
    (noteHandedOver "x" "r" id first).source = written (.empty "x") (note id) ∧
      (noteHandedOver "x" "r" id first).reached = 1 ∧
      ∀ k, (noteHandedOver "x" "r" id first).target.items.get? k = none := by
  have hnone : notesFor "x" id first = [] := by simp [notesFor, hfirst]
  obtain ⟨bytes, hwrite⟩ := Frame.exists_write_off_of_room room_empty_batch
  obtain ⟨hsource, hreached, cv, happly⟩ := noteHandedOver_eq "r" hid (hnone.symm ▸ hwrite)
  refine ⟨hsource, hreached, fun k => ?_⟩
  rw [Store.items_applyBatch happly, hnone]
  rfl

/-! ### For which paths one cursor is enough -/

/-- One cursor is enough exactly for paths that allow the same ids.  As long as they do, the target
has all that the paths of a drained link allow, whatever is written and whichever links are made,
one after another or at the same time.  As soon as some of them leave out an id that others allow, a
run loses an item of that id. -/
theorem cursor_safe_iff (used : TextSet → Prop) :
    (∀ source target e, Reached (start source target) (OneSourceFor used) e →
      ∀ link s plan, link ∈ e.links → e.Drained link s → s.terms.outbound = some plan →
        e.HoldsAll plan.allowedPaths) ↔
      ∀ first second, used first → used second → ∀ id, Text.isBlankText id = false →
        PathFilter.allows second id = true → PathFilter.allows first id = true := by
  constructor
  · -- Paths that leave an id out move the cursor past it, before paths that allow it are used.
    intro hsafe first second hfirst hsecond id hid hallowed
    cases hleft : PathFilter.allows first id with
    | true => rfl
    | false =>
        obtain ⟨hsource, hreached, htarget⟩ := noteHandedOver_of_not_allowed hid hleft
        obtain ⟨hsource', htarget', link, s, hlink, hplan, hdrained⟩ :=
          relink_eq (noteHandedOver "x" "r" id first) second
        have hget : ∀ k, (noteHandedOver "x" "r" id first).source.items.get? k =
            if k = (note id).key then some (firstNote "x" id) else none := by
          rw [hsource]
          exact get?_written_note hid
        have hdrained := hdrained fun {k item} hitem => by
          rw [hget] at hitem
          split at hitem
          · cases hitem
            exact Nat.le_of_eq hreached.symm
          · cases hitem
        have hholds := hsafe "x" "r" _ (reached_relinked hfirst hsecond) link s _ hlink hdrained
          hplan (note id).key (firstNote "x" id)
        rw [relinked, hsource', htarget', hget, if_pos rfl] at hholds
        obtain ⟨own, hown, -⟩ := hholds rfl hallowed
        rw [htarget] at hown
        cases hown
  · -- A drained link leaves everything covered, each by some batch whose paths allow as much.
    intro hsame source target e h link s plan hlink hdrained hplan k item hget hpath
    have hsound := sound_of_reached (h.mono fun _ _ ha => ha.1)
    obtain ⟨past, htraced⟩ := traced_of_reached h
    obtain ⟨r, hr, hcovers⟩ := covered_of_drained hsound hlink hdrained hget
    refine (sameVersion_iff_shipped h hget).2 ⟨r, hr, hcovers, ?_⟩
    exact hsame r.paths plan.allowedPaths (hsound.shipment_used hr)
      ((hsound.links hlink).near_paths hdrained.near_eq hplan) item.id
      (htraced.recorded.named (htraced.recorded.current hget)) hpath

/-- Paths that leave an id out and paths that allow it are too many for one cursor. -/
theorem cursor_not_safe_for_all :
    ¬ ∀ source target e, Reached (start source target) (OneSourceFor fun _ => True) e →
      ∀ link s plan, link ∈ e.links → e.Drained link s → s.terms.outbound = some plan →
        e.HoldsAll plan.allowedPaths := by
  intro hsafe
  have hleft : PathFilter.allows (.ofTexts ["users/*"]) "orders/1" = false := by decide +kernel
  have hallowed := (cursor_safe_iff fun _ => True).1 hsafe (.ofTexts ["users/*"]) .empty trivial
    trivial "orders/1" (by decide +kernel) rfl
  rw [hleft] at hallowed
  cases hallowed

end HubReplication.Exchange
