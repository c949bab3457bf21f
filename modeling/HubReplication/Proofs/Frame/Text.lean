/-
**Frames read back from their text.**

A frame reads back where its text says that frame.  Its text is that of a value, so a frame reads
back where its value is read back as a value and then taken for the frame.  Closing, resuming, a
refusal and a heartbeat always do; an acknowledgement does exactly where its change vector does, and a batch
exactly where those of its items do, given that all else in them is legible.

Main definitions:

* `Frame.ReadsBack` — the text of a frame says that frame;
* `Item.Legible` — every part of an item but its change vector is read back.

Main results:

* `Frame.readsBack_iff` — reading back is taking the value for the frame;
* `Frame.readsBack_close`, `Frame.readsBack_rejected`, `Frame.readsBack_resume`,
  `Frame.readsBack_ack_iff`, `Frame.readsBack_batch_iff` — which frames read back.
-/

import HubReplication.Frame.Wire
import HubReplication.Proofs.ChangeVector.Text
import HubReplication.Proofs.Json.Text

set_option relaxedAutoImplicit false
set_option autoImplicit false

namespace HubReplication

open Json

theorem ChangeVector.ofJson?_toJson {cv : ChangeVector} :
    ChangeVector.ofJson? cv.toJson = some cv ↔ cv.ReadsBack := by
  rw [ChangeVector.ReadsBack, ChangeVector.toJson, ChangeVector.ofJson?]
  cases ChangeVector.parse cv.text with
  | error e => simp [Except.toOption]
  | ok other => simp [Except.toOption]

theorem Json.asWord_nat {n : Nat} (h : n < UInt64.size) : asWord (nat n) = some n := if_pos h

/-! ### Items -/

/-- Every part of an item but its change vector is read back. -/
structure Item.Legible (item : Item) : Prop where
  etag : item.etag < UInt64.size
  moment : Instant.parse? item.lastModified.text = some item.lastModified
  /-- The body is what a body is read as, and nests no deeper than its place in a batch allows. -/
  body : ∀ j ∈ item.body, j.Legible 124 ∧ j.isWhole = true ∧ j.canonical = j ∧ j ≠ .null

namespace Item

variable {item : Item}

theorem record?_toJson (item : Item) :
    item.toJson.record? fieldNames = some [some (.string item.id), some (.string item.kind.name),
      some (optString item.collection), some (nat item.etag), some item.changeVector.toJson,
      some (.string item.lastModified.text), some (.bool item.deleted),
      some (item.body.getD .null)] := rfl

theorem kindOfJson?_name (k : ItemKind) : kindOfJson? .direct (.string k.name) = some k := by
  cases k <;> rfl

theorem nullable_body (h : item.Legible) :
    nullable bodyOfJson? (some (item.body.getD .null)) = some item.body := by
  cases hbody : item.body with
  | none => rfl
  | some j =>
      obtain ⟨-, hwhole, hcanonical, hnull⟩ := h.body j hbody
      cases j with
      | null => exact absurd rfl hnull
      | _ => simp only [nullable, asOptional, bodyOfJson?, Option.getD_some, hwhole, hcanonical,
          if_true, Option.map_some]

/-- An item whose other parts are read back is taken for itself exactly where its vector is. -/
theorem ofJson?_toJson (h : item.Legible) :
    ofJson? .direct item.toJson = some item ↔ item.changeVector.ReadsBack := by
  have hcollection : nullable asText (some (optString item.collection)) = some item.collection := by
    cases item.collection <;> rfl
  have hmoment : instantOfJson? (.string item.lastModified.text) = some item.lastModified := by
    rw [instantOfJson?, asText, Option.bind_some, h.moment]
  rw [← ChangeVector.ofJson?_toJson]
  simp only [ofJson?, record?_toJson, required, defaulted, Option.bind_eq_bind, Option.bind_some,
    asText, asBool, kindOfJson?_name, hcollection, asWord_nat h.etag, hmoment, nullable_body h]
  cases ChangeVector.ofJson? item.changeVector.toJson with
  | none => simp
  | some cv =>
      cases item
      simp

theorem legible_toJson (h : item.Legible) : item.toJson.Legible 125 := by
  have hcollection : (optString item.collection).Legible 124 := by
    cases item.collection <;> trivial
  have hbody : (item.body.getD .null).Legible 124 := by
    cases hbody : item.body with
    | none => trivial
    | some j => exact (h.body j hbody).1
  exact ⟨by decide, trivial, trivial, hcollection, legible_nat h.etag, trivial, trivial, trivial,
    hbody, trivial⟩

theorem mapM_toJson {items : List Item} (h : ∀ item ∈ items, item.Legible) :
    (items.map (·.toJson)).mapM (ofJson? .direct) = some items ↔
      ∀ item ∈ items, item.changeVector.ReadsBack := by
  induction items with
  | nil => exact ⟨fun _ _ hitem => (List.not_mem_nil hitem).elim, fun _ => rfl⟩
  | cons item rest ih =>
      obtain ⟨hitem, hrest⟩ := List.forall_mem_cons.1 h
      rw [List.forall_mem_cons, ← ofJson?_toJson hitem, ← ih hrest, List.map_cons, List.mapM_cons]
      constructor
      · intro hread
        obtain ⟨first, hfirst, hread⟩ := Option.bind_eq_some_iff.1 hread
        obtain ⟨others, hothers, hread⟩ := Option.bind_eq_some_iff.1 hread
        cases hread
        exact ⟨hfirst, hothers⟩
      · rintro ⟨hfirst, hothers⟩
        rw [hfirst, hothers]
        rfl

end Item

/-! ### Frames -/

namespace Frame

/-- The text of a frame says that frame. -/
def ReadsBack (f : Frame) : Prop := ofText ⟨(Wire.bodyBytes f).toArray⟩ = .ok f

/-- A frame whose value is read back reads back where the value is taken for the frame. -/
theorem readsBack_iff {f : Frame} (h : f.toJson.Legible depthLimit) :
    f.ReadsBack ↔ ofJson? f.toJson = some f := by
  have htext : (⟨(Wire.bodyBytes f).toArray⟩ : ByteArray).toList = Wire.bodyBytes f :=
    Text.toList_eq _
  rw [ReadsBack, ofText, htext, Wire.bodyBytes, ofBytes?_compact h, Option.bind_some]
  cases ofJson? f.toJson with
  | none => simp
  | some g => simp

theorem adjacent?_toJson (f : Frame) :
    f.toJson.adjacent? "Type" "Body" = some (f.name, f.body?.map (.direct, ·)) := by
  cases f <;> rfl

theorem legible_toJson {f : Frame} (h : ∀ body ∈ f.body?, body.Legible 127) :
    f.toJson.Legible depthLimit := by
  rw [toJson]
  cases hbody : f.body? with
  | none => exact ⟨by decide, trivial, trivial⟩
  | some body => exact ⟨by decide, trivial, h body hbody, trivial⟩

theorem readsBack_heartbeat : heartbeat.ReadsBack :=
  (readsBack_iff (legible_toJson fun _ h => by cases h)).2 rfl

theorem readsBack_close (reason : String) : (close reason).ReadsBack := by
  refine (readsBack_iff (legible_toJson fun body h => ?_)).2 rfl
  obtain rfl := Option.some.inj h
  exact ⟨by decide, trivial, trivial⟩

/-- A refusal reads back, whatever it says. -/
theorem readsBack_rejected (reason : RejectionReason) (message : String) :
    (response (.rejected reason message)).ReadsBack := by
  refine (readsBack_iff (legible_toJson fun body h => ?_)).2 ?_
  · obtain rfl := Option.some.inj h
    exact ⟨by decide, trivial, trivial, trivial, trivial⟩
  · cases reason <;> rfl

theorem readsBack_resume {etag : Nat} (h : etag < UInt64.size) : (resume etag).ReadsBack := by
  have hfields : (Json.object [("last_etag", nat etag)]).fields? ["last_etag"] =
      some [some (nat etag)] := rfl
  refine (readsBack_iff (legible_toJson fun body h => ?_)).2 ?_
  · obtain rfl := Option.some.inj h
    exact ⟨by decide, legible_nat ‹_›, trivial⟩
  · simp only [ofJson?, adjacent?_toJson, name, body?, Option.map_some, Option.bind_eq_bind,
      Option.bind_some, single?, hfields, required, asWord_nat h]
    rfl

/-- An acknowledgement reads back exactly where its change vector does. -/
theorem readsBack_ack_iff {ack : Ack} (h : ack.lastEtag < UInt64.size) :
    (Frame.ack ack).ReadsBack ↔ ack.changeVector.ReadsBack := by
  have hlegible : (Frame.ack ack).toJson.Legible depthLimit := by
    refine legible_toJson fun body hbody => ?_
    obtain rfl := Option.some.inj hbody
    exact ⟨by decide, legible_nat h, trivial, trivial⟩
  have hfields : ack.toJson.record? ["LastEtag", "ChangeVector"] =
      some [some (nat ack.lastEtag), some ack.changeVector.toJson] := rfl
  rw [readsBack_iff hlegible, ← ChangeVector.ofJson?_toJson]
  simp only [ofJson?, adjacent?_toJson, name, body?, Option.map_some, Option.bind_eq_bind,
    Option.bind_some, Ack.ofJson?, hfields, required, asWord_nat h]
  cases ChangeVector.ofJson? ack.changeVector.toJson with
  | none => simp
  | some cv =>
      cases ack
      simp

/-- A batch whose items are legible otherwise reads back exactly where all their vectors do. -/
theorem readsBack_batch_iff {batch : Batch} (h : batch.lastEtag < UInt64.size)
    (hitems : ∀ item ∈ batch.items, item.Legible) :
    (Frame.batch batch).ReadsBack ↔ ∀ item ∈ batch.items, item.changeVector.ReadsBack := by
  have hlegible : (Frame.batch batch).toJson.Legible depthLimit := by
    refine legible_toJson fun body hbody => ?_
    obtain rfl := Option.some.inj hbody
    exact ⟨by decide, ⟨by decide, legibleElements_map fun item hitem =>
      Item.legible_toJson (hitems item hitem)⟩, legible_nat h, trivial⟩
  have hfields : batch.toJson.record? ["Items", "LastEtag"] =
      some [some (.array (batch.items.map (·.toJson))), some (nat batch.lastEtag)] := rfl
  rw [readsBack_iff hlegible, ← Item.mapM_toJson hitems]
  simp only [ofJson?, adjacent?_toJson, name, body?, Option.map_some, Option.bind_eq_bind,
    Option.bind_some, Batch.ofJson?, hfields, required, asListOf, asWord_nat h]
  cases (batch.items.map (·.toJson)).mapM (Item.ofJson? .direct) with
  | none => simp
  | some items =>
      cases batch
      simp

end Frame

end HubReplication
