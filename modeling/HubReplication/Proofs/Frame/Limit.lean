/-
**The limit on the two sides of a wire.**

Whoever writes a frame holds its body against the limit as it goes on the wire, deflated or not.
Whoever reads it does so too, and holds it against the limit again when it is inflated.  So a frame
that was written is read where its text is within the limit, and only there: one whose text is
longer goes through if it deflates well enough, and the other side refuses it.

Main definitions:

* `BodyCodec.byHeart` — a codec that deflates one body to a single byte.

Main results:

* `BodyCodec.read_write_of_lt` — a frame that is too long when inflated is refused;
* `BodyCodec.read_write_iff` — which frames that were written are read.
-/

import HubReplication.Proofs.Frame.Stream

set_option relaxedAutoImplicit false
set_option autoImplicit false

namespace HubReplication

namespace BodyCodec

open Wire

variable {codec : BodyCodec} {f : Frame} {compression : FrameCompression} {bytes : List UInt8}

/-- What is too long for a body is written only where it is deflated. -/
theorem applies_of_write (h : codec.write f compression = .ok bytes)
    (hlong : maxBytes < (bodyBytes f).length) :
    compression.applies (bodyBytes f).length = true := by
  obtain ⟨hfits, -⟩ := write_eq_ok h
  cases happlies : compression.applies (bodyBytes f).length with
  | true => rfl
  | false =>
      simp only [encode, happlies, Bool.false_eq_true, if_false] at hfits
      omega

/-- A frame that is too long when it is inflated is refused. -/
theorem read_write_of_lt (lawful : codec.Lawful) (h : codec.write f compression = .ok bytes)
    (hlong : maxBytes < (bodyBytes f).length) (rest : List UInt8) (closed : Bool) :
    codec.read (bytes ++ rest) closed =
      .failed (.protocolMismatch "decompressed frame too large") rest := by
  have happlies := applies_of_write h hlong
  obtain ⟨hfits, rfl⟩ := write_eq_ok h
  have hdecode : codec.decode (codec.encode f compression).1 (codec.encode f compression).2 =
      .error (.protocolMismatch "decompressed frame too large") := by
    simp only [encode, happlies, if_true, decode, bodyText, show isDeflated 1 = true from rfl,
      lawful maxBytes, hlong]
  rw [List.append_assoc, List.cons_append, read_lengthBytes codec hfits, hdecode]

/-- A frame that was written is read exactly where its text is within the limit; any other one was
deflated, and is refused as no frame of this protocol. -/
theorem read_write_iff (lawful : codec.Lawful) (hback : f.ReadsBack)
    (h : codec.write f compression = .ok bytes) (rest : List UInt8) (closed : Bool) :
    (codec.read (bytes ++ rest) closed = .frame f rest ↔ (bodyBytes f).length ≤ maxBytes) ∧
      (maxBytes < (bodyBytes f).length →
        compression.applies (bodyBytes f).length = true ∧
          codec.read (bytes ++ rest) closed =
            .failed (.protocolMismatch "decompressed frame too large") rest) := by
  refine ⟨⟨fun hread => ?_, fun hfits => read_write lawful hback hfits h rest closed⟩,
    fun hlong => ⟨applies_of_write h hlong, read_write_of_lt lawful h hlong rest closed⟩⟩
  apply Nat.not_lt.1
  intro hlong
  rw [read_write_of_lt lawful h hlong] at hread
  cases hread

/-- The codec that knows one body by heart, which it deflates to a single byte; any other one it
puts behind a byte. -/
def byHeart (known : List UInt8) : BodyCodec where
  deflate body := if body = known then [0] else 1 :: body
  inflate limit bytes :=
    let text? := match bytes with
      | [0] => some known
      | 1 :: body => some body
      | _ => none
    match text? with
    | some text => if limit < text.length then .error .tooLong else .ok ⟨text.toArray⟩
    | none => .error .corrupt

theorem byHeart_lawful (known : List UInt8) : (byHeart known).Lawful := by
  intro limit body
  by_cases hbody : body = known
  · subst hbody
    simp [byHeart]
  · simp [byHeart, hbody]

/-- A document with a very long id. -/
def longItem : Item :=
  ⟨String.ofList (List.replicate maxBytes 'a'), .document, some "Users", 1,
    .single "catalog@H" 1, ⟨1704067200, 0⟩, false, none⟩

/-- A batch of it. -/
def longBatch : Frame := .batch ⟨[longItem], 1⟩

theorem readsBack_longBatch : longBatch.ReadsBack := by
  have hlegible : ∀ item ∈ [longItem], item.Legible := by
    intro item hitem
    rw [List.mem_singleton.1 hitem]
    refine ⟨by decide, ?_, fun j hj => by cases hj⟩
    change Instant.parse? (Instant.text ⟨1704067200, 0⟩) = some ⟨1704067200, 0⟩
    decide +kernel
  refine (Frame.readsBack_batch_iff (by decide) hlegible).2 fun item hitem => ?_
  rw [List.mem_singleton.1 hitem]
  change ChangeVector.parse (ChangeVector.single "catalog@H" 1).text = _
  decide +kernel

theorem length_longBatch : maxBytes < (bodyBytes longBatch).length := by
  have hid : maxBytes ≤ longItem.id.utf8ByteSize :=
    Nat.le_of_eq (Json.utf8ByteSize_replicate (by decide) maxBytes).symm
  rw [length_bodyBytes]
  exact Nat.lt_of_le_of_lt hid (Frame.utf8ByteSize_id_lt (List.mem_singleton_self longItem))

/-- A batch that is too long is written where it deflates well, and refused. -/
theorem not_read_longBatch :
    ∃ bytes, (byHeart (bodyBytes longBatch)).write longBatch ⟨true, 0⟩ = .ok bytes ∧
      ∀ closed, (byHeart (bodyBytes longBatch)).read bytes closed ≠ .frame longBatch [] ∧
        (byHeart (bodyBytes longBatch)).read bytes closed =
          .failed (.protocolMismatch "decompressed frame too large") [] := by
  have hencode : (byHeart (bodyBytes longBatch)).encode longBatch ⟨true, 0⟩ = (1, [0]) := by
    simp [encode, FrameCompression.applies, byHeart]
  have hwrite : (byHeart (bodyBytes longBatch)).write longBatch ⟨true, 0⟩ =
      .ok (lengthBytes 1 ++ [1, 0]) := by
    rw [write, hencode]
    rfl
  refine ⟨_, hwrite, fun closed => ?_⟩
  obtain ⟨hread, hrefused⟩ := read_write_iff (byHeart_lawful _) readsBack_longBatch hwrite [] closed
  rw [List.append_nil] at hread hrefused
  exact ⟨fun h => absurd (hread.1 h) (Nat.not_le.2 length_longBatch),
    (hrefused length_longBatch).2⟩

end BodyCodec

end HubReplication
