/-
**A stream of frames.**

Frames are written one after the other, each with a compression of its own, and read again from the
bytes.  Where a frame ends does not depend on what follows it, so a reader that starts between two
frames stays between two frames.  A stream that is cut off ends in the middle of one frame: all
frames before it are read, and of that one no more than the failure that tells how far it came.

Main definitions:

* `BodyCodec.writeAll` — the bytes of frames written one after the other;
* `Received.cutAfter` — what is read of a frame that was cut off.

Main results:

* `BodyCodec.read_write` — a frame that was written is read, and what follows it is left;
* `BodyCodec.read_take` — a frame that was cut off is not read;
* `BodyCodec.readAll_writeAll` — what is read of a stream, whole or cut off anywhere.
-/

import HubReplication.Proofs.Frame.Size
import HubReplication.Proofs.Frame.Text

set_option relaxedAutoImplicit false
set_option autoImplicit false

namespace HubReplication

/-- What is read of a frame of which only so many bytes came before the stream was closed. -/
def Received.cutAfter (n : Nat) : Received :=
  if n < 4 then .ended
  else if n = 4 then .failed (.transient "unexpected end of file") []
  else .failed (.transient "early eof") []

/-- A frame that was cut off is the end of the stream, or a failure that may pass. -/
theorem Received.cutAfter_cases (n : Nat) :
    cutAfter n = .ended ∨ ∃ e, e.kind = .transient ∧ cutAfter n = .failed e [] := by
  unfold cutAfter
  split
  · exact .inl rfl
  · split
    · exact .inr ⟨_, rfl, rfl⟩
    · exact .inr ⟨_, rfl, rfl⟩

namespace BodyCodec

open Wire

/-- The bytes of frames written one after the other, each with a compression of its own. -/
def writeAll (codec : BodyCodec) : List (Frame × FrameCompression) → Outcome (List UInt8)
  | [] => .ok []
  | (f, compression) :: rest => do
    let first ← codec.write f compression
    let later ← codec.writeAll rest
    return first ++ later

variable {codec : BodyCodec} {f : Frame} {compression : FrameCompression} {bytes : List UInt8}

/-! ### One frame -/

/-- A frame that is written comes as its length, its flags and its body. -/
theorem write_eq_ok (h : codec.write f compression = .ok bytes) :
    (codec.encode f compression).2.length ≤ maxBytes ∧
      bytes = lengthBytes (codec.encode f compression).2.length ++
        (codec.encode f compression).1 :: (codec.encode f compression).2 := by
  simp only [write] at h
  split at h
  · cases h
  · rename_i hfits
    cases h
    exact ⟨Nat.not_lt.1 hfits, rfl⟩

theorem length_of_write (h : codec.write f compression = .ok bytes) : 5 ≤ bytes.length := by
  obtain ⟨-, rfl⟩ := write_eq_ok h
  simp only [lengthBytes, List.length_append, List.length_cons, List.length_nil]
  omega

/-- A frame that was written is read, and what follows it is left. -/
theorem read_write (lawful : codec.Lawful) (hback : f.ReadsBack)
    (hfits : (bodyBytes f).length ≤ maxBytes) (h : codec.write f compression = .ok bytes)
    (rest : List UInt8) (closed : Bool) : codec.read (bytes ++ rest) closed = .frame f rest := by
  obtain ⟨hbody, rfl⟩ := write_eq_ok h
  rw [List.append_assoc, List.cons_append, read_lengthBytes codec hbody,
    decode_encode lawful f compression hfits, hback]

/-- A frame that was cut off is not read: a reader waits for the rest of it, or fails once there can
be none. -/
theorem read_take (h : codec.write f compression = .ok bytes) {n : Nat} (hn : n < bytes.length)
    (closed : Bool) :
    codec.read (bytes.take n) closed = if closed then .cutAfter n else .pending := by
  obtain ⟨hbody, rfl⟩ := write_eq_ok h
  have hlt : (codec.encode f compression).2.length < 0x100000000 :=
    Nat.lt_of_le_of_lt hbody (by decide)
  match n with
  | 0 | 1 | 2 | 3 => cases closed <;> rfl
  | 4 =>
      simp only [lengthBytes, List.cons_append, List.nil_append, List.take_succ_cons,
        List.take_zero, read, lengthValue_lengthBytes _ hlt, Nat.not_lt.2 hbody, if_false]
      cases closed <;> rfl
  | n + 5 =>
      have hshort : n < (codec.encode f compression).2.length := by
        simpa [lengthBytes] using hn
      have hcut : ¬ ((codec.encode f compression).2.take n).length =
          (codec.encode f compression).2.length := by
        rw [List.length_take]
        omega
      have hagain : ((codec.encode f compression).2.take n).take
          (codec.encode f compression).2.length = (codec.encode f compression).2.take n :=
        List.take_of_length_le (by rw [List.length_take]; omega)
      simp only [lengthBytes, List.cons_append, List.nil_append, List.take_succ_cons, read,
        lengthValue_lengthBytes _ hlt, Nat.not_lt.2 hbody, if_false, readBody, hagain, hcut]
      cases closed <;> simp [Received.cutAfter]

/-- A frame that was cut off is not read. -/
theorem read_take_write (h : codec.write f compression = .ok bytes) {n : Nat}
    (hn : n < bytes.length) : codec.read (bytes.take n) true = .cutAfter n :=
  read_take h hn true

/-- What a frame or a failure leaves is the end of what was there, and a frame takes something. -/
theorem length_of_read {closed : Bool} {rest : List UInt8} :
    (∀ f, codec.read bytes closed = .frame f rest → rest.length < bytes.length) ∧
      ∀ e, codec.read bytes closed = .failed e rest → rest.length ≤ bytes.length := by
  unfold read
  split
  · rename_i a b c d tail
    simp only [List.length_cons]
    split
    · constructor <;> intro _ h <;> cases h
      omega
    · split
      · simp only [readBody, List.length_cons]
        split
        · split <;> constructor <;> intro _ h <;> cases h <;> rw [List.length_drop] <;> omega
        · cases closed <;> constructor <;> intro _ h <;> cases h
          exact Nat.zero_le _
      · cases closed <;> constructor <;> intro _ h <;> cases h
        exact Nat.zero_le _
  · cases closed <;> constructor <;> intro _ h <;> cases h

/-- On a stream that is closed there is nothing to wait for. -/
theorem read_ne_pending (codec : BodyCodec) (bytes : List UInt8) :
    codec.read bytes true ≠ .pending := by
  unfold read
  split
  · dsimp only
    split
    · exact nofun
    · split
      · unfold readBody
        dsimp only
        split
        · split <;> exact nofun
        · exact nofun
      · exact nofun
  · exact nofun

/-! ### All frames -/

theorem writeAll_cons_eq_ok {p : Frame × FrameCompression}
    {rest : List (Frame × FrameCompression)} :
    codec.writeAll (p :: rest) = .ok bytes ↔ ∃ first later, codec.write p.1 p.2 = .ok first ∧
      codec.writeAll rest = .ok later ∧ bytes = first ++ later := by
  simp only [writeAll]
  cases codec.write p.1 p.2 with
  | error e => simp [bind, Except.bind]
  | ok first =>
      cases codec.writeAll rest with
      | error e => simp [bind, Except.bind]
      | ok later => simp [bind, Except.bind, pure, Except.pure, eq_comm]

/-- Frames can be written one after the other exactly when each can be written. -/
theorem exists_writeAll_iff {said : List (Frame × FrameCompression)} :
    (∃ bytes, codec.writeAll said = .ok bytes) ↔
      ∀ p ∈ said, ∃ bytes, codec.write p.1 p.2 = .ok bytes := by
  induction said with
  | nil =>
      constructor
      · intro _ p hp
        cases hp
      · intro _
        exact ⟨[], rfl⟩
  | cons p rest ih =>
      rw [List.forall_mem_cons, ← ih]
      constructor
      · intro h
        obtain ⟨bytes, h⟩ := h
        obtain ⟨first, later, hfirst, hlater, -⟩ := writeAll_cons_eq_ok.1 h
        exact ⟨⟨first, hfirst⟩, later, hlater⟩
      · intro h
        obtain ⟨⟨first, hfirst⟩, later, hlater⟩ := h
        exact ⟨first ++ later, writeAll_cons_eq_ok.2 ⟨first, later, hfirst, hlater, rfl⟩⟩

/-- With more steps than bytes every frame is read, and then the stream has ended. -/
theorem takeFrames_writeAll (lawful : codec.Lawful) {said : List (Frame × FrameCompression)}
    (hsaid : ∀ p ∈ said, p.1.ReadsBack ∧ (bodyBytes p.1).length ≤ maxBytes)
    (h : codec.writeAll said = .ok bytes) {fuel : Nat} (hfuel : bytes.length < fuel) :
    codec.takeFrames fuel bytes = (said.map Prod.fst, .ended) := by
  induction said generalizing bytes fuel with
  | nil =>
      cases h
      obtain ⟨fuel, rfl⟩ := Nat.exists_eq_add_of_lt hfuel
      rfl
  | cons p rest ih =>
      obtain ⟨first, later, hfirst, hlater, rfl⟩ := writeAll_cons_eq_ok.1 h
      obtain ⟨⟨hback, hfits⟩, hrest⟩ := List.forall_mem_cons.1 hsaid
      have hlength := length_of_write hfirst
      rw [List.length_append] at hfuel
      obtain ⟨fuel, rfl⟩ : ∃ n, fuel = n + 1 := ⟨fuel - 1, by omega⟩
      simp only [takeFrames, read_write lawful hback hfits hfirst,
        ih hrest hlater (by omega : later.length < fuel), List.map_cons]

/-- What is read of a stream that was cut off: the frames before the cut, and what came of the one
it goes through. -/
theorem takeFrames_take_writeAll (lawful : codec.Lawful) {said : List (Frame × FrameCompression)}
    (hsaid : ∀ p ∈ said, p.1.ReadsBack ∧ (bodyBytes p.1).length ≤ maxBytes)
    (h : codec.writeAll said = .ok bytes) {n fuel : Nat} (hn : n < bytes.length)
    (hfuel : n < fuel) :
    ∃ k whole next, k < said.length ∧ codec.writeAll (said.take k) = .ok whole ∧
      codec.writeAll (said.take (k + 1)) = .ok next ∧ whole.length ≤ n ∧ n < next.length ∧
      codec.takeFrames fuel (bytes.take n) =
        ((said.take k).map Prod.fst, .cutAfter (n - whole.length)) := by
  induction said generalizing bytes n fuel with
  | nil =>
      cases h
      cases hn
  | cons p rest ih =>
      obtain ⟨first, later, hfirst, hlater, rfl⟩ := writeAll_cons_eq_ok.1 h
      obtain ⟨⟨hback, hfits⟩, hrest⟩ := List.forall_mem_cons.1 hsaid
      have hlength := length_of_write hfirst
      obtain ⟨fuel, rfl⟩ : ∃ n, fuel = n + 1 := ⟨fuel - 1, by omega⟩
      by_cases hcut : n < first.length
      · refine ⟨0, [], first, Nat.zero_lt_succ _, rfl, ?_, Nat.zero_le n, hcut, ?_⟩
        · exact writeAll_cons_eq_ok.2 ⟨first, [], hfirst, rfl, (List.append_nil first).symm⟩
        · rw [List.take_append_of_le_length (Nat.le_of_lt hcut), takeFrames,
            read_take_write hfirst hcut]
          obtain hends | ⟨e, -, hfails⟩ := Received.cutAfter_cases n
          · simp [hends]
          · simp [hfails]
      · rw [List.length_append] at hn
        obtain ⟨k, whole, next, hk, hwhole, hnext, hle, hlt, hread⟩ :=
          ih hrest hlater (by omega : n - first.length < later.length)
            (by omega : n - first.length < fuel)
        refine ⟨k + 1, first ++ whole, first ++ next, Nat.succ_lt_succ hk, ?_, ?_, ?_, ?_, ?_⟩
        · exact writeAll_cons_eq_ok.2 ⟨first, whole, hfirst, hwhole, rfl⟩
        · exact writeAll_cons_eq_ok.2 ⟨first, next, hfirst, hnext, rfl⟩
        · rw [List.length_append]
          omega
        · rw [List.length_append]
          omega
        · rw [List.take_append, List.take_of_length_le (Nat.not_lt.1 hcut), takeFrames,
            read_write lawful hback hfits hfirst]
          simp only [hread, List.take_succ_cons, List.map_cons, List.length_append,
            Nat.sub_add_eq]

/-- The frames that were written are read in order, and then the stream has ended; of a stream that
was cut off anywhere the frames before the cut are read, and nothing else. -/
theorem readAll_writeAll (lawful : codec.Lawful) {said : List (Frame × FrameCompression)}
    (hsaid : ∀ p ∈ said, p.1.ReadsBack ∧ (bodyBytes p.1).length ≤ maxBytes)
    (h : codec.writeAll said = .ok bytes) :
    codec.readAll bytes = (said.map Prod.fst, .ended) ∧
      ∀ n < bytes.length, ∃ k whole next, k < said.length ∧
        codec.writeAll (said.take k) = .ok whole ∧
        codec.writeAll (said.take (k + 1)) = .ok next ∧ whole.length ≤ n ∧ n < next.length ∧
        codec.readAll (bytes.take n) =
          ((said.take k).map Prod.fst, .cutAfter (n - whole.length)) := by
  refine ⟨takeFrames_writeAll lawful hsaid h (Nat.lt_succ_self _), fun n hn => ?_⟩
  have hlength : (bytes.take n).length = n := List.length_take_of_le (Nat.le_of_lt hn)
  rw [readAll, hlength]
  exact takeFrames_take_writeAll lawful hsaid h hn (Nat.lt_succ_self n)

/-- Three frames, each with a compression of its own, and what is read of them when the stream is
cut off anywhere. -/
theorem readAll_writeAll_farewell :
    let said : List (Frame × FrameCompression) :=
      [(.resume 7, .off), (.heartbeat, ⟨true, 1000⟩), (.close "done", ⟨true, 0⟩)]
    ∃ bytes, stored.writeAll said = .ok bytes ∧
      stored.readAll bytes = ([.resume 7, .heartbeat, .close "done"], .ended) ∧
      ∀ n < bytes.length, ∃ k < 3, ∃ whole : List UInt8, whole.length ≤ n ∧
        stored.readAll (bytes.take n) =
          ((said.take k).map Prod.fst, .cutAfter (n - whole.length)) := by
  intro said
  have hroom : ∀ p ∈ said, p.1.toJson.room ≤ Deflate.storedBound := by decide +kernel
  have hback : ∀ p ∈ said, p.1.ReadsBack := by
    simp only [said, List.forall_mem_cons]
    exact ⟨Frame.readsBack_resume (by decide), Frame.readsBack_heartbeat,
      Frame.readsBack_close "done", fun p hp => by cases hp⟩
  have hfits : ∀ p ∈ said, (bodyBytes p.1).length ≤ maxBytes := by
    intro p hp
    rw [length_bodyBytes]
    exact Nat.le_trans (Json.utf8ByteSize_compact_le _)
      (Nat.le_trans (hroom p hp) (by decide))
  obtain ⟨bytes, hbytes⟩ := exists_writeAll_iff.2 fun p hp =>
    Frame.exists_write_of_room (hroom p hp) p.2
  obtain ⟨hall, hcut⟩ := readAll_writeAll stored_lawful
    (fun p hp => ⟨hback p hp, hfits p hp⟩) hbytes
  refine ⟨bytes, hbytes, hall, fun n hn => ?_⟩
  obtain ⟨k, whole, -, hk, -, -, hle, -, hread⟩ := hcut n hn
  exact ⟨k, hk, whole, hle, hread⟩

end BodyCodec

end HubReplication
