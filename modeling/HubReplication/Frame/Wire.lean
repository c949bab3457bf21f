/-
**Frames on the wire.**

A frame is written as the length of its body in four bytes, one byte of flags, and the body: its
value as text, deflated where the first flag says so.  A stream that ends within the length ends
between two frames; one that ends later breaks off.

Main definitions:

* `FrameCompression` — which bodies are deflated;
* `BodyCodec.write` — the bytes of a frame;
* `BodyCodec.read`, `Received` — the next frame of a stream;
* `BodyCodec.readAll` — all frames of a stream;
* `Frame.write`, `Frame.read`, `Frame.readAll` — the same with stored bodies.

Main results:

* `Wire.lengthValue_lengthBytes`, `Wire.lengthBytes_lengthValue` — lengths and their four bytes
  determine each other;
* `BodyCodec.decode_encode` — a body decodes to what its text says, also where it was deflated;
* `BodyCodec.read_lengthBytes` — where a frame ends does not depend on what follows it.
-/

import HubReplication.Error
import HubReplication.Frame.Basic
import HubReplication.Frame.Codec
import HubReplication.Json.Parser
import HubReplication.Json.Printer

set_option relaxedAutoImplicit false
set_option autoImplicit false

namespace HubReplication

/-- Which bodies are deflated. -/
structure FrameCompression where
  enabled : Bool
  /-- Bodies of at least so many bytes. -/
  threshold : Nat
deriving DecidableEq

namespace FrameCompression

/-- No body is deflated. -/
def off : FrameCompression := ⟨false, UInt64.size - 1⟩

/-- Whether a body of a length is deflated. -/
def applies (c : FrameCompression) (length : Nat) : Bool := c.enabled && c.threshold ≤ length

end FrameCompression

namespace Wire

/-- The longest body, in bytes. -/
def maxBytes : Nat := 64 * 1024 * 1024

/-- A number in four bytes, the highest first. -/
def lengthBytes (n : Nat) : List UInt8 :=
  [UInt8.ofNat (n / 0x1000000), UInt8.ofNat (n / 0x10000), UInt8.ofNat (n / 0x100), UInt8.ofNat n]

/-- The number of four bytes. -/
def lengthValue (a b c d : UInt8) : Nat :=
  ((a.toNat * 256 + b.toNat) * 256 + c.toNat) * 256 + d.toNat

/-- The text of a frame as bytes. -/
def bodyBytes (f : Frame) : List UInt8 := f.toJson.compact.toUTF8.toList

/-- Whether flags say that the body is deflated. -/
def isDeflated (flags : UInt8) : Bool := flags &&& 1 != 0

theorem lengthValue_lengthBytes (n : Nat) (h : n < 0x100000000) :
    lengthValue (UInt8.ofNat (n / 0x1000000)) (UInt8.ofNat (n / 0x10000))
      (UInt8.ofNat (n / 0x100)) (UInt8.ofNat n) = n := by
  simp only [lengthValue, UInt8.toNat_ofNat']
  omega

/-- Four bytes are the bytes of their number. -/
theorem lengthBytes_lengthValue (a b c d : UInt8) :
    lengthBytes (lengthValue a b c d) = [a, b, c, d] := by
  have ha := a.toNat_lt
  have hb := b.toNat_lt
  have hc := c.toNat_lt
  have hd := d.toNat_lt
  have byte {n : Nat} {x : UInt8} (h : n % 256 = x.toNat) : UInt8.ofNat n = x := by
    apply UInt8.toNat_inj.1
    rw [UInt8.toNat_ofNat']
    exact h
  simp only [lengthBytes, lengthValue]
  rw [byte (x := a) (by omega), byte (x := b) (by omega), byte (x := c) (by omega),
    byte (x := d) (by omega)]

end Wire

/-- What comes next on a stream. -/
inductive Received where
  /-- A frame, and the bytes after it. -/
  | frame (frame : Frame) (rest : List UInt8)
  /-- A failure, and the bytes after it. -/
  | failed (error : ReplicationError) (rest : List UInt8)
  /-- The stream ended between two frames. -/
  | ended
  /-- The frame is not there yet. -/
  | pending

/-- The frame that a text is. -/
def Frame.ofText (text : ByteArray) : Outcome Frame :=
  match (Json.ofBytes? text.toList).bind Frame.ofJson? with
  | some f => .ok f
  | none => .error (.protocolMismatch "malformed frame: not a frame")

namespace BodyCodec

open Wire

/-- The flags and the body of a frame. -/
def encode (codec : BodyCodec) (f : Frame) (compression : FrameCompression) :
    UInt8 × List UInt8 :=
  let body := bodyBytes f
  if compression.applies body.length then (1, codec.deflate body) else (0, body)

/-- The bytes of a frame. -/
def write (codec : BodyCodec) (f : Frame) (compression : FrameCompression) :
    Outcome (List UInt8) :=
  match codec.encode f compression with
  | (flags, body) =>
    if maxBytes < body.length then
      .error (.protocolMismatch
        (f.name ++ " frame of " ++ toString body.length ++ " bytes exceeds the frame limit"))
    else .ok (lengthBytes body.length ++ flags :: body)

/-- The text of a body, inflated where the flags say so. -/
def bodyText (codec : BodyCodec) (flags : UInt8) (body : List UInt8) : Outcome ByteArray :=
  if isDeflated flags then
    match codec.inflate maxBytes body with
    | .ok text => .ok text
    | .error .corrupt =>
      .error (.protocolMismatch "bad compressed frame: corrupt deflate stream")
    | .error .tooLong => .error (.protocolMismatch "decompressed frame too large")
  else .ok ⟨body.toArray⟩

/-- The frame of a body. -/
def decode (codec : BodyCodec) (flags : UInt8) (body : List UInt8) : Outcome Frame :=
  match codec.bodyText flags body with
  | .error e => .error e
  | .ok text => Frame.ofText text

/-- Read a body of a length, after its flags. -/
def readBody (codec : BodyCodec) (length : Nat) (flags : UInt8) (bytes : List UInt8)
    (closed : Bool) : Received :=
  let body := bytes.take length
  if body.length = length then
    match codec.decode flags body with
    | .ok f => .frame f (bytes.drop length)
    | .error e => .failed e (bytes.drop length)
  else if closed then .failed (.transient "early eof") []
  else .pending

/-- Read what comes next on a stream of which the bytes are there, and which may be closed after
them. -/
def read (codec : BodyCodec) (bytes : List UInt8) (closed : Bool) : Received :=
  match bytes with
  | a :: b :: c :: d :: rest =>
    let length := lengthValue a b c d
    if maxBytes < length then
      .failed (.protocolMismatch
        ("frame of " ++ toString length ++ " bytes exceeds the frame limit")) rest
    else
      match rest with
      | flags :: rest => codec.readBody length flags rest closed
      | [] => if closed then .failed (.transient "unexpected end of file") [] else .pending
  | _ => if closed then .ended else .pending

/-- The frames of a stream that is closed after its bytes, at most so many, and what comes after
them. -/
def takeFrames (codec : BodyCodec) : Nat → List UInt8 → List Frame × Received
  | 0, _ => ([], .pending)
  | fuel + 1, bytes =>
    match codec.read bytes true with
    | .frame f rest =>
      match codec.takeFrames fuel rest with
      | (frames, last) => (f :: frames, last)
    | last => ([], last)

/-- The frames of a stream that is closed after its bytes, and how it ends. -/
def readAll (codec : BodyCodec) (bytes : List UInt8) : List Frame × Received :=
  codec.takeFrames (bytes.length + 1) bytes

/-- What is left of some bytes when whole frames are taken off, at most so many. -/
def skipFrames (codec : BodyCodec) : Nat → List UInt8 → List UInt8
  | 0, bytes => bytes
  | fuel + 1, bytes =>
    match codec.read bytes false with
    | .frame _ rest => codec.skipFrames fuel rest
    | _ => bytes

/-- A body decodes to what its text says, also where it was deflated. -/
theorem decode_encode {codec : BodyCodec} (lawful : codec.Lawful) (f : Frame)
    (compression : FrameCompression) (h : (bodyBytes f).length ≤ maxBytes) :
    codec.decode (codec.encode f compression).1 (codec.encode f compression).2 =
      Frame.ofText ⟨(bodyBytes f).toArray⟩ := by
  cases applied : compression.applies (bodyBytes f).length with
  | true =>
    simp only [encode, applied, if_true, decode, bodyText, show isDeflated 1 = true from rfl,
      lawful maxBytes, Nat.not_lt.2 h, if_false]
  | false =>
    simp only [encode, applied, Bool.false_eq_true, if_false, decode, bodyText,
      show isDeflated 0 = false from rfl]

/-- A body of the length that stands before it is read as a whole, and what follows it is left. -/
theorem read_lengthBytes (codec : BodyCodec) {body : List UInt8} (h : body.length ≤ maxBytes)
    (flags : UInt8) (rest : List UInt8) (closed : Bool) :
    codec.read (lengthBytes body.length ++ flags :: (body ++ rest)) closed =
      match codec.decode flags body with
      | .ok f => .frame f rest
      | .error e => .failed e rest := by
  have hlt : body.length < 0x100000000 := Nat.lt_of_le_of_lt h (by decide)
  simp only [lengthBytes, List.cons_append, List.nil_append, read,
    lengthValue_lengthBytes _ hlt, Nat.not_lt.2 h, if_false, readBody, List.take_left,
    List.drop_left, if_true]

end BodyCodec

namespace Frame

/-- The bytes of a frame, its body stored where it is to be deflated. -/
def write (f : Frame) (compression : FrameCompression) : Outcome (List UInt8) :=
  BodyCodec.stored.write f compression

/-- Read what comes next on a stream of which the bytes are there, and which may be closed after
them. -/
def read (bytes : List UInt8) (closed : Bool) : Received := BodyCodec.stored.read bytes closed

/-- The frames of a stream that is closed after its bytes, and how it ends. -/
def readAll (bytes : List UInt8) : List Frame × Received := BodyCodec.stored.readAll bytes

/-- What is left of some bytes when every whole frame is taken off. -/
def skipAll (bytes : List UInt8) : List UInt8 :=
  BodyCodec.stored.skipFrames (bytes.length + 1) bytes

end Frame

end HubReplication
