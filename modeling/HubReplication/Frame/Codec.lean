/-
**How bodies are deflated.**

A body codec deflates the body of a frame and inflates it again, up to a limit on its length.  How
long a deflated body is, is its own choice.

Main definitions:

* `BodyCodec`, `BodyCodec.Lawful` — a codec, and that it inflates what it deflated;
* `BodyCodec.stored` — the codec that stores bodies, and reads whatever the deflate format allows.

Main results:

* `BodyCodec.stored_lawful` — storing is lawful.
-/

import HubReplication.Frame.Stored

set_option relaxedAutoImplicit false
set_option autoImplicit false

namespace HubReplication

/-- How bodies are deflated, and inflated up to a limit on their length. -/
structure BodyCodec where
  deflate : List UInt8 → List UInt8
  inflate : Nat → List UInt8 → Except Deflate.Fault ByteArray

namespace BodyCodec

/-- What was deflated inflates to itself, up to the limit. -/
def Lawful (codec : BodyCodec) : Prop :=
  ∀ (limit : Nat) (body : List UInt8), codec.inflate limit (codec.deflate body) =
    if limit < body.length then .error .tooLong else .ok ⟨body.toArray⟩

/-- The codec that stores bodies. -/
def stored : BodyCodec := ⟨Deflate.store, Deflate.inflate⟩

/-- Stored bodies inflate to themselves. -/
theorem stored_lawful : stored.Lawful := Deflate.inflate_store

end BodyCodec

end HubReplication
