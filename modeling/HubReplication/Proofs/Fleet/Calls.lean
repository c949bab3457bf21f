/-
**Calls in a fleet.**

In a fleet the sides of a connection are processes of their own, and what they say to each other
goes over a line byte by byte.  As long as the frame that comes at an end of the line is the next
one that was said at the other end, a process there does in a step just what its side does in a turn
of the call.

Main definitions:

* `Received.InOrder` — what comes is what was said next;
* `Fleet.momentOf` — what surrounds a side of a connection in a fleet;
* `Fleet.Tells` — what an acceptor that takes part in a call has to deal with.

Main results:

* `Call.dialerTurn_eq`, `Call.acceptorTurn_eq` — a step of a process is a turn of the call.
-/

import HubReplication.Proofs.Connection.Call

set_option relaxedAutoImplicit false
set_option autoImplicit false

namespace HubReplication

/-! ### What comes -/

namespace Received

/-- A frame that comes is the next one that was said. -/
def InOrder (r : Received) (coming : List Frame) : Prop :=
  ∀ {frame : Frame} {rest : List UInt8}, r = .frame frame rest → coming.head? = some frame

/-- What comes, whatever comes after it. -/
def bare : Received → Received
  | .frame f _ => .frame f []
  | .failed e _ => .failed e []
  | .ended => .ended
  | .pending => .pending

/-- What comes, as an arrival. -/
def arrival : Received → Arrival
  | .frame _ _ => .frame
  | .failed e _ => .broken e
  | .ended => .ended
  | .pending => .nothing

theorem InOrder.received_arrival {r : Received} {coming : List Frame} (h : r.InOrder coming) :
    r.arrival.received coming = r.bare := by
  cases r with
  | frame f rest =>
      obtain ⟨tail, rfl⟩ := List.head?_eq_some_iff.1 (h rfl)
      rfl
  | failed | ended | pending => rfl

end Received

theorem Session.next?_bare (s : Session) (now : Nat) (cancelled : Bool) (announcements : Nat)
    (delivery : Delivery) (r : Received) :
    s.next? now cancelled announcements delivery r.bare =
      s.next? now cancelled announcements delivery r := by
  cases r <;> rfl

namespace Fleet

theorem response?_bare (f : Fleet) (endpoint : ConnectionEndpoint) (deadline : Nat) (r : Received) :
    f.response? endpoint deadline r.bare = f.response? endpoint deadline r := by
  cases r with
  | frame frame rest => cases frame <;> rfl
  | failed | ended | pending => rfl

theorem resume?_bare (f : Fleet) (deadline : Nat) (r : Received) :
    f.resume? deadline r.bare = f.resume? deadline r := by
  cases r with
  | frame frame rest => cases frame <;> rfl
  | failed | ended | pending => rfl

/-! ### What surrounds a side -/

/-- What surrounds a side of a connection. -/
def momentOf (f : Fleet) (cancelled : Bool) (line : LineEnd) (unsent : List UInt8)
    (side : LocalSide) : Moment where
  now := f.clock
  wall := f.wall
  cancelled := cancelled
  delivery := f.delivery line unsent
  arrival := (f.receive line).arrival
  site := side.site
  runtime := side.runtime
  reachable := side.reachable

/-- The session of a side has to deal with the same in the fleet and in the call. -/
theorem sessionEvent?_eq {f : Fleet} {line : LineEnd} {coming : List Frame}
    (horder : (f.receive line).InOrder coming) (s : Session) (cancelled : Bool) (store : Store)
    (unsent : List UInt8) :
    (f.sessionEvent? s cancelled store line unsent).map (·.1) =
      s.next? f.clock cancelled store.announcements (f.delivery line unsent)
        ((f.receive line).arrival.received coming) := by
  rw [horder.received_arrival, Session.next?_bare, sessionEvent?, Option.map_map]
  cases s.next? f.clock cancelled store.announcements (f.delivery line unsent)
    (f.receive line) with
  | none => rfl
  | some event => cases event <;> rfl

/-- What an acceptor has to deal with that takes part in a call: once it is ready it is registered,
and else what its line, its session and its time say. -/
inductive Tells (f : Fleet) (id : Nat) (p : AcceptorProcess) (store : Store) :
    AcceptorEvent → Prop
  | registered {admitted : Admitted} {etag : Nat} (h : p.acceptor.phase = .ready admitted etag) :
      Tells f id p store .registered
  | noticed {event : AcceptorEvent} {network : Network}
      (h : f.acceptorEvent? id p store = some (event, network)) : Tells f id p store event

end Fleet

namespace Call

variable {f : Fleet} {c : Call} {line : LineEnd}

/-! ### Steps of a dialer -/

section Dialer

variable {p : DialerProcess}

/-- A dialer that takes part in a call has to deal with the same in the fleet and in the call. -/
theorem dialerEvent?_eq (hdialer : c.dialer = p.dialer) (hseat : p.dialer.seat ≠ .gone)
    (hline : p.dialer.line? = some line) (horder : (f.receive line).InOrder c.back)
    (store : Store) (side : LocalSide) :
    (f.dialerEvent? p store).map (·.1) =
      c.dialerEvent? f (f.momentOf (f.isDialerCancelled p) line p.unsent side) store := by
  cases hphase : p.dialer.phase with
  | greeting endpoint rest line' deadline =>
      simp only [Dialer.line?, hphase, Option.some.injEq] at hline
      subst hline
      simp only [Fleet.dialerEvent?, dialerEvent?, hdialer, hphase, Fleet.momentOf,
        horder.received_arrival, Fleet.response?_bare]
      cases f.isDialerCancelled p with
      | true => rfl
      | false =>
          simp only [Bool.false_eq_true, if_false]
          cases f.response? endpoint deadline (f.receive line') <;> rfl
  | streaming endpoint line' s =>
      simp only [Dialer.line?, hphase, Option.some.injEq] at hline
      subst hline
      have hsession := Fleet.sessionEvent?_eq horder s (f.isDialerCancelled p) store p.unsent
      simp only [Fleet.dialerEvent?, dialerEvent?, hdialer, hphase, Fleet.momentOf, ← hsession]
      cases f.sessionEvent? s (f.isDialerCancelled p) store line' p.unsent <;> rfl
  | _ => exact absurd (by simp only [Dialer.seat, hphase]) hseat

/-- A step of a dialer in a fleet is a turn of the call. -/
theorem dialerTurn_eq {site : Site} {reachable : Bool} (hdialer : c.dialer = p.dialer)
    (hruntime : c.runtime = p.runtime) (hseat : p.dialer.seat ≠ .gone)
    (hline : p.dialer.line? = some line) (horder : (f.receive line).InOrder c.back)
    {event : DialerEvent} {network : Network}
    (hevent : f.dialerEvent? p site.store = some (event, network)) {t : DialerTurn}
    (ht : p.dialer.handle ⟨site, p.runtime, reachable, []⟩ f.clock f.wall event = t) :
    c.dialerTurn f (f.momentOf (f.isDialerCancelled p) line p.unsent
      ⟨site, p.runtime, reachable, []⟩) site.store =
      ⟨t.dialer, c.acceptor, c.out ++ t.side.sent.map (·.frame), event.leaves c.back,
        t.side.runtime⟩ := by
  have hsame := dialerEvent?_eq hdialer hseat hline horder site.store
    ⟨site, p.runtime, reachable, []⟩
  rw [hevent] at hsame
  simp only [dialerTurn, ← hsame, Option.map_some, recalled, hdialer, hruntime]
  rw [← ht]
  rfl

end Dialer

/-! ### Steps of an acceptor -/

section Acceptor

variable {p : AcceptorProcess} {id : Nat}

/-- An acceptor that takes part in a call has to deal with the same in the fleet and in the call. -/
theorem acceptorEvent?_of_tells (hacceptor : c.acceptor = p.acceptor)
    (hseat : p.acceptor.seat ≠ .gone) (horder : (f.receive p.line).InOrder c.out)
    {store : Store} {event : AcceptorEvent} (h : f.Tells id p store event) (side : LocalSide) :
    c.acceptorEvent? f (f.momentOf (f.isAcceptorCancelled id p) p.line p.unsent side) store =
      some event := by
  cases h with
  | registered hphase => simp only [acceptorEvent?, hacceptor, hphase]
  | noticed hevent =>
      cases hphase : p.acceptor.phase with
      | resuming admitted deadline =>
          simp only [Fleet.acceptorEvent?, hphase, Option.map_eq_some_iff, Prod.mk.injEq] at hevent
          obtain ⟨_, hresume, rfl, -⟩ := hevent
          simp only [acceptorEvent?, hacceptor, hphase, Fleet.momentOf, horder.received_arrival,
            Fleet.resume?_bare, hresume]
      | streaming admitted s =>
          simp only [Fleet.acceptorEvent?, hphase, Option.map_eq_some_iff, Prod.mk.injEq] at hevent
          obtain ⟨noticed, hsession, rfl, -⟩ := hevent
          have hsame := Fleet.sessionEvent?_eq horder s (f.isAcceptorCancelled id p) store p.unsent
          rw [hsession] at hsame
          simp only [acceptorEvent?, hacceptor, hphase, Fleet.momentOf, ← hsame, Option.map_some]
      | ready admitted etag =>
          simp only [Fleet.acceptorEvent?, hphase] at hevent
          cases hevent
      | _ => exact absurd (by simp only [Acceptor.seat, hphase]) hseat

/-- A step of an acceptor in a fleet is a turn of the call. -/
theorem acceptorTurn_eq {site : Site} {reachable : Bool} {state : ClusterState}
    (hacceptor : c.acceptor = p.acceptor) (hseat : p.acceptor.seat ≠ .gone)
    (horder : (f.receive p.line).InOrder c.out) {event : AcceptorEvent}
    (hevent : f.Tells id p site.store event) {t : AcceptorTurn}
    (ht : p.acceptor.handle ⟨site, p.runtime, reachable, []⟩ f.clock f.wall state event = t) :
    c.acceptorTurn f (f.momentOf (f.isAcceptorCancelled id p) p.line p.unsent
      ⟨site, p.runtime, reachable, []⟩) site.store state =
      ⟨c.dialer, t.acceptor, event.leaves c.out, c.back ++ t.side.sent.map (·.frame),
        c.runtime⟩ := by
  have hsame := acceptorEvent?_of_tells hacceptor hseat horder hevent
    ⟨site, p.runtime, reachable, []⟩
  simp only [acceptorTurn, hsame, hacceptor]
  rw [← ht]
  rfl

end Acceptor

end Call

end HubReplication
