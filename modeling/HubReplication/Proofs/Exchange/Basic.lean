/-
**Exchanges between two stores.**

Two stores exchange data over any number of links, one after another or at the same time.  A link
joins a session on the side of the source to one on the side of the target, with what either of
them said and the other did not hear yet, in order.  At any point one of the sessions may take a
turn, a link may be cut with all that is on it, a new link may be made, and either store may be
written to, here or by somebody else.

The sessions are the sessions that stream, and the stores the stores they stream between; only what
surrounds a session, such as clocks and failure logs, is left to chance.  A batch on its way carries
a label that says after which cursor and for which paths it was built, and what was taken over is
listed.  Nothing reads labels and list: they are there to speak of the past.

Main definitions:

* `Parcel`, `Link`, `Shipment`, `Exchange` — links, what is on them, and what was taken over;
* `Moment` — what surrounds a session in a turn;
* `Exchange.agree` — where the sessions of a new link start;
* `Exchange.step`, `Exchange.Reached` — one step, and any number of steps.

Main results:

* `Exchange.nearTurn_cases`, `Exchange.farTurn_cases` — what a turn of a session leads to.
-/

import HubReplication.Proofs.Session.Effect
import HubReplication.Proofs.Session.Noticing
import HubReplication.Proofs.Store.Growth

set_option relaxedAutoImplicit false
set_option autoImplicit false

namespace HubReplication

/-! ### What surrounds a session -/

/-- What comes of the line to a session. -/
inductive Arrival where
  /-- The next frame that is on its way, if there is one. -/
  | frame
  | nothing
  | ended
  | broken (error : ReplicationError)

/-- What a session receives, given what is on its way. -/
def Arrival.received : Arrival → List Frame → Received
  | .frame, f :: _ => .frame f []
  | .frame, [] | .nothing, _ => .pending
  | .ended, _ => .ended
  | .broken e, _ => .failed e []

/-- What surrounds a session in a turn, its store aside. -/
structure Moment where
  now : Nat
  wall : Instant
  cancelled : Bool
  delivery : Delivery
  arrival : Arrival
  /-- What the connections of the database share; the store in it does not count. -/
  site : Site
  runtime : ConnectionRuntime
  /-- Whether the peer is there to take what is written. -/
  reachable : Bool

namespace Moment

/-- The side of a connection around a store. -/
def side (m : Moment) (store : Store) : LocalSide :=
  { site := { m.site with store }, runtime := m.runtime, reachable := m.reachable, sent := [] }

/-- What a session deals with, and the turn it takes, if it takes one. -/
def turn (m : Moment) (s : Session) (store : Store) (coming : List Frame) :
    Option (SessionEvent × SessionTurn) :=
  (s.next? m.now m.cancelled store.announcements m.delivery (m.arrival.received coming)).map
    fun event => (event, s.handle (m.side store) m.now m.wall event)

end Moment

/-- What is on its way still after a session dealt with an event. -/
def SessionEvent.leaves {α : Type} (event : SessionEvent) (coming : List α) : List α :=
  match event with
  | .arrived _ => coming.tail
  | _ => coming

/-- The session after a turn, unless it is over. -/
def SessionTurn.session? (t : SessionTurn) : Option Session :=
  match t.verdict with
  | .going => some t.session
  | .over _ | .beyondCalendar => none

/-! ### Links -/

/-- A frame on its way from the source to the target. -/
structure Parcel where
  frame : Frame
  /-- The cursor of the session that sent it. -/
  above : Nat
  /-- The paths of the session that sent it. -/
  paths : TextSet

/-- A link between a source and a target. -/
structure Link where
  /-- The session on the side of the source, unless it is over. -/
  near : Option Session
  /-- The session on the side of the target, unless it is over. -/
  far : Option Session
  /-- What is on its way to the target, in order. -/
  out : List Parcel
  /-- What is on its way to the source, in order. -/
  back : List Frame

/-- A link without sessions, on which nothing is on its way. -/
def Link.dead : Link := ⟨none, none, [], []⟩

/-- A batch that the target took over. -/
structure Shipment where
  /-- The cursor after which it was built. -/
  above : Nat
  /-- The etag that it covers. -/
  upTo : Nat
  /-- The paths for which it was built. -/
  paths : TextSet

/-- Whether a batch was built over an etag. -/
def Shipment.Covers (r : Shipment) (etag : Nat) : Prop := r.above < etag ∧ etag ≤ r.upTo

/-- The paths that a session sends. -/
def Session.sendPaths (s : Session) : TextSet :=
  match s.terms.outbound with
  | some plan => plan.allowedPaths
  | none => .empty

/-- What a session said, labelled. -/
def Session.parcels (s : Session) (said : List WrittenFrame) : List Parcel :=
  said.map fun w => ⟨w.frame, s.cursor, s.sendPaths⟩

/-! ### Exchanges -/

/-- Two stores, the links between them, and what was taken over. -/
structure Exchange where
  source : Store
  target : Store
  links : List Link
  /-- The batches of the source that the target took over. -/
  shipments : List Shipment

/-- One step of an exchange. -/
inductive Exchange.Action where
  /-- A version is written at the source. -/
  | write (item : Item)
  /-- The source takes over a batch from somewhere else. -/
  | take (origin : String) (items : List Item) (etag : Nat)
  /-- A version is written at the target. -/
  | writeFar (item : Item)
  /-- The target takes over a batch from somewhere else. -/
  | takeFar (origin : String) (items : List Item) (etag : Nat)
  /-- A link is made. -/
  | connect (near far : SessionTerms) (now : Nat)
  /-- The session on the side of the source takes a turn. -/
  | near (link : Nat) (m : Moment)
  /-- The session on the side of the target takes a turn. -/
  | far (link : Nat) (m : Moment)
  /-- A link is cut, and what is on it is lost. -/
  | cut (link : Nat)

namespace Exchange

/-- Two stores that nothing was written to. -/
def start (source target : String) : Exchange := ⟨.empty source, .empty target, [], []⟩

/-- How far the target took the source over. -/
def reached (e : Exchange) : Nat := e.target.lastReplicatedEtag e.source.databaseId

/-- The terms of a session between two stores: what is sent starts where the peer says it took this
side over before, and what is taken is taken under the id of the peer. -/
def agree (own peer : Store) (terms : SessionTerms) : SessionTerms :=
  { terms with
    outbound := terms.outbound.map fun plan =>
      { plan with startEtag := peer.lastReplicatedEtag own.databaseId }
    inbound := terms.inbound.map fun plan => { plan with sourceDatabaseId := peer.databaseId } }

/-- The store after a local write, if the write succeeds. -/
def written (s : Store) (item : Item) : Store :=
  match s.writeLocal item with
  | .ok (_, s') => s'
  | .error _ => s

/-- The store after a batch, if it can be applied. -/
def taken (s : Store) (origin : String) (items : List Item) (etag : Nat) : Store :=
  match s.applyBatch origin items etag with
  | .ok (_, s') => s'
  | .error _ => s

/-- A new link. -/
def join (e : Exchange) (near far : SessionTerms) (now : Nat) : Exchange :=
  match Session.start? (agree e.source e.target near) now e.source.announcements,
      Session.start? (agree e.target e.source far) now e.target.announcements with
  | some near, some far => { e with links := e.links ++ [⟨some near, some far, [], []⟩] }
  | _, _ => e

/-- The exchange after a turn of the session on the side of the source. -/
def afterNear (e : Exchange) (i : Nat) (link : Link) (s : Session) (event : SessionEvent)
    (t : SessionTurn) : Exchange :=
  { e with
    source := t.side.site.store
    links := e.links.set i
      { link with
        near := t.session?
        out := link.out ++ s.parcels t.side.sent
        back := event.leaves link.back } }

/-- What is listed as taken over by a turn. -/
def shipped (s : Session) (store : Store) (event : SessionEvent) (coming : List Parcel) :
    List Shipment :=
  match s.applied? store event, coming with
  | some batch, parcel :: _ => [⟨parcel.above, batch.lastEtag, parcel.paths⟩]
  | _, _ => []

/-- The exchange after a turn of the session on the side of the target. -/
def afterFar (e : Exchange) (i : Nat) (link : Link) (s : Session) (event : SessionEvent)
    (t : SessionTurn) : Exchange :=
  { e with
    target := t.side.site.store
    links := e.links.set i
      { link with
        far := t.session?
        out := event.leaves link.out
        back := link.back ++ t.side.sent.map (·.frame) }
    shipments := e.shipments ++ shipped s e.target event link.out }

/-- A turn of the session on the side of the source. -/
def nearTurn (e : Exchange) (i : Nat) (m : Moment) : Exchange :=
  match e.links[i]? with
  | none => e
  | some link =>
    match link.near with
    | none => e
    | some s =>
      match m.turn s e.source link.back with
      | none => e
      | some (event, t) => e.afterNear i link s event t

/-- A turn of the session on the side of the target. -/
def farTurn (e : Exchange) (i : Nat) (m : Moment) : Exchange :=
  match e.links[i]? with
  | none => e
  | some link =>
    match link.far with
    | none => e
    | some s =>
      match m.turn s e.target (link.out.map (·.frame)) with
      | none => e
      | some (event, t) => e.afterFar i link s event t

/-- The exchange after a step. -/
def step (e : Exchange) : Action → Exchange
  | .write item => { e with source := written e.source item }
  | .take origin items etag => { e with source := taken e.source origin items etag }
  | .writeFar item => { e with target := written e.target item }
  | .takeFar origin items etag => { e with target := taken e.target origin items etag }
  | .connect near far now => e.join near far now
  | .near i m => e.nearTurn i m
  | .far i m => e.farTurn i m
  | .cut i => { e with links := e.links.set i .dead }

/-- The exchanges that steps of a kind lead to. -/
inductive Reached (start : Exchange) (fits : Exchange → Action → Prop) : Exchange → Prop
  | start : Reached start fits start
  | step {e : Exchange} (h : Reached start fits e) (a : Action) (ha : fits e a) :
      Reached start fits (e.step a)

/-! ### Turns -/

/-- A frame only arrives when it is the next one on its way. -/
theorem exists_of_next?_arrived {s : Session} {now announcements : Nat} {cancelled : Bool}
    {delivery : Delivery} {arrival : Arrival} {coming : List Frame} {f : Frame}
    (h : s.next? now cancelled announcements delivery (arrival.received coming) =
      some (.arrived f)) : ∃ rest, coming = f :: rest := by
  obtain ⟨bytes, hreceived⟩ := Session.received_of_next?_arrived h
  unfold Arrival.received at hreceived
  split at hreceived <;> cases hreceived
  exact ⟨_, rfl⟩

/-- A turn that a session takes between two stores. -/
structure Turned (s : Session) (store : Store) (coming : List Frame) (event : SessionEvent)
    (t : SessionTurn) : Prop where
  terms_eq : t.session.terms = s.terms
  effect : s.Effect store event t.session.cursor t.side.site.store (t.side.sent.map (·.frame))
  arrived : ∀ {f}, event = .arrived f → ∃ rest, coming = f :: rest

theorem turned_of_turn {m : Moment} {s : Session} {store : Store} (hstore : store.WellIndexed)
    {coming : List Frame} {event : SessionEvent} {t : SessionTurn}
    (h : m.turn s store coming = some (event, t)) : Turned s store coming event t := by
  obtain ⟨event, hnext, heq⟩ := Option.map_eq_some_iff.1 h
  cases heq
  have hdoes : s.Does (m.side store) event (s.handle (m.side store) m.now m.wall event) :=
    Session.handle_effect hstore m.now m.wall event
  obtain ⟨said, hsent, heffect⟩ := hdoes.effect
  refine ⟨hdoes.terms_eq, ?_, fun hf => exists_of_next?_arrived (hf ▸ hnext)⟩
  rw [hsent]
  exact heffect

/-- A session on the side of the source takes a turn, or nothing happens. -/
theorem nearTurn_cases {e : Exchange} (hsource : e.source.WellIndexed) (i : Nat) (m : Moment) :
    e.nearTurn i m = e ∨ ∃ link s event t, link ∈ e.links ∧ link.near = some s ∧
      Turned s e.source link.back event t ∧ e.nearTurn i m = e.afterNear i link s event t := by
  unfold nearTurn
  split
  · exact .inl rfl
  · rename_i link hlink
    split
    · exact .inl rfl
    · rename_i s hs
      split
      · exact .inl rfl
      · rename_i event t hturn
        exact .inr ⟨link, s, event, t, List.mem_of_getElem? hlink, hs,
          turned_of_turn hsource hturn, rfl⟩

/-- A session on the side of the target takes a turn, or nothing happens. -/
theorem farTurn_cases {e : Exchange} (htarget : e.target.WellIndexed) (i : Nat) (m : Moment) :
    e.farTurn i m = e ∨ ∃ link s event t, link ∈ e.links ∧ link.far = some s ∧
      Turned s e.target (link.out.map (·.frame)) event t ∧
      e.farTurn i m = e.afterFar i link s event t := by
  unfold farTurn
  split
  · exact .inl rfl
  · rename_i link hlink
    split
    · exact .inl rfl
    · rename_i s hs
      split
      · exact .inl rfl
      · rename_i event t hturn
        exact .inr ⟨link, s, event, t, List.mem_of_getElem? hlink, hs,
          turned_of_turn htarget hturn, rfl⟩

theorem nearTurn_eq {e : Exchange} {i : Nat} {m : Moment} {link : Link} {s : Session}
    {event : SessionEvent} {t : SessionTurn} (hlink : e.links[i]? = some link)
    (hs : link.near = some s) (hturn : m.turn s e.source link.back = some (event, t)) :
    e.nearTurn i m = e.afterNear i link s event t := by
  simp only [nearTurn, hlink, hs, hturn]

theorem farTurn_eq {e : Exchange} {i : Nat} {m : Moment} {link : Link} {s : Session}
    {event : SessionEvent} {t : SessionTurn} (hlink : e.links[i]? = some link)
    (hs : link.far = some s)
    (hturn : m.turn s e.target (link.out.map (·.frame)) = some (event, t)) :
    e.farTurn i m = e.afterFar i link s event t := by
  simp only [farTurn, hlink, hs, hturn]

/-- A session that goes on after a turn keeps its terms, and stands where the turn left it. -/
theorem session?_eq_some {t : SessionTurn} {s : Session} (h : t.session? = some s) :
    s = t.session := by
  unfold SessionTurn.session? at h
  split at h <;> cases h
  rfl

/-- What an event leaves on its way was on its way before. -/
theorem mem_of_mem_leaves {α : Type} {event : SessionEvent} {coming : List α} {a : α}
    (h : a ∈ event.leaves coming) : a ∈ coming := by
  unfold SessionEvent.leaves at h
  split at h
  · exact List.mem_of_mem_tail h
  · exact h

/-! ### Stores in an exchange -/

theorem written_later (s : Store) (item : Item) : s.Later (written s item) := by
  unfold written
  split
  · rename_i h
    exact Store.writeLocal_later h
  · exact Store.Later.refl s

theorem taken_later (s : Store) (origin : String) (items : List Item) (etag : Nat) :
    s.Later (taken s origin items etag) := by
  unfold taken
  split
  · rename_i h
    exact Store.applyBatch_later h
  · exact Store.Later.refl s

theorem lastReplicatedEtag_written (s : Store) (item : Item) (source : String) :
    (written s item).lastReplicatedEtag source = s.lastReplicatedEtag source := by
  unfold written
  split
  · rename_i h
    exact Store.lastReplicatedEtag_writeLocal h source
  · rfl

theorem lastReplicatedEtag_taken (s : Store) (items : List Item) (etag : Nat)
    {origin source : String} (hne : source ≠ origin) :
    (taken s origin items etag).lastReplicatedEtag source = s.lastReplicatedEtag source := by
  unfold taken
  split
  · rename_i h
    rw [Store.lastReplicatedEtag_applyBatch h, if_neg hne]
  · rfl

/-! ### Runs -/

/-- Steps of one kind are steps of a wider kind. -/
theorem Reached.mono {start e : Exchange} {fits fits' : Exchange → Action → Prop}
    (h : Reached start fits e) (himp : ∀ e a, fits e a → fits' e a) : Reached start fits' e := by
  induction h with
  | start => exact .start
  | step _ a ha ih => exact .step ih a (himp _ a ha)

end Exchange

end HubReplication
