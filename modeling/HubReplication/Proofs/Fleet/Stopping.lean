/-
**Dialers that have to stop.**

A dialer that was told to stop comes to its end by its own steps.  Mostly one of them is enough; in
a session it takes leave first, which may take the peer.  Once the peer is gone, nothing is left to
wait for: each step brings the dialer nearer to its end, until it is over.

Main definitions:

* `Fleet.Goes` — a dialer does steps of its own;
* `Dialer.stepsLeft` — how many of them it takes at most to its end;
* `Fleet.Told` — a dialer was told to stop, and its peer is gone;
* `Fleet.Aside` — what a dialer without a session leaves alone.

Main results:

* `Fleet.Told.step` — a step brings such a dialer nearer to its end;
* `Fleet.Told.ends` — it comes to its end by its own steps;
* `Fleet.Goes.becomes` — its steps leave every staff alone.
-/

import HubReplication.Proofs.Fleet.Dialing
import HubReplication.Proofs.Frame.Stream
import HubReplication.Proofs.Session.Stopping

set_option relaxedAutoImplicit false
set_option autoImplicit false

namespace HubReplication

/-! ### Lines -/

namespace Network

/-- Both ends of a line learn that no byte will be added. -/
def IsShut (n : Network) (line : Nat) : Prop := ∀ side, (n.available ⟨line, side⟩).closed = true

variable {n : Network} {e e' : LineEnd} {line : Nat} {g : Pipe → Pipe}

theorem available_change_of_ne (h : e' ≠ e) : (n.change e g).available e' = n.available e' := by
  unfold available change
  rw [SortedMap.get?_adjust]
  by_cases hline : e'.line = e.line
  · have hside : e'.side ≠ e.side := fun hside => h (by
      cases e
      cases e'
      simp_all)
    rw [if_pos hline, hline]
    cases n.lines.get? e.line with
    | none => rfl
    | some l =>
        simp only [Option.map_some]
        revert hside
        cases e'.side <;> cases e.side <;> simp [Line.change, Line.toward]
  · rw [if_neg hline]

/-- What is on its way to an end changes; where there is no such line, nothing is. -/
theorem available_change_self (n : Network) (e : LineEnd) (g : Pipe → Pipe) :
    (n.change e g).available e = g (n.available e) ∨
      (n.change e g).available e = n.available e ∧ (n.available e).bytes = [] := by
  unfold available change
  rw [SortedMap.get?_adjust, if_pos rfl]
  cases n.lines.get? e.line with
  | none => exact .inr ⟨rfl, rfl⟩
  | some l =>
      refine .inl ?_
      simp only [Option.map_some]
      cases e.side <;> rfl

/-- A line on which only the bytes change stays as it is. -/
theorem isShut_change (hg : (g (n.available e)).closed = (n.available e).closed)
    (h : n.IsShut line) : (n.change e g).IsShut line := by
  intro side
  by_cases heq : (⟨line, side⟩ : LineEnd) = e
  · subst heq
    rcases n.available_change_self ⟨line, side⟩ g with hchanged | ⟨hsame, -⟩
    · rw [hchanged, hg]
      exact h side
    · rw [hsame]
      exact h side
  · rw [available_change_of_ne heq]
    exact h side

theorem isShut_leave (rest : List UInt8) (h : n.IsShut line) : (n.leave e rest).IsShut line :=
  isShut_change rfl h

/-- When an end goes, both ends learn of it. -/
theorem isShut_close (n : Network) (e : LineEnd) : (n.close e).IsShut e.line := by
  intro side
  unfold available close shutLine
  rw [SortedMap.get?_adjust, if_pos rfl]
  cases n.lines.get? e.line with
  | none => rfl
  | some l => cases side <;> rfl

end Network

/-! ### Dialers -/

namespace Dialer

/-- A dialer waits, or does nothing any more, and holds no line. -/
def Rests (d : Dialer) : Prop :=
  (∃ u, d.phase = .backingOff u) ∨ (∃ e, d.phase = .parked e) ∨ d.phase = .over ∨
    d.phase = .lost none

/-- How many steps it takes at most until a dialer is over that was told to stop and whose peer is
gone, when so many bytes are left to read. -/
def stepsLeft (d : Dialer) (unread : LineEnd → Nat) : Nat :=
  match d.phase with
  | .over | .lost _ => 0
  | .choosing => 3
  | .trying [] => 2
  | .streaming _ line session => 2 + session.turnsLeft + unread line
  | _ => 1

variable {d : Dialer} {side : LocalSide} {now : Nat} {wall : Instant} {unread : LineEnd → Nat}

theorem Rests.line?_eq (h : d.Rests) : d.line? = none := by
  rcases h with ⟨_, h⟩ | ⟨_, h⟩ | h | h <;> simp [line?, h]

theorem Rests.session?_eq (h : d.Rests) : d.session? = none := by
  rcases h with ⟨_, h⟩ | ⟨_, h⟩ | h | h <;> simp [session?, h]

theorem Rests.stepsLeft_le (h : d.Rests) (unread : LineEnd → Nat) : d.stepsLeft unread ≤ 1 := by
  rcases h with ⟨_, h⟩ | ⟨_, h⟩ | h | h <;> simp [stepsLeft, h]

theorem isOver_of_stepsLeft (h : d.stepsLeft unread = 0) : d.isOver = true := by
  unfold stepsLeft at h
  unfold isOver
  split at h <;> simp_all

theorem isOver_eq_false (h : 0 < d.stepsLeft unread) : d.isOver = false := by
  unfold stepsLeft at h
  unfold isOver
  split at h <;> simp_all

/-- Only what is left to read for its session matters. -/
theorem stepsLeft_congr {unread' : LineEnd → Nat}
    (h : d.isOver = false → ∀ e, d.line? = some e → unread e = unread' e) :
    d.stepsLeft unread = d.stepsLeft unread' := by
  unfold stepsLeft
  cases hphase : d.phase with
  | streaming endpoint line session =>
      simp only [h (by simp only [isOver, hphase]) line (by simp only [line?, hphase])]
  | trying rest => cases rest <;> rfl
  | _ => rfl

theorem rests_dispose : (d.dispose side wall).dialer.Rests := .inr (.inr (.inl rfl))

theorem rests_park (e : ReplicationError) : (d.park side wall e).dialer.Rests :=
  .inr (.inl ⟨e, rfl⟩)

theorem rests_wait : (d.wait side now wall).dialer.Rests := by
  unfold wait
  dsimp only
  split
  · exact .inr (.inr (.inr rfl))
  · exact .inl ⟨_, rfl⟩

theorem rests_backOff : (d.backOff side now wall).dialer.Rests := by
  unfold backOff
  dsimp only
  split
  · exact rests_wait
  · exact rests_wait
  · unfold moving
    split
    · exact rests_wait
    · exact rests_park _

theorem rests_endStreaming (endpoint : ConnectionEndpoint) (result : Outcome Unit) :
    (d.endStreaming side now wall endpoint result).dialer.Rests := by
  unfold endStreaming
  dsimp only
  split
  · exact rests_dispose
  · split
    · exact rests_park _
    · exact rests_backOff

/-! ### What a dialer without a session shares -/

theorem activity_park (e : ReplicationError) :
    (d.park side wall e).side.site.activity = side.site.activity := by
  unfold park
  dsimp only
  split <;> rfl

theorem activity_wait : (d.wait side now wall).side.site.activity = side.site.activity := by
  unfold wait
  dsimp only
  split <;> rfl

theorem activity_backOff : (d.backOff side now wall).side.site.activity = side.site.activity := by
  unfold backOff
  dsimp only
  split
  · exact activity_wait
  · exact activity_wait
  · unfold moving
    split
    · exact activity_wait
    · exact activity_park _

/-! ### Stopping -/

/-- What a dialer without a session deals with next once it was told to stop. -/
def stopEvent (d : Dialer) : DialerEvent :=
  match d.phase with
  | .choosing | .trying [] => .proceed
  | _ => .cancelled

/-- What a turn comes to that brings a dialer nearer to its end, where so many bytes are left to
read before and after. -/
structure Nears (d : Dialer) (before : LineEnd → Nat) (d' : Dialer) (after : LineEnd → Nat) :
    Prop where
  stepsLeft_lt : d'.stepsLeft after < d.stepsLeft before
  line : ∀ e, d'.line? = some e → d.line? = some e

theorem Rests.nears {d' : Dialer} (h : d'.Rests) (hleft : 1 < d.stepsLeft unread)
    (unread' : LineEnd → Nat) : d.Nears unread d' unread' where
  stepsLeft_lt := Nat.lt_of_le_of_lt (h.stepsLeft_le unread') hleft
  line e he := by
    rw [h.line?_eq] at he
    cases he

/-- A dialer without a session stops by itself once it was told to. -/
theorem nears_stopEvent (hsession : d.session? = none) (hleft : 0 < d.stepsLeft unread)
    (unread' : LineEnd → Nat) :
    d.Nears unread (d.handle side now wall d.stopEvent).dialer unread' ∧
      (d.handle side now wall d.stopEvent).dialer.session? = none ∧
      (d.handle side now wall d.stopEvent).side.site.activity = side.site.activity := by
  have hdisposed (h : d.handle side now wall d.stopEvent = d.dispose side wall) :
      d.Nears unread (d.handle side now wall d.stopEvent).dialer unread' ∧
        (d.handle side now wall d.stopEvent).dialer.session? = none ∧
        (d.handle side now wall d.stopEvent).side.site.activity = side.site.activity := by
    rw [h]
    exact ⟨⟨hleft, nofun⟩, rfl, rfl⟩
  cases hphase : d.phase with
  | choosing =>
      have hturn : d.handle side now wall d.stopEvent =
          ⟨{ d with phase := .trying d.candidates }, side⟩ := by
        simp only [handle, stopEvent, hphase]
      rw [hturn]
      refine ⟨⟨?_, nofun⟩, rfl, rfl⟩
      simp only [stepsLeft, hphase]
      cases d.candidates <;> simp
  | trying rest =>
      cases rest with
      | nil =>
          have hturn : d.handle side now wall d.stopEvent = d.tryNext side now wall [] := by
            simp only [handle, stopEvent, hphase]
          rw [hturn]
          have hrests : (d.tryNext side now wall []).dialer.Rests := rests_backOff
          refine ⟨hrests.nears ?_ unread', hrests.session?_eq, activity_backOff⟩
          simp only [stepsLeft, hphase]
          decide
      | cons endpoint rest => exact hdisposed (by simp only [handle, stopEvent, hphase])
  | streaming endpoint line session => simp [session?, hphase] at hsession
  | connecting | greeting | backingOff | parked =>
      exact hdisposed (by simp only [handle, stopEvent, hphase])
  | _ => simp [stepsLeft, hphase] at hleft

/-- A session that comes nearer to its end brings its dialer nearer to its own. -/
theorem nears_streamOn {endpoint : ConnectionEndpoint} {line : LineEnd} {s : Session}
    {event : SessionEvent} {unread' : LineEnd → Nat} (hphase : d.phase = .streaming endpoint line s)
    (h : s.Nears event (s.handle side now wall event)) (hle : unread' line ≤ unread line)
    (hread : ∀ frame, event = .arrived frame → unread' line < unread line) :
    d.Nears unread (d.streamOn side now wall endpoint line s event).dialer unread' := by
  have hmany : d.stepsLeft unread = 2 + s.turnsLeft + unread line := by
    simp only [stepsLeft, hphase]
  have hline : d.line? = some line := by simp only [line?, hphase]
  unfold streamOn
  split
  · rename_i s' side' hturn
    rw [hturn] at h
    refine ⟨?_, fun e he => hline.trans he⟩
    show 2 + s'.turnsLeft + unread' line < _
    rw [hmany]
    cases h with
    | ends h => exact absurd rfl h
    | fewer h =>
        simp only at h
        omega
    | reads hevent h =>
        have hfewer := hread _ hevent
        simp only at h
        omega
  · exact (rests_endStreaming endpoint _).nears (by omega) unread'
  · refine ⟨?_, fun e he => hline.trans he⟩
    show 0 < _
    omega

end Dialer

namespace Fleet

variable {id : Nat} {p p' : DialerProcess} {f f' f'' : Fleet} {e : LineEnd} {m : Member}

/-- The dialer of a number does steps of its own. -/
inductive Goes (id : Nat) : Fleet → Fleet → Prop
  | refl (f : Fleet) : Goes id f f
  | step {f f' : Fleet} {p : DialerProcess} (hp : f.processes.get? id = some (.dialer p))
      (h : Goes id ((runDialer id p).run f).2 f') : Goes id f f'

/-- The dialer of a number was told to stop, its node is there, and nobody is at the other end of
its line. -/
structure Told (id : Nat) (p : DialerProcess) (f : Fleet) : Prop where
  process : f.processes.get? id = some (.dialer p)
  id_lt : id < f.next
  member : (f.members.get? p.member).isSome = true
  cancelled : p.cancelled = true
  gone : p.dialer.isOver = false → ∀ e, p.dialer.line? = some e → f.network.IsShut e.line

/-- What a dialer without a session leaves alone: the other dialers, and the tenancy of every
node. -/
structure Aside (id : Nat) (f f' : Fleet) : Prop where
  others : ∀ n q, n ≠ id → f'.processes.get? n = some (.dialer q) →
    f.processes.get? n = some (.dialer q)
  tenancy : ∀ member, f'.tenancy? member = f.tenancy? member
  next_le : f.next ≤ f'.next

theorem Aside.refl (f : Fleet) : Aside id f f := ⟨fun _ _ _ h => h, fun _ => rfl, Nat.le_refl _⟩

theorem Aside.trans (h : Aside id f f') (h' : Aside id f' f'') : Aside id f f'' where
  others n q hn hq := h.others n q hn (h'.others n q hn hq)
  tenancy member := (h'.tenancy member).trans (h.tenancy member)
  next_le := Nat.le_trans h.next_le h'.next_le

/-- How many bytes are left to read at an end of a line. -/
def unread (f : Fleet) (e : LineEnd) : Nat := (f.network.available e).bytes.length

/-! ### What a step does to lines -/

/-- A change that opens a line no more than it was, and brings nothing to an end of it. -/
def Spares {α : Type} (e : LineEnd) (x : FleetM α) : Prop :=
  ∀ f, (f.network.IsShut e.line → (x.run f).2.network.IsShut e.line) ∧
    (x.run f).2.unread e = f.unread e

section Lines

variable {α β : Type} {x : FleetM α}

theorem Spares.bind (hx : Spares e x) {k : α → FleetM β} (hk : ∀ a, Spares e (k a)) :
    Spares e (x >>= k) := by
  intro f
  obtain ⟨hshut, hunread⟩ := hx f
  obtain ⟨hshut', hunread'⟩ := hk (x.run f).1 (x.run f).2
  exact ⟨hshut' ∘ hshut, hunread'.trans hunread⟩

theorem spares_of_network_eq (h : ∀ f : Fleet, (x.run f).2.network = f.network) : Spares e x := by
  intro f
  unfold unread
  rw [h]
  exact ⟨id, rfl⟩

theorem spares_pure (a : α) : Spares e (pure a) := spares_of_network_eq fun _ => rfl

theorem far_ne (e : LineEnd) : e ≠ ⟨e.line, e.side.other⟩ := by
  rcases e with ⟨line, _ | _⟩ <;> nofun

theorem spares_push (e : LineEnd) (bytes : List UInt8) : Spares e (push e bytes) := fun _ =>
  ⟨Network.isShut_change rfl,
    congrArg (fun p : Pipe => p.bytes.length) (Network.available_change_of_ne (far_ne e))⟩

theorem spares_write {n n' : Network} {bytes : List UInt8} (h : n.write e bytes = .ok n') :
    (n.IsShut e.line → n'.IsShut e.line) ∧ n'.available e = n.available e := by
  unfold Network.write at h
  split at h <;> cases h
  exact ⟨Network.isShut_change rfl, Network.available_change_of_ne (far_ne e)⟩

theorem spares_transmit (e : LineEnd) (sent : List WrittenFrame) : Spares e (transmit e sent) := by
  intro f
  show (_ → (sent.foldl _ f.network).IsShut e.line) ∧
    ((sent.foldl _ f.network).available e).bytes.length = (f.network.available e).bytes.length
  generalize f.network = n
  induction sent generalizing n with
  | nil => exact ⟨id, rfl⟩
  | cons w rest ih =>
      rw [List.foldl_cons]
      cases hwrite : n.write e w.bytes with
      | error _ => exact ih n
      | ok n' =>
          obtain ⟨hshut, havailable⟩ := spares_write hwrite
          obtain ⟨hshut', hunread⟩ := ih n'
          exact ⟨hshut' ∘ hshut, hunread.trans (by rw [havailable])⟩

theorem spares_readAhead (e : LineEnd) (eager : Bool) : Spares e (readAhead e eager) := by
  intro f
  refine ⟨Network.isShut_change rfl, ?_⟩
  rcases f.network.available_change_self e fun p => { p with eager } with h | ⟨h, -⟩
  · exact (congrArg (fun p : Pipe => p.bytes.length) h :)
  · exact (congrArg (fun p : Pipe => p.bytes.length) h :)

theorem spares_writeStep (e : LineEnd) (session : Option Session) (sent : List WrittenFrame) :
    Spares e (writeStep e session sent) := by
  unfold writeStep
  split
  · exact spares_push _ _
  · exact (spares_transmit _ _).bind fun _ => spares_pure _

theorem spares_finishStep (e : LineEnd) (session : Option Session) (side : LocalSide) :
    Spares e (finishStep (some e) true session side) := by
  refine (spares_writeStep _ _ _).bind fun unsent => ?_
  dsimp only
  split
  · exact (spares_readAhead _ _).bind fun _ => spares_pure _
  · exact spares_pure _

end Lines

/-! ### What a step comes to -/

/-- What a turn of a dialer on a node comes to. -/
structure Stepped (id : Nat) (p : DialerProcess) (n : Node) (turn : DialerTurn) (f f' : Fleet) :
    Prop where
  process : ∃ unsent, f'.processes.get? id =
    some (.dialer { p with dialer := turn.dialer, runtime := turn.side.runtime, unsent })
  others : ∀ k q, k ≠ id → f'.processes.get? k = some (.dialer q) →
    f.processes.get? k = some (.dialer q)
  members : ∀ k, (f'.members.get? k).isSome = (f.members.get? k).isSome
  next_le : f.next ≤ f'.next
  tenancy : turn.side.site.activity = n.activity → ∀ k, f'.tenancy? k = f.tenancy? k
  /-- As long as the dialer holds its line, that is opened no more and brings nothing. -/
  line : turn.dialer.isOver = false → ∀ e, turn.dialer.line? = some e →
    (f.network.IsShut e.line → f'.network.IsShut e.line) ∧ f'.unread e = f.unread e

/-- Only what a connection counts matters to the tenancy of its node. -/
theorem tenancy?_putSite {other : Nat} {name : String} {connected : Option Nat} {site : Site}
    (hm : f.members.get? other = some m) (hactivity : site.activity = m.node.activity) (k : Nat) :
    ((putSite other name connected site).run f).2.tenancy? k = f.tenancy? k := by
  have hput (state : ClusterState) (uptime : Nat) :
      tenancyOf (m.node.putSite name connected site) state uptime =
        tenancyOf m.node state uptime := by
    unfold tenancyOf Node.putSite
    cases connected <;> simp only [hactivity] <;> rfl
  show ((f.members.adjust other _).get? k).map _ = _
  rw [SortedMap.get?_adjust]
  split
  · rename_i heq
    subst heq
    unfold tenancy?
    rw [hm]
    exact congrArg some (hput _ _)
  · rfl

/-- A reader that is left behind is a process of its own. -/
theorem Stepped.strand {n : Node} {turn : DialerTurn} (h : Stepped id p n turn f f')
    (hid : id ≠ f'.next) (hlost : turn.dialer.isLost = true) (e : LineEnd) :
    Stepped id p n turn f ((strand e).run f').2 := by
  have hover : turn.dialer.isOver = true := by
    unfold Dialer.isLost at hlost
    unfold Dialer.isOver
    split at hlost
    · rename_i hphase
      rw [hphase]
    · cases hlost
  obtain ⟨network, hstrand⟩ : ∃ network, ((Fleet.strand e).run f').2 =
      { f' with network, processes := f'.processes.insert f'.next (.straggler e),
                next := f'.next + 1 } := by
    unfold Fleet.strand
    rw [run_get_bind]
    dsimp only
    split <;> exact ⟨_, rfl⟩
  rw [hstrand]
  refine ⟨?_, fun k q hk hq => ?_, h.members, Nat.le_succ_of_le h.next_le, h.tenancy,
    fun hopen => absurd hover (by simp [hopen])⟩
  · obtain ⟨unsent, hprocess⟩ := h.process
    exact ⟨unsent, (SortedMap.get?_insert_of_ne _ _ hid).trans hprocess⟩
  · by_cases hnext : k = f'.next
    · subst hnext
      cases (SortedMap.get?_insert_self _ _ _).symm.trans hq
    · exact h.others k q hk ((SortedMap.get?_insert_of_ne _ _ hnext).symm.trans hq)

theorem stepped_concludeDialer {turn : DialerTurn} {line : Option LineEnd} (hid : id < f.next)
    (hm : f.members.get? p.member = some m)
    (hline : ∀ e, turn.dialer.line? = some e → line = some e) :
    Stepped id p m.node turn f ((concludeDialer id p line turn).run f).2 := by
  let shared : Fleet := ((putSite p.member p.dialer.assignment.database (some p.serial)
    turn.side.site).run f).2
  let write := finishStep line (line.isSome && turn.dialer.line? == line) turn.dialer.session?
    turn.side
  have hwrite : Still write := still_finishStep _ _ _ _
  obtain ⟨network, hwritten⟩ := hwrite shared
  let p' : DialerProcess := { p with
    dialer := turn.dialer, runtime := turn.side.runtime, unsent := (write.run shared).1 }
  let after : Fleet := { shared with network, processes := f.processes.insert id (.dialer p') }
  have hafter : ((put id (.dialer p')).run (write.run shared).2).2 = after := by
    rw [hwritten]
    rfl
  have hstepped : Stepped id p m.node turn f after := by
    refine ⟨⟨_, SortedMap.get?_insert_self _ _ _⟩, fun k q hk hq => ?_, fun k => ?_,
      Nat.le_refl _, tenancy?_putSite hm, fun _ e he => ?_⟩
    · exact (SortedMap.get?_insert_of_ne _ _ hk).symm.trans hq
    · show ((f.members.adjust p.member _).get? k).isSome = _
      rw [SortedMap.get?_adjust]
      split
      · rename_i heq
        rw [heq, Option.isSome_map]
      · rfl
    · obtain rfl := hline e he
      have hspares : Spares e write := by
        unfold write
        rw [he]
        simp only [Option.isSome_some, beq_self_eq_true, Bool.and_self]
        exact spares_finishStep e _ _
      have hshared := hspares shared
      rw [hwritten] at hshared
      exact hshared
  have hnext : id ≠ after.next := Nat.ne_of_lt hid
  rw [← hafter] at hstepped hnext
  unfold concludeDialer
  cases hlost : turn.dialer.isLost with
  | false => exact hstepped
  | true =>
      cases hopen : turn.dialer.line? with
      | none =>
          simp only [p', write, hopen] at hstepped
          exact hstepped
      | some e =>
          simp only [p', write, hopen] at hstepped hnext
          exact hstepped.strand hnext hlost e

/-! ### The end -/

theorem receive_ne_pending (h : f.network.IsShut e.line) : f.receive e ≠ .pending := by
  have hclosed : (f.network.available e).closed = true := h e.side
  unfold receive
  dsimp only
  rw [hclosed]
  exact BodyCodec.read_ne_pending _ _

theorem not_reachable (h : f.network.IsShut e.line) : f.reachable e = false := by
  unfold reachable
  rw [h e.side.other]
  rfl

/-- To read at an end of a line leaves less there, unless nothing but its end was there. -/
theorem afterReading_spares (h : f.network.IsShut e.line) :
    (f.afterReading e (f.receive e)).IsShut e.line ∧
      ((f.afterReading e (f.receive e)).available e).bytes.length ≤ f.unread e ∧
      ∀ frame rest, f.receive e = .frame frame rest →
        ((f.afterReading e (f.receive e)).available e).bytes.length < f.unread e := by
  have hleave (rest : List UInt8) (hle : rest.length ≤ f.unread e) :
      ((f.network.leave e rest).available e).bytes.length ≤ f.unread e ∧
        (rest.length < f.unread e →
          ((f.network.leave e rest).available e).bytes.length < f.unread e) := by
    rcases f.network.available_change_self e fun p => { p with bytes := rest } with
      heq | ⟨heq, hnil⟩
    · unfold Network.leave
      rw [heq]
      exact ⟨hle, id⟩
    · unfold Network.leave unread at *
      rw [heq, hnil] at *
      exact ⟨Nat.le_refl _, nofun⟩
  cases hreceived : f.receive e with
  | frame frame rest =>
      have hlt : rest.length < f.unread e := BodyCodec.length_of_read.1 _ hreceived
      obtain ⟨hle, hless⟩ := hleave rest (Nat.le_of_lt hlt)
      exact ⟨Network.isShut_leave rest h, hle, fun _ _ _ => hless hlt⟩
  | failed error rest =>
      have hle : rest.length ≤ f.unread e := BodyCodec.length_of_read.2 _ hreceived
      exact ⟨Network.isShut_leave rest h, (hleave rest hle).1, nofun⟩
  | ended => exact ⟨h, Nat.le_refl _, nofun⟩
  | pending => exact ⟨h, Nat.le_refl _, nofun⟩

/-- What a session deals with leaves its line shut, and less to read there if it is a frame. -/
theorem spares_sessionEvent? {event : SessionEvent} {network : Network} {s : Session}
    {cancelled : Bool} {store : Store} {unsent : List UInt8} (hshut : f.network.IsShut e.line)
    (h : f.sessionEvent? s cancelled store e unsent = some (event, network)) :
    s.next? f.clock cancelled store.announcements (f.delivery e unsent) (f.receive e) = some event ∧
      network.IsShut e.line ∧ (network.available e).bytes.length ≤ f.unread e ∧
      ∀ frame, event = .arrived frame → (network.available e).bytes.length < f.unread e := by
  obtain ⟨hafter, hle, hless⟩ := afterReading_spares hshut
  obtain ⟨event', hnext, heq⟩ := Option.map_eq_some_iff.1 h
  cases event' with
  | arrived frame =>
      cases heq
      obtain ⟨rest, hreceived⟩ := Session.received_of_next?_arrived hnext
      exact ⟨hnext, hafter, hle, fun _ _ => hless frame rest hreceived⟩
  | unreadable error =>
      cases heq
      exact ⟨hnext, hafter, hle, nofun⟩
  | _ =>
      cases heq
      exact ⟨hnext, hshut, Nat.le_refl _, nofun⟩

namespace Told

theorem isDialerCancelled_eq (h : Told id p f) : f.isDialerCancelled p = true := by
  unfold isDialerCancelled
  rw [h.cancelled]
  rfl

/-- Nobody takes what was left over. -/
theorem run_runDialer (h : Told id p f) (hopen : p.dialer.isOver = false) :
    (runDialer id p).run f = (advanceDialer id p).run f := by
  have hnone : (pushMore p.dialer.line? p.unsent).run f = (none, f) := by
    unfold pushMore
    split
    · rfl
    · rename_i e he
      rw [run_get_bind, not_reachable (h.gone hopen e he)]
      simp
      rfl
  unfold runDialer
  rw [StateT.run_bind, hnone]
  rfl

/-- Without a session such a dialer stops at once, or goes on until it can. -/
theorem dialerEvent?_eq (h : Told id p f) (hopen : p.dialer.isOver = false)
    (hsession : p.dialer.session? = none) (store : Store) :
    f.dialerEvent? p store = some (p.dialer.stopEvent, f.network) := by
  unfold dialerEvent? Dialer.stopEvent
  simp only [h.isDialerCancelled_eq, if_true]
  cases hphase : p.dialer.phase with
  | trying rest => cases rest <;> rfl
  | streaming endpoint line session => simp [Dialer.session?, hphase] at hsession
  | choosing | connecting | greeting | backingOff | parked => rfl
  | _ => simp [Dialer.isOver, hphase] at hopen

/-- What such a dialer deals with next, and what comes of it. -/
theorem exists_event (h : Told id p f) (m : Member) (hleft : 0 < p.dialer.stepsLeft f.unread) :
    ∃ event network,
      f.dialerEvent? p (m.node.store p.dialer.assignment.database) = some (event, network) ∧
        dialerLine? p.dialer event = p.dialer.line? ∧
        (∀ e, p.dialer.line? = some e → network.IsShut e.line) ∧
        let turn := dialerTurn { f with network } p m.node event p.dialer.line?
        p.dialer.Nears f.unread turn.dialer (unread { f with network }) ∧
          (p.dialer.session? = none →
            turn.dialer.session? = none ∧ turn.side.site.activity = m.node.activity) := by
  have hopen := Dialer.isOver_eq_false hleft
  cases hsession : p.dialer.session? with
  | none =>
      obtain ⟨hnears, hnone, hactivity⟩ := p.dialer.nears_stopEvent hsession hleft f.unread
      refine ⟨p.dialer.stopEvent, f.network, h.dialerEvent?_eq hopen hsession _, ?_,
        h.gone hopen, hnears, fun _ => ⟨hnone, hactivity⟩⟩
      unfold Dialer.stopEvent
      split <;> rfl
  | some s =>
      obtain ⟨endpoint, line, hphase⟩ :
          ∃ endpoint line, p.dialer.phase = .streaming endpoint line s := by
        unfold Dialer.session? at hsession
        split at hsession <;> cases hsession
        exact ⟨_, _, ‹_›⟩
      have hline : p.dialer.line? = some line := by simp only [Dialer.line?, hphase]
      have hshut := h.gone hopen line hline
      -- The line is shut, so that the session has something to deal with.
      have hdelivery : f.delivery line p.unsent ≠ .held := by
        unfold delivery
        rw [not_reachable hshut]
        split <;> nofun
      let store := m.node.store p.dialer.assignment.database
      obtain ⟨event', hnext'⟩ := s.exists_next?_of_gone f.clock store.announcements hdelivery
        (receive_ne_pending hshut)
      obtain ⟨⟨event, network⟩, hnoticed⟩ :
          ∃ noticed, f.sessionEvent? s true store line p.unsent = some noticed := by
        unfold sessionEvent?
        dsimp only
        rw [hnext']
        exact ⟨_, rfl⟩
      obtain ⟨hnext, hshut', hle, hless⟩ := spares_sessionEvent? hshut hnoticed
      refine ⟨.session event, network, ?_, rfl, fun e he => ?_, ?_, nofun⟩
      · unfold dialerEvent?
        simp only [hphase, h.isDialerCancelled_eq, store] at hnoticed ⊢
        rw [hnoticed]
        rfl
      · cases hline.symm.trans he
        exact hshut'
      · have hgone : (p.dialer.line?.any { f with network }.reachable) = false := by
          rw [hline]
          exact not_reachable hshut'
        simp only [dialerTurn, hgone, Dialer.handle, hphase]
        exact Dialer.nears_streamOn hphase
          (Session.nears_handle rfl hnext (receive_ne_pending hshut)) hle hless

/-- A step brings a dialer nearer to its end that was told to stop and whose peer is gone.  Without
a session it leaves everything else alone. -/
theorem step (h : Told id p f) (hleft : 0 < p.dialer.stepsLeft f.unread) :
    ∃ p', Told id p' ((runDialer id p).run f).2 ∧
      p'.dialer.stepsLeft ((runDialer id p).run f).2.unread < p.dialer.stepsLeft f.unread ∧
      (p.dialer.session? = none →
        p'.dialer.session? = none ∧ Aside id f ((runDialer id p).run f).2) := by
  obtain ⟨m, hm⟩ := Option.isSome_iff_exists.1 h.member
  obtain ⟨event, network, hevent, hline, hshut, hnears, haside⟩ := h.exists_event m hleft
  rw [h.run_runDialer (Dialer.isOver_eq_false hleft)]
  let turn := dialerTurn { f with network } p m.node event p.dialer.line?
  have hrun : ((advanceDialer id p).run f).2 =
      ((concludeDialer id p p.dialer.line? turn).run { f with network }).2 := by
    unfold advanceDialer
    rw [run_get_bind]
    simp only [hm, hevent, hline]
    rfl
  have hstepped : Stepped id p m.node turn { f with network } ((advanceDialer id p).run f).2 := by
    rw [hrun]
    exact stepped_concludeDialer h.id_lt hm hnears.line
  generalize ((advanceDialer id p).run f).2 = f' at hstepped ⊢
  obtain ⟨unsent, hprocess⟩ := hstepped.process
  have hsteps : turn.dialer.stepsLeft f'.unread =
      turn.dialer.stepsLeft (unread { f with network }) :=
    Dialer.stepsLeft_congr fun hopen e he => (hstepped.line hopen e he).2
  refine ⟨_, ⟨hprocess, Nat.lt_of_lt_of_le h.id_lt hstepped.next_le, ?_, h.cancelled, ?_⟩, ?_, ?_⟩
  · exact (hstepped.members p.member).trans h.member
  · exact fun hopen e he => (hstepped.line hopen e he).1 (hshut e (hnears.line e he))
  · exact hsteps.trans_lt hnears.stepsLeft_lt
  · intro hnone
    obtain ⟨hsession, hactivity⟩ := haside hnone
    exact ⟨hsession, hstepped.others, hstepped.tenancy hactivity, hstepped.next_le⟩

theorem isDialerOver (h : Told id p f) (hover : p.dialer.isOver = true) :
    f.isDialerOver id = true := by
  unfold Fleet.isDialerOver
  rw [h.process]
  exact hover

/-- Such a dialer comes to its end by its own steps. -/
theorem ends (h : Told id p f) :
    ∃ p' f', Goes id f f' ∧ Told id p' f' ∧ p'.dialer.isOver = true ∧
      (p.dialer.session? = none → p'.dialer.session? = none ∧ Aside id f f') := by
  generalize hn : p.dialer.stepsLeft f.unread = n
  induction n using Nat.strong_induction_on generalizing p f with
  | _ n ih =>
      subst hn
      rcases Nat.eq_zero_or_pos (p.dialer.stepsLeft f.unread) with hzero | hleft
      · exact ⟨p, f, .refl f, h, Dialer.isOver_of_stepsLeft hzero, fun hnone => ⟨hnone, .refl f⟩⟩
      · obtain ⟨p₁, htold, hlt, haside⟩ := h.step hleft
        obtain ⟨p', f', hgoes, htold', hover, haside'⟩ := ih _ hlt htold rfl
        refine ⟨p', f', .step h.process hgoes, htold', hover, fun hnone => ?_⟩
        obtain ⟨hnone₁, hstep⟩ := haside hnone
        obtain ⟨hnone', hrest⟩ := haside' hnone₁
        exact ⟨hnone', hstep.trans hrest⟩

end Told

/-- **A dialer that was told to stop comes to its end by its own steps**, once its peer goes.
Without a session it leaves everything else alone. -/
theorem exists_goes (hp : f.processes.get? id = some (.dialer p)) (hid : id < f.next)
    (hmember : (f.members.get? p.member).isSome = true) (hcancelled : p.cancelled = true) :
    ∃ network p' f', Goes id { f with network } f' ∧ Told id p' f' ∧ p'.dialer.isOver = true ∧
      (p.dialer.session? = none → p'.dialer.session? = none ∧ Aside id f f') := by
  obtain ⟨network, hshut⟩ :
      ∃ network : Network, ∀ e, p.dialer.line? = some e → network.IsShut e.line := by
    cases p.dialer.line? with
    | none => exact ⟨f.network, nofun⟩
    | some e =>
        refine ⟨f.network.close e, fun e' he => ?_⟩
        cases he
        exact f.network.isShut_close e
  have htold : Told id p { f with network } := ⟨hp, hid, hmember, hcancelled, fun _ => hshut⟩
  obtain ⟨p', f', hgoes, htold', hover, haside⟩ := htold.ends
  refine ⟨network, p', f', hgoes, htold', hover, fun hnone => ?_⟩
  obtain ⟨hnone', ⟨hothers, htenancy, hnext⟩⟩ := haside hnone
  exact ⟨hnone', hothers, htenancy, hnext⟩

/-- The steps of a dialer leave the staff of every database alone. -/
theorem Goes.becomes {member serial : Nat} {v : Staff} (h : Goes id f f') (hfresh : f.Fresh)
    (hv : f.staff? member serial = some v) : Becomes member serial f f' v := by
  induction h with
  | refl f => exact .refl hv
  | step hp _ ih =>
      have hstep := becomes_runDialer hfresh hp hv
      exact hstep.trans (ih (hstep.grows.fresh hfresh) hstep.staff)

end Fleet

end HubReplication
