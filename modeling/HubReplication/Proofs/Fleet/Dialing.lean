/-
**Dialers at their posts.**

A dialer works on what it was hired for, whatever happens to it, and it stays at its post until its
database takes it from there.  So its steps — those of the session it takes part in, too — leave the
staff of every database as it is.

Main results:

* `Dialer.assignment_handle` — a dialer works on what it was hired for;
* `Fleet.becomes_runDialer` — the steps of dialers leave every staff alone.
-/

import HubReplication.Proofs.Fleet.Staffing

set_option relaxedAutoImplicit false
set_option autoImplicit false

namespace HubReplication

namespace Dialer

variable {d : Dialer} {side : LocalSide} {now : Nat} {wall : Instant}

theorem assignment_moving {step : ConnectionStep} {next : LocalSide → DialerTurn}
    (hnext : ∀ side, (next side).dialer.assignment = d.assignment) :
    (d.moving side step wall next).dialer.assignment = d.assignment := by
  unfold moving
  split
  · exact hnext _
  · rfl

theorem assignment_wait : (d.wait side now wall).dialer.assignment = d.assignment := by
  unfold wait
  dsimp only
  split <;> rfl

theorem assignment_backOff : (d.backOff side now wall).dialer.assignment = d.assignment := by
  unfold backOff
  dsimp only
  split
  · exact assignment_wait
  · exact assignment_wait
  · exact assignment_moving fun _ => assignment_wait

theorem assignment_tryNext (rest : List ConnectionEndpoint) :
    (d.tryNext side now wall rest).dialer.assignment = d.assignment := by
  cases rest with
  | nil => exact assignment_backOff
  | cons endpoint rest => exact assignment_moving fun _ => rfl

theorem assignment_failCandidate (endpoint : ConnectionEndpoint) (rest : List ConnectionEndpoint)
    (e : ReplicationError) :
    (d.failCandidate side wall endpoint rest e).dialer.assignment = d.assignment := by
  unfold failCandidate
  split <;> rfl

theorem assignment_greet (endpoint : ConnectionEndpoint) (rest : List ConnectionEndpoint)
    (line : LineEnd) :
    (d.greet side now wall endpoint rest line).dialer.assignment = d.assignment := by
  refine assignment_moving fun side => ?_
  split
  · exact assignment_failCandidate _ _ _
  · split
    · exact assignment_failCandidate _ _ _
    · rfl

theorem assignment_startStreaming (endpoint : ConnectionEndpoint) (line : LineEnd)
    (accepted : Acceptance) :
    (d.startStreaming side now wall endpoint line accepted).dialer.assignment = d.assignment := by
  refine assignment_moving fun side => ?_
  dsimp only
  split <;> rfl

theorem assignment_answer (endpoint : ConnectionEndpoint) (rest : List ConnectionEndpoint)
    (line : LineEnd) (response : Outcome HandshakeResponse) :
    (d.answer side now wall endpoint rest line response).dialer.assignment = d.assignment := by
  unfold answer
  split
  · exact assignment_failCandidate _ _ _
  · exact assignment_failCandidate _ _ _
  · dsimp only
    split
    · exact assignment_failCandidate _ _ _
    · split
      · exact assignment_failCandidate _ _ _
      · exact assignment_startStreaming _ _ _

theorem assignment_endStreaming (endpoint : ConnectionEndpoint) (result : Outcome Unit) :
    (d.endStreaming side now wall endpoint result).dialer.assignment = d.assignment := by
  unfold endStreaming
  dsimp only
  split
  · rfl
  · split
    · rfl
    · exact assignment_backOff

theorem assignment_streamOn (endpoint : ConnectionEndpoint) (line : LineEnd) (session : Session)
    (event : SessionEvent) :
    (d.streamOn side now wall endpoint line session event).dialer.assignment = d.assignment := by
  unfold streamOn
  split
  · rfl
  · exact assignment_endStreaming _ _
  · rfl

/-- Whatever happens to a dialer, it works on what it was hired for. -/
theorem assignment_handle (event : DialerEvent) :
    (d.handle side now wall event).dialer.assignment = d.assignment := by
  unfold handle
  split
  · rfl
  · rfl
  · exact assignment_streamOn _ _ _ _
  · rfl
  · rfl
  · rfl
  · exact assignment_tryNext _
  · exact assignment_greet _ _ _
  · exact assignment_failCandidate _ _ _
  · exact assignment_answer _ _ _ _
  · rfl
  · rfl

end Dialer

namespace Fleet

variable {member serial : Nat} {f : Fleet} {v : Staff}

/-- A change of a fleet that changes nothing but the network. -/
def Still {α : Type} (x : FleetM α) : Prop :=
  ∀ f, ∃ network, (x.run f).2 = { f with network }

section Still

variable {α β : Type} {x : FleetM α}

theorem still_pure (a : α) : Still (pure a) := fun f => ⟨f.network, rfl⟩

theorem Still.bind (hx : Still x) {k : α → FleetM β} (hk : ∀ a, Still (k a)) : Still (x >>= k) := by
  intro f
  obtain ⟨network, hfirst⟩ := hx f
  obtain ⟨network', hsecond⟩ := hk (x.run f).1 (x.run f).2
  refine ⟨network', hsecond.trans ?_⟩
  rw [hfirst]

theorem still_push (e : LineEnd) (bytes : List UInt8) : Still (push e bytes) := fun _ => ⟨_, rfl⟩

theorem still_writeStep (e : LineEnd) (session : Option Session) (sent : List WrittenFrame) :
    Still (writeStep e session sent) := by
  unfold writeStep
  split
  · exact still_push _ _
  · exact fun _ => ⟨_, rfl⟩

theorem still_finishStep (line : Option LineEnd) (held : Bool) (session : Option Session)
    (side : LocalSide) : Still (finishStep line held session side) := by
  unfold finishStep
  split
  · exact still_pure _
  · refine (still_writeStep _ _ _).bind fun unsent => ?_
    dsimp only
    split <;> split <;> exact fun _ => ⟨_, rfl⟩

theorem still_pushMore (line : Option LineEnd) (unsent : List UInt8) :
    Still (pushMore line unsent) := by
  unfold pushMore
  split
  · exact still_pure _
  · intro f
    rw [run_get_bind]
    split
    · exact ⟨f.network, rfl⟩
    · refine (still_push _ _).bind (fun rest => ?_) f
      split <;> exact still_pure _

theorem Still.becomes (hx : Still x) (h : f.staff? member serial = some v) :
    Becomes member serial f (x.run f).2 v := by
  obtain ⟨network, heq⟩ := hx f
  rw [heq]
  exact ⟨.of_eq rfl rfl, h⟩

theorem Still.get?_processes (hx : Still x) (f : Fleet) (id : Nat) :
    (x.run f).2.processes.get? id = f.processes.get? id := by
  obtain ⟨network, heq⟩ := hx f
  rw [heq]

end Still

/-- What a connection changes of what it shares is no matter of the staff. -/
theorem staff_putSite (n : Node) (name : String) (connected : Option Nat) (site : Site)
    (tag : NodeTag) (posts : Nat → Option Post) :
    ((n.putSite name connected site).databases.get? serial).map (·.staff tag posts) =
      (n.databases.get? serial).map (·.staff tag posts) := by
  cases connected with
  | none => rfl
  | some loaded =>
      show ((n.databases.adjust loaded _).get? serial).map _ = _
      rw [SortedMap.get?_adjust]
      split
      · rename_i heq
        rw [heq, Option.map_map]
        rfl
      · rfl

theorem tag_putSite (n : Node) (name : String) (connected : Option Nat) (site : Site) :
    (n.putSite name connected site).tag = n.tag := by
  cases connected <;> rfl

theorem becomes_putSite (other : Nat) (name : String) (connected : Option Nat) (site : Site)
    (h : f.staff? member serial = some v) :
    Becomes member serial f ((putSite other name connected site).run f).2 v := by
  have hshared := becomes_onNode other (fun n => tag_putSite n name connected site)
    (fun n => staff_putSite n name connected site) h
  exact hshared.trans (becomes_logAll site.entries hshared.staff)

/-- A reader that is left behind has no post. -/
theorem becomes_strand (e : LineEnd) (hfresh : f.Fresh) (h : f.staff? member serial = some v) :
    Becomes member serial f ((strand e).run f).2 v := by
  have hspawn {f : Fleet} (hfresh : f.Fresh) (h : f.staff? member serial = some v) :
      Becomes member serial f ((spawn (.straggler e)).run f).2 v := by
    have hspawned := becomes_spawn (.straggler e) h
    have hnone : v.posts f.next = none := by
      rw [← post_of_staff? h, post, hfresh _ (Nat.le_refl _)]
      rfl
    have hsame : { v with posts := fun n =>
        if n = f.next then Process.post member serial (.straggler e) else v.posts n } = v := by
      refine congrArg (fun posts => { v with posts }) (funext fun n => ?_)
      split
      · rename_i heq
        rw [heq, hnone]
        rfl
      · rfl
    rw [hsame] at hspawned
    exact hspawned
  unfold strand
  rw [run_get_bind]
  dsimp only
  split
  · have hskipped : Becomes member serial f { f with
        network := f.network.leave e (Frame.skipAll (f.network.available e).bytes) } v :=
      ⟨.of_eq rfl rfl, h⟩
    exact hskipped.trans (hspawn (hskipped.grows.fresh hfresh) hskipped.staff)
  · exact hspawn hfresh h

/-- A dialer that goes on works on what it did. -/
theorem post_dialer (p : DialerProcess) {dialer : Dialer}
    (h : dialer.assignment = p.dialer.assignment) (runtime : ConnectionRuntime)
    (unsent : List UInt8) :
    Process.post member serial (.dialer { p with dialer, runtime, unsent }) =
      Process.post member serial (.dialer p) := by
  simp only [Process.post, h]

/-- Once it dealt with an event, a dialer shares what changed, writes on its line, and goes on. -/
theorem becomes_concludeDialer {id : Nat} {p : DialerProcess} {turn : DialerTurn}
    (line : Option LineEnd) (hassignment : turn.dialer.assignment = p.dialer.assignment)
    (hfresh : f.Fresh) (hp : f.processes.get? id = some (.dialer p))
    (h : f.staff? member serial = some v) :
    Becomes member serial f ((concludeDialer id p line turn).run f).2 v := by
  let g : Fleet := ((putSite p.member p.dialer.assignment.database (some p.serial)
    turn.side.site).run f).2
  let write := finishStep line (line.isSome && turn.dialer.line? == line) turn.dialer.session?
    turn.side
  have hwrite : Still write := still_finishStep _ _ _ _
  have hshared : Becomes member serial f g v := becomes_putSite p.member _ _ _ h
  have hwritten := hshared.trans (hwrite.becomes hshared.staff)
  have hkept : (write.run g).2.processes.get? id = some (.dialer p) :=
    (hwrite.get?_processes g id).trans hp
  have hput := hwritten.trans (becomes_put_of_post_eq hkept
    (post_dialer p hassignment turn.side.runtime (write.run g).1) hwritten.staff)
  unfold concludeDialer
  cases hlost : turn.dialer.isLost with
  | false => exact hput
  | true =>
      cases hline : turn.dialer.line? with
      | none =>
          simp only [write, hline] at hput
          exact hput
      | some e =>
          simp only [write, hline] at hput
          exact hput.trans (becomes_strand e (hput.grows.fresh hfresh) hput.staff)

theorem becomes_advanceDialer {id : Nat} {p : DialerProcess} (hfresh : f.Fresh)
    (hp : f.processes.get? id = some (.dialer p)) (h : f.staff? member serial = some v) :
    Becomes member serial f ((advanceDialer id p).run f).2 v := by
  unfold advanceDialer
  rw [run_get_bind]
  split
  · exact .refl h
  · split
    · exact .refl h
    · rename_i event network _
      have hread : Becomes member serial f { f with network } v := ⟨.of_eq rfl rfl, h⟩
      exact hread.trans (becomes_concludeDialer _ (Dialer.assignment_handle event)
        (hread.grows.fresh hfresh) hp hread.staff)

/-- **A dialer that goes on stays at its post.** -/
theorem becomes_runDialer {id : Nat} {p : DialerProcess} (hfresh : f.Fresh)
    (hp : f.processes.get? id = some (.dialer p)) (h : f.staff? member serial = some v) :
    Becomes member serial f ((runDialer id p).run f).2 v := by
  have hstill := still_pushMore p.dialer.line? p.unsent
  have hpushed := hstill.becomes h
  have hkept := (hstill.get?_processes f id).trans hp
  unfold runDialer
  refine hpushed.bind fun rest => ?_
  cases rest with
  | some unsent => exact becomes_put_of_post_eq hkept rfl hpushed.staff
  | none => exact becomes_advanceDialer (hpushed.grows.fresh hfresh) hkept hpushed.staff

end Fleet

end HubReplication
