/-
**Bringing a database in line.**

A database is brought in line with a state by a job of several chores, and while one of them waits
for a dialer the rest of the fleet goes on.  However that falls out, a call brings the dialers of the
database in line with the state and changes no more than that takes; it always can be done; and once
a state did not have the database, nobody works for it any more and calls do nothing.

Main definitions:

* `Fleet.Leaves` — the rest of the fleet goes on;
* `Fleet.Works` — chores were done, with whatever they gave way to;
* `Staff.Follows` — what a call comes to;
* `Fleet.Called`, `Staff.Settled` — a database after any sequence of calls.

Main results:

* `Fleet.Works.reconcile` — what one call comes to;
* `Fleet.Called.install` — a database that is loaded was brought in line by that;
* `Fleet.Called.settled` — what holds after any sequence of calls;
* `Fleet.exists_works_reconcile` — every call can be done: who has to stop comes to its end by its
  own steps;
* `Fleet.Called.reconciles` — every call of a sequence is exact, and repeating it does nothing.
-/

import HubReplication.Proofs.Fleet.Stopping

set_option relaxedAutoImplicit false
set_option autoImplicit false

namespace HubReplication

namespace Staff

/-- Nobody works for a database yet. -/
def unstaffed (tag : NodeTag) (name : String) : Staff :=
  ⟨tag, name, .empty, false, false, fun _ => none⟩

/-- A database is given up, and nobody works for it any more. -/
def close (v : Staff) : Staff :=
  { v with disposed := true, outgoing := .empty, posts := fun _ => none }

/-- What it comes to that a database is brought in line with a state, where the numbers from `next`
on were free. -/
structure Follows (state : ClusterState) (next : Nat) (before after : Staff) : Prop where
  /-- Once a database was given up, nothing changes any more. -/
  stays : before.disposed = true → after = before
  /-- A database that the state does not have is given up. -/
  missing : before.disposed = false → state.database? before.name = none → after = before.close
  /-- Otherwise what runs is what should run. -/
  exact : ∀ record, before.disposed = false → state.database? before.name = some record →
    after.disposed = false ∧ Exact (desiredTasks state record before.tag) next before after

/-- The dialers of a database that was brought in line with some states, one after another. -/
structure Settled (tag : NodeTag) (name : String) (states : List ClusterState) (v : Staff) :
    Prop where
  tag_eq : v.tag = tag
  name_eq : v.name = name
  idle : v.busy = false
  sound : v.Sound
  /-- The database was given up exactly if one of the states did not have it. -/
  disposed_eq : v.disposed = states.any fun s => (s.database? name).isNone
  /-- As long as it was not, what runs is what should run in the last of the states. -/
  runs : ∀ state record, states.getLast? = some state → v.disposed = false →
    state.database? name = some record →
    ∀ id, (v.outgoing.get? id).map (·.work) = (desiredTasks state record tag).get? id

variable {v v' : Staff} {tag : NodeTag} {name : String}

/-- Where nobody works and nothing is listed there is nothing to agree on. -/
theorem Sound.of_nobody (hlist : ∀ id, v.outgoing.get? id = none) (hposts : ∀ n, v.posts n = none) :
    v.Sound where
  keyed id r hr := by
    rw [hlist] at hr
    cases hr
  posted id r hr := by
    rw [hlist] at hr
    cases hr
  employed n p hp := by
    rw [hposts] at hp
    cases hp

theorem sound_unstaffed (tag : NodeTag) (name : String) : (unstaffed tag name).Sound :=
  .of_nobody (fun _ => rfl) fun _ => rfl

theorem sound_close (v : Staff) : v.close.Sound := .of_nobody (fun _ => rfl) fun _ => rfl

/-- Whose dialers they are, and what holds of it besides them. -/
def place (v : Staff) : NodeTag × String × Bool × Bool := (v.tag, v.name, v.busy, v.disposed)

theorem place_dismissAll (v : Staff) (ids : List Nat) : (v.dismissAll ids).place = v.place := by
  induction ids generalizing v with
  | nil => rfl
  | cons id rest ih =>
      refine (ih (v.dismiss id)).trans ?_
      unfold dismiss
      split <;> rfl

theorem place_hireAll (v : Staff) (next : Nat) (works : List DialingTask) :
    (v.hireAll next works).place = v.place := by
  induction works generalizing v next with
  | nil => rfl
  | cons w rest ih => exact ih (v.hire next w) (next + 1)

/-- Some dialers are gone. -/
theorem posts_foldl_remove (v : Staff) (dialers : List Nat) (n : Nat) :
    (dialers.foldl remove v).posts n = if n ∈ dialers then none else v.posts n := by
  induction dialers generalizing v with
  | nil => simp
  | cons dialer rest ih =>
      rw [List.foldl_cons, ih]
      by_cases hrest : n ∈ rest
      · simp [hrest]
      · by_cases heq : n = dialer <;> simp [hrest, heq, remove]

theorem foldl_remove (v : Staff) (dialers : List Nat) :
    dialers.foldl remove v = { v with posts := (dialers.foldl remove v).posts } := by
  induction dialers generalizing v with
  | nil => rfl
  | cons dialer rest ih => exact ih (v.remove dialer)

/-- When every dialer on the list is gone, nobody works for the database. -/
theorem Sound.foldl_remove (h : v.Sound) :
    (v.outgoing.values.map (·.dialer)).foldl remove { v with disposed := true, outgoing := .empty } =
      v.close := by
  rw [Staff.foldl_remove]
  refine congrArg (fun posts => { v with disposed := true, outgoing := .empty, posts })
    (funext fun n => ?_)
  rw [posts_foldl_remove]
  split
  · rfl
  · rename_i hnot
    cases hpost : v.posts n with
    | none => rfl
    | some p =>
        have hlisted := SortedMap.get?_eq_some_iff.1 (h.employed n p hpost)
        exact absurd (List.mem_map.2 ⟨_, List.mem_map.2 ⟨_, hlisted, rfl⟩, rfl⟩) hnot

namespace Follows

variable {state : ClusterState} {next : Nat}

/-- A database is given up by a call with a state that does not have it, and it stays so. -/
theorem disposed_eq (h : Follows state next v v') :
    v'.disposed = (v.disposed || (state.database? v.name).isNone) := by
  cases hdisposed : v.disposed with
  | true => rw [h.stays hdisposed, hdisposed, Bool.true_or]
  | false =>
      cases hrecord : state.database? v.name with
      | none =>
          rw [h.missing hdisposed hrecord]
          rfl
      | some record => exact (h.exact record hdisposed hrecord).1

theorem exact_of_open (h : Follows state next v v') (hopen : v'.disposed = false)
    {record : DatabaseRecord} (hrecord : state.database? v.name = some record) :
    Exact (desiredTasks state record v.tag) next v v' := by
  have hdisposed := h.disposed_eq
  rw [hopen, hrecord] at hdisposed
  exact (h.exact record (by simpa using hdisposed.symm) hrecord).2

/-- A second call with the same state changes nothing. -/
theorem again {v'' : Staff} {next' : Nat} (h : Follows state next v v')
    (h' : Follows state next' v' v'') (htag : v'.tag = v.tag) (hname : v'.name = v.name) :
    v'' = v' := by
  cases hdisposed : v'.disposed with
  | true => exact h'.stays hdisposed
  | false =>
      cases hrecord : state.database? v.name with
      | none =>
          have hgone := h.disposed_eq
          rw [hrecord, hdisposed] at hgone
          simp at hgone
      | some record =>
          have hruns := (h.exact_of_open hdisposed hrecord).runs
          rw [← hname] at hrecord
          rw [← htag] at hruns
          exact (h'.exact record hdisposed hrecord).2.idle hruns

end Follows

/-- Whether somebody is changing the tasks does not matter. -/
theorem Sound.of_busy {busy : Bool} (h : v.Sound) : { v with busy }.Sound :=
  ⟨h.keyed, h.posted, h.employed⟩

theorem Exact.of_busy {desired : SortedMap Nat DialingTask} {next : Nat} (hidle : v.busy = false)
    (h : Exact desired next { v with busy := true } v') :
    Exact desired next v { v' with busy := false } where
  runs := h.runs
  sound := h.sound.of_busy
  kept := h.kept
  stopped := h.stopped
  started := h.started
  idle hruns := by
    rw [h.idle hruns]
    obtain ⟨tag, name, outgoing, busy, disposed, posts⟩ := v
    cases hidle
    rfl

end Staff

namespace Fleet

variable {member serial : Nat} {f f' f'' : Fleet} {v : Staff} {c : Chore} {rest : List Chore}
  {state : ClusterState} {record : DatabaseRecord}

/-! ### Chores -/

/-- The rest of a fleet goes on, and the dialers of a loaded database stay as they are. -/
def Leaves (member serial : Nat) (f f' : Fleet) : Prop :=
  ∀ v, f.staff? member serial = some v → Becomes member serial f f' v

/-- Chores of a node were done one after another, each with the chores it gave way to.  While one has
to wait, and in between, the rest of the fleet goes on. -/
inductive Works (member serial : Nat) : List Chore → Fleet → Fleet → Prop
  | nil (f : Fleet) : Works member serial [] f f
  | work {id : Nat} {j : Job} {c : Chore} {rest first : List Chore} {f f' f'' : Fleet}
      (hj : j.member = member) (hchore : (doChore id j c).run f = (some first, f'))
      (hrest : Works member serial (first ++ rest) f' f'') : Works member serial (c :: rest) f f''
  | wait {chores : List Chore} {f f' f'' : Fleet} (hleaves : Leaves member serial f f')
      (hrest : Works member serial chores f' f'') : Works member serial chores f f''

/-- The dialers of a database become others, and with the rest of the chores to do. -/
def Reaches (member serial : Nat) (f : Fleet) (v : Staff) (rest : List Chore) (f'' : Fleet) : Prop :=
  ∃ f', Becomes member serial f f' v ∧ Works member serial rest f' f''

namespace Works

theorem of_nil (h : Works member serial [] f f') (hv : f.staff? member serial = some v) :
    Becomes member serial f f' v := by
  generalize hchores : ([] : List Chore) = chores at h
  induction h with
  | nil f => exact .refl hv
  | work => cases hchores
  | wait hleaves _ ih =>
      have hleft := hleaves v hv
      exact hleft.trans (ih hleft.staff hchores)

/-- A chore was done at some moment, until which the dialers stayed as they were. -/
theorem of_cons (h : Works member serial (c :: rest) f f'') (hv : f.staff? member serial = some v) :
    ∃ id j f₁ first f₂, Becomes member serial f f₁ v ∧ j.member = member ∧
      (doChore id j c).run f₁ = (some first, f₂) ∧ Works member serial (first ++ rest) f₂ f'' := by
  generalize hchores : c :: rest = chores at h
  induction h with
  | nil f => cases hchores
  | work hj hchore hrest _ =>
      cases hchores
      exact ⟨_, _, _, _, _, .refl hv, hj, hchore, hrest⟩
  | wait hleaves _ ih =>
      have hleft := hleaves v hv
      obtain ⟨id, j, f₁, first, f₂, hbefore, hdone⟩ := ih hleft.staff hchores
      exact ⟨id, j, f₁, first, f₂, hleft.trans hbefore, hdone⟩

theorem eq_of_doChore {id : Nat} {j : Job} {first : List Chore} (x : FleetM (List Chore))
    (hx : (doChore id j c).run f = (some (x.run f).1, (x.run f).2))
    (hchore : (doChore id j c).run f = (some first, f')) :
    first = (x.run f).1 ∧ f' = (x.run f).2 := by
  cases hx.symm.trans hchore
  exact ⟨rfl, rfl⟩

theorem awaitDialer {dialer : Nat} (h : Works member serial (.awaitDialer dialer :: rest) f f'')
    (hv : f.staff? member serial = some v) :
    Reaches member serial f (v.remove dialer) rest f'' := by
  obtain ⟨id, j, f₁, first, f₂, hbefore, rfl, hchore, hrest⟩ := h.of_cons hv
  simp only [doChore, run_get_bind] at hchore
  split at hchore
  · cases hchore
    exact ⟨_, hbefore.trans (becomes_remove dialer hbefore.staff), hrest⟩
  · cases hchore

theorem stopDialer {dialer : Nat} (h : Works member serial (.stopDialer dialer :: rest) f f'')
    (hv : f.staff? member serial = some v) :
    Reaches member serial f (v.remove dialer) rest f'' := by
  obtain ⟨id, j, f₁, first, f₂, hbefore, rfl, hchore, hrest⟩ := h.of_cons hv
  cases hchore
  have hlogged := becomes_log (.plain .info .taskStopped) hbefore.staff
  have htold := hbefore.trans (hlogged.trans (becomes_cancelDialer dialer hlogged.staff))
  obtain ⟨f₃, hgone, hrest⟩ := hrest.awaitDialer htold.staff
  rw [Staff.remove_tell] at hgone
  exact ⟨f₃, htold.trans hgone, hrest⟩

theorem stopDialers {dialers : List Nat}
    (h : Works member serial (dialers.map .stopDialer ++ rest) f f'')
    (hv : f.staff? member serial = some v) :
    Reaches member serial f (dialers.foldl Staff.remove v) rest f'' := by
  induction dialers generalizing f v with
  | nil => exact ⟨f, .refl hv, h⟩
  | cons dialer others ih =>
      obtain ⟨f₁, hgone, hothers⟩ := h.stopDialer hv
      obtain ⟨f₂, hall, hrest⟩ := ih hothers hgone.staff
      exact ⟨f₂, hgone.trans hall, hrest⟩

theorem stopTask {task : Nat} (h : Works member serial (.stopTask serial task :: rest) f f'')
    (hv : f.staff? member serial = some v) :
    Reaches member serial f (v.dismiss task) rest f'' := by
  obtain ⟨id, j, f₁, first, f₂, hbefore, rfl, hchore, hrest⟩ := h.of_cons hv
  obtain ⟨rfl, rfl⟩ := eq_of_doChore (Fleet.stopTask j.member serial task) rfl hchore
  unfold Staff.dismiss
  cases hr : v.outgoing.get? task with
  | none =>
      rw [run_stopTask_of_none hr hbefore.staff] at hrest
      exact ⟨f₁, hbefore, hrest⟩
  | some r =>
      obtain ⟨hfirst, hoff⟩ := becomes_stopTask hr hbefore.staff
      rw [hfirst] at hrest
      obtain ⟨f₃, hgone, hrest⟩ := hrest.stopDialer hoff.staff
      exact ⟨f₃, hbefore.trans (hoff.trans hgone), hrest⟩

theorem stopTasks {tasks : List Nat}
    (h : Works member serial (tasks.map (.stopTask serial) ++ rest) f f'')
    (hv : f.staff? member serial = some v) :
    Reaches member serial f (v.dismissAll tasks) rest f'' := by
  induction tasks generalizing f v with
  | nil => exact ⟨f, .refl hv, h⟩
  | cons task others ih =>
      obtain ⟨f₁, hoff, hothers⟩ := h.stopTask hv
      obtain ⟨f₂, hall, hrest⟩ := ih hothers hoff.staff
      exact ⟨f₂, hoff.trans hall, hrest⟩

theorem occupy (h : Works member serial (.occupy serial :: rest) f f'')
    (hv : f.staff? member serial = some v) (hidle : v.busy = false) :
    Reaches member serial f { v with busy := true } rest f'' := by
  obtain ⟨id, j, f₁, first, f₂, hbefore, rfl, hchore, hrest⟩ := h.of_cons hv
  obtain ⟨htrue, hbusy⟩ := becomes_occupy hidle hbefore.staff
  have hrun : (doChore id j (.occupy serial)).run f₁ =
      (some [], ((Fleet.occupy j.member serial).run f₁).2) := by
    show (if ((Fleet.occupy j.member serial).run f₁).1 = true then some [] else none, _) = _
    rw [htrue]
    rfl
  cases hrun.symm.trans hchore
  exact ⟨_, hbefore.trans hbusy, hrest⟩

theorem vacate (h : Works member serial (.vacate serial :: rest) f f'')
    (hv : f.staff? member serial = some v) :
    Reaches member serial f { v with busy := false } rest f'' := by
  obtain ⟨id, j, f₁, first, f₂, hbefore, rfl, hchore, hrest⟩ := h.of_cons hv
  cases hchore
  exact ⟨_, hbefore.trans (becomes_change (fun v => { v with busy := false }) (fun _ _ _ => rfl)
    hbefore.staff), hrest⟩

theorem revoke (h : Works member serial (.revoke serial record :: rest) f f'')
    (hv : f.staff? member serial = some v) : Reaches member serial f v rest f'' := by
  obtain ⟨id, j, f₁, first, f₂, hbefore, rfl, hchore, hrest⟩ := h.of_cons hv
  cases hchore
  exact ⟨_, hbefore.trans (becomes_revoke record hbefore.staff), hrest⟩

/-- The tasks that run otherwise than they should are stopped, and those that are missing then are
started: what should run does. -/
theorem stopStale_startMissing
    (h : Works member serial
      (.stopStale serial record state :: .startMissing serial record state :: rest) f f'')
    (hv : f.staff? member serial = some v) (hsound : v.Sound) {free : Nat}
    (hfree : v.FreeFrom free) (hle : free ≤ f.next) :
    ∃ after, Reaches member serial f after rest f'' ∧ after.place = v.place ∧
      Staff.Exact (desiredTasks state record v.tag) free v after := by
  obtain ⟨id, j, f₁, first, f₂, hbefore, rfl, hchore, hrest⟩ := h.of_cons hv
  obtain ⟨d, hlist, hrun⟩ := run_stopStale record state hbefore.staff
  obtain ⟨rfl, rfl⟩ := eq_of_doChore (stopStale j.member serial record state) rfl hchore
  rw [hrun] at hrest
  obtain ⟨f₃, hoff, hrest⟩ := hrest.stopTasks hbefore.staff
  obtain ⟨id', j', f₄, first', f₅, hbetween, hj', hchore', hrest⟩ := hrest.of_cons hoff.staff
  cases hchore'
  rw [hj'] at hrest
  obtain ⟨d', hlist', hstarted⟩ := becomes_startMissing record state hbetween.staff
  have hplace := Staff.place_dismissAll v (d.stale (desiredTasks state record v.tag))
  have htag := congrArg Prod.fst hplace
  have hthere := hbefore.trans (hoff.trans hbetween)
  have hplan : Staff.Plan (desiredTasks state record v.tag) v _
      (d'.missing (desiredTasks state record v.tag)) := {
    keyed := fun _ _ => id_of_get?_desiredTasks
    stale := fun id => by rw [LoadedDatabase.mem_stale, hlist]
    missing := fun w => by rw [LoadedDatabase.mem_missing, hlist']
    apart := LoadedDatabase.pairwise_missing fun _ _ => id_of_get?_desiredTasks }
  rw [show (Staff.dismissAll v _).tag = v.tag from htag] at hstarted
  exact ⟨_, ⟨_, hthere.trans hstarted, hrest⟩, (Staff.place_hireAll _ _ _).trans hplace,
    hplan.exact hsound hfree (Nat.le_trans hle hthere.grows.next_le)⟩

/-- A database is given up, and nobody works for it any more. -/
theorem dispose (h : Works member serial [.dispose serial] f f')
    (hv : f.staff? member serial = some v) (hidle : v.busy = false) (hsound : v.Sound) :
    Becomes member serial f f' v.close := by
  obtain ⟨id, j, f₁, first, f₂, hbefore, rfl, hchore, hrest⟩ := h.of_cons hv
  cases hchore
  have hdisposed := becomes_disposed hbefore.staff
  obtain ⟨f₃, hbusy, hrest⟩ := Works.occupy hrest hdisposed.staff hidle
  obtain ⟨id', j', f₄, first', f₅, hbetween, hj', hchore', hrest⟩ := hrest.of_cons hbusy.staff
  obtain ⟨rfl, rfl⟩ := eq_of_doChore (clear j'.member serial) rfl hchore'
  rw [hj'] at hrest
  obtain ⟨hfirst, hcleared⟩ := becomes_clear hbetween.staff
  rw [hfirst, show (fun r : RunningTask => Chore.stopDialer r.dialer) =
    Chore.stopDialer ∘ RunningTask.dialer from rfl, ← List.map_map] at hrest
  obtain ⟨f₆, hgone, hrest⟩ := hrest.stopDialers hcleared.staff
  have hall := hbefore.trans (hdisposed.trans (hbusy.trans (hbetween.trans (hcleared.trans
    (hgone.trans (hrest.of_nil hgone.staff))))))
  have hclose := hsound.foldl_remove
  obtain ⟨tag, name, outgoing, busy, disposed, posts⟩ := v
  cases hidle
  rw [← hclose]
  exact hall

end Works

theorem Fresh.freeFrom (h : f.Fresh) (hv : f.staff? member serial = some v) :
    v.FreeFrom f.next := by
  intro n hn
  rw [← post_of_staff? hv, post, h n hn]
  rfl

/-- **A call is exact.**  It gives the database up if the state does not have it, and otherwise brings
what runs in line with what should run. -/
theorem Works.reconcile (h : Works member serial [.reconcile serial state] f f')
    (hv : f.staff? member serial = some v) (hidle : v.busy = false) (hsound : v.Sound)
    (hfresh : f.Fresh) :
    ∃ after, Becomes member serial f f' after ∧ Staff.Follows state f.next v after ∧
      after.tag = v.tag ∧ after.name = v.name ∧ after.busy = false ∧ after.Sound := by
  have hfree : v.FreeFrom f.next := hfresh.freeFrom hv
  obtain ⟨id, j, f₁, first, f₂, hbefore, rfl, hchore, hrest⟩ := h.of_cons hv
  obtain ⟨rfl, rfl⟩ := eq_of_doChore (Fleet.reconcile j.member serial state) rfl hchore
  rw [run_reconcile state hbefore.staff, List.append_nil] at hrest
  cases hdisposed : v.disposed with
  | true =>
      rw [hdisposed] at hrest
      refine ⟨v, hbefore.trans (hrest.of_nil hbefore.staff), ?_, rfl, rfl, hidle, hsound⟩
      exact ⟨fun _ => rfl, by simp [hdisposed], by simp [hdisposed]⟩
  | false =>
      rw [hdisposed] at hrest
      cases hrecord : state.database? v.name with
      | none =>
          rw [hrecord] at hrest
          have hclosed := hbefore.trans (hrest.dispose hbefore.staff hidle hsound)
          refine ⟨v.close, hclosed, ?_, rfl, rfl, hidle, v.sound_close⟩
          exact ⟨by simp [hdisposed], fun _ _ => rfl, by simp [hrecord]⟩
      | some record =>
          rw [hrecord] at hrest
          obtain ⟨f₃, hbusy, hrest⟩ := Works.occupy hrest hbefore.staff hidle
          obtain ⟨after, ⟨f₄, hexact, hrest⟩, hplace, hafter⟩ :=
            hrest.stopStale_startMissing hbusy.staff hsound.of_busy hfree
              (hbefore.trans hbusy).grows.next_le
          obtain ⟨f₅, hvacant, hrest⟩ := Works.vacate hrest hexact.staff
          obtain ⟨f₆, hrevoked, hrest⟩ := Works.revoke hrest hvacant.staff
          have hall := hbefore.trans (hbusy.trans (hexact.trans (hvacant.trans (hrevoked.trans
            (hrest.of_nil hrevoked.staff)))))
          obtain ⟨htag, hname, -, hopen⟩ : after.tag = v.tag ∧ after.name = v.name ∧
              after.busy = true ∧ after.disposed = v.disposed := by
            simpa [Staff.place] using hplace
          have hafter := hafter.of_busy hidle
          refine ⟨_, hall, ⟨by simp [hdisposed], by simp [hrecord], ?_⟩, htag, hname, rfl,
            hafter.sound⟩
          rintro record' - hrecord'
          cases hrecord.symm.trans hrecord'
          exact ⟨hopen.trans hdisposed, hafter⟩

/-! ### Calls can be done -/

theorem Works.append {a b : List Chore} (ha : Works member serial a f f')
    (hb : Works member serial b f' f'') : Works member serial (a ++ b) f f'' := by
  induction ha with
  | nil f => exact hb
  | work hj hchore _ ih =>
      have hrest := ih hb
      rw [List.append_assoc] at hrest
      exact .work hj hchore hrest
  | wait hleaves _ ih => exact .wait hleaves (ih hb)

/-- A chore that is done at once can be done if what it gives way to can. -/
theorem exists_works_of_run {f : Fleet} (first : List Chore)
    (hrun : ((doChore 0 ⟨member, [], []⟩ c).run f).1 = some first)
    (h : ∃ f', Works member serial first ((doChore 0 ⟨member, [], []⟩ c).run f).2 f') :
    ∃ f', Works member serial [c] f f' := by
  obtain ⟨f', hrest⟩ := h
  refine ⟨f', .work rfl (Prod.ext hrun rfl) ?_⟩
  rw [List.append_nil]
  exact hrest

/-- Chores that are done at once can be done after others that can. -/
theorem exists_works_append {chores rest : List Chore} (h : ∃ f', Works member serial chores f f')
    (hrest : ∀ c ∈ rest, ∀ f, ((doChore 0 ⟨member, [], []⟩ c).run f).1 = some []) :
    ∃ f', Works member serial (chores ++ rest) f f' := by
  have hall (f : Fleet) : ∃ f', Works member serial rest f f' := by
    induction rest generalizing f with
    | nil => exact ⟨f, .nil f⟩
    | cons c rest ih =>
        rw [List.forall_mem_cons] at hrest
        obtain ⟨f₁, hc⟩ : ∃ f₁, Works member serial [c] f f₁ :=
          exists_works_of_run [] (hrest.1 f) ⟨_, .nil _⟩
        obtain ⟨f₂, hothers⟩ := ih hrest.2 f₁
        exact ⟨f₂, hc.append hothers⟩
  obtain ⟨f₁, hchores⟩ := h
  obtain ⟨f₂, hothers⟩ := hall f₁
  exact ⟨f₂, hchores.append hothers⟩

theorem Reaches.becomes (h : Reaches member serial f v [] f'') : Becomes member serial f f'' v := by
  obtain ⟨f', hbecomes, hrest⟩ := h
  exact hbecomes.trans (hrest.of_nil hbecomes.staff)

/-- Who is at a post of a database is a dialer of it. -/
theorem exists_dialer_of_posts {n : Nat} {post : Post} (hv : f.staff? member serial = some v)
    (hpost : v.posts n = some post) :
    ∃ p, f.processes.get? n = some (.dialer p) ∧ p.member = member ∧ p.cancelled = post.cancelled := by
  rw [← post_of_staff? hv] at hpost
  obtain ⟨process, hprocess, hthere⟩ := Option.bind_eq_some_iff.1 hpost
  cases process with
  | dialer p =>
      simp only [Process.post] at hthere
      split at hthere <;> cases hthere
      rename_i hplace
      exact ⟨p, hprocess, hplace.1, rfl⟩
  | _ => cases hthere

theorem Fresh.lt_next {n : Nat} {p : Process} (h : f.Fresh) (hp : f.processes.get? n = some p) :
    n < f.next := by
  refine Nat.lt_of_not_le fun hle => ?_
  rw [h n hle] at hp
  cases hp

/-- A dialer that was told to stop comes to its end while it is waited for. -/
theorem exists_works_awaitDialer {dialer : Nat} {post : Post} (hfresh : f.Fresh)
    (hv : f.staff? member serial = some v) (hpost : v.posts dialer = some post)
    (htold : post.cancelled = true) : ∃ f', Works member serial [.awaitDialer dialer] f f' := by
  obtain ⟨p, hp, hmember, hcancelled⟩ := exists_dialer_of_posts hv hpost
  obtain ⟨m, -, hm, -⟩ := exists_of_staff? hv
  obtain ⟨network, p', f', hgoes, hend, hover, -⟩ :=
    exists_goes hp (hfresh.lt_next hp) (by rw [hmember, hm]; rfl) (hcancelled.trans htold)
  have hhung : Leaves member serial f { f with network } := fun _ hv => ⟨.of_eq rfl rfl, hv⟩
  have hleaves : Leaves member serial { f with network } f' := fun _ hv => hgoes.becomes hfresh hv
  obtain ⟨f'', hworks⟩ : ∃ f'', Works member serial [.awaitDialer dialer] f' f'' := by
    refine exists_works_of_run [] ?_ ⟨_, .nil _⟩
    simp only [doChore, run_get_bind, hend.isDialerOver hover]
    rfl
  exact ⟨f'', .wait hhung (.wait hleaves hworks)⟩

theorem exists_works_stopDialer {dialer : Nat} {post : Post} (hfresh : f.Fresh)
    (hv : f.staff? member serial = some v) (hpost : v.posts dialer = some post) :
    ∃ f', Works member serial [.stopDialer dialer] f f' := by
  refine exists_works_of_run [.awaitDialer dialer] rfl ?_
  have hlogged := becomes_log (.plain .info .taskStopped) hv
  have htold := hlogged.trans (becomes_cancelDialer dialer hlogged.staff)
  refine exists_works_awaitDialer (htold.grows.fresh hfresh) htold.staff
    (show _ = some { post with cancelled := true } from ?_) rfl
  simp only [Staff.tell, if_true, hpost, Option.map_some]

theorem exists_works_stopDialers {dialers : List Nat} (hfresh : f.Fresh)
    (hv : f.staff? member serial = some v) (hnodup : dialers.Nodup)
    (hposts : ∀ dialer ∈ dialers, ∃ post, v.posts dialer = some post) :
    ∃ f', Works member serial (dialers.map .stopDialer) f f' := by
  induction dialers generalizing f v with
  | nil => exact ⟨f, .nil f⟩
  | cons dialer others ih =>
      rw [List.forall_mem_cons] at hposts
      obtain ⟨post, hpost⟩ := hposts.1
      obtain ⟨f₁, hfirst⟩ := exists_works_stopDialer hfresh hv hpost
      have hgone := (hfirst.stopDialer hv).becomes
      have hne : ∀ other ∈ others, other ≠ dialer := by
        rintro other hother rfl
        exact (List.nodup_cons.1 hnodup).1 hother
      obtain ⟨f₂, hrest⟩ := ih (hgone.grows.fresh hfresh) hgone.staff (List.nodup_cons.1 hnodup).2
        fun other hother => by
          obtain ⟨post, hpost⟩ := hposts.2 other hother
          exact ⟨post, (if_neg (hne other hother)).trans hpost⟩
      exact ⟨f₂, hfirst.append hrest⟩

theorem exists_works_stopTask (task : Nat) (hfresh : f.Fresh) (hv : f.staff? member serial = some v)
    (hsound : v.Sound) : ∃ f', Works member serial [.stopTask serial task] f f' := by
  refine exists_works_of_run ((stopTask member serial task).run f).1 rfl ?_
  show ∃ f', Works member serial _ ((stopTask member serial task).run f).2 f'
  cases hr : v.outgoing.get? task with
  | none =>
      rw [run_stopTask_of_none hr hv]
      exact ⟨f, .nil f⟩
  | some r =>
      obtain ⟨hfirst, hoff⟩ := becomes_stopTask hr hv
      rw [hfirst]
      exact exists_works_stopDialer (hoff.grows.fresh hfresh) hoff.staff (hsound.posted task r hr)

theorem exists_works_stopTasks {tasks : List Nat} (hfresh : f.Fresh)
    (hv : f.staff? member serial = some v) (hsound : v.Sound) :
    ∃ f', Works member serial (tasks.map (.stopTask serial)) f f' := by
  induction tasks generalizing f v with
  | nil => exact ⟨f, .nil f⟩
  | cons task others ih =>
      obtain ⟨f₁, hfirst⟩ := exists_works_stopTask task hfresh hv hsound
      have hoff := (hfirst.stopTask hv).becomes
      obtain ⟨f₂, hrest⟩ := ih (hoff.grows.fresh hfresh) hoff.staff (hsound.dismiss task)
      exact ⟨f₂, hfirst.append hrest⟩

/-- Where nobody else changes the tasks of a database, one can begin to. -/
theorem exists_works_occupy (hv : f.staff? member serial = some v) (hidle : v.busy = false) :
    ∃ f', Works member serial [.occupy serial] f f' := by
  refine exists_works_of_run [] ?_ ⟨_, .nil _⟩
  show (if ((occupy member serial).run f).1 = true then some [] else none) = some []
  rw [(becomes_occupy hidle hv).1]
  rfl

/-- The tasks of a database that is given up can be stopped. -/
theorem exists_works_dispose (hfresh : f.Fresh) (hv : f.staff? member serial = some v)
    (hidle : v.busy = false) (hsound : v.Sound) :
    ∃ f', Works member serial [.dispose serial] f f' := by
  refine exists_works_of_run [.occupy serial, .clear serial] rfl ?_
  have hdisposed := becomes_disposed hv
  obtain ⟨f₁, hoccupy⟩ := exists_works_occupy hdisposed.staff hidle
  have hbusy := hdisposed.trans (hoccupy.occupy hdisposed.staff hidle).becomes
  obtain ⟨f₂, hclear⟩ : ∃ f₂, Works member serial [.clear serial] f₁ f₂ := by
    refine exists_works_of_run ((clear member serial).run f₁).1 rfl ?_
    obtain ⟨hfirst, hcleared⟩ := becomes_clear hbusy.staff
    rw [hfirst, show (fun r : RunningTask => Chore.stopDialer r.dialer) =
      Chore.stopDialer ∘ RunningTask.dialer from rfl, ← List.map_map]
    refine exists_works_stopDialers ((hbusy.trans hcleared).grows.fresh hfresh) hcleared.staff
      hsound.nodup_dialers fun dialer hdialer => ?_
    obtain ⟨r, hr, rfl⟩ := List.mem_map.1 hdialer
    obtain ⟨⟨id, r⟩, hlisted, rfl⟩ := List.mem_map.1 hr
    exact ⟨_, hsound.posted id r (SortedMap.get?_eq_some_iff.2 hlisted)⟩
  exact ⟨f₂, hoccupy.append hclear⟩

/-- Every call can be done: each dialer that has to stop comes to its end by its own steps. -/
theorem exists_works_reconcile (state : ClusterState) (hfresh : f.Fresh)
    (hv : f.staff? member serial = some v) (hidle : v.busy = false) (hsound : v.Sound) :
    ∃ f', Works member serial [.reconcile serial state] f f' := by
  refine exists_works_of_run ((reconcile member serial state).run f).1 rfl ?_
  show ∃ f', Works member serial _ ((reconcile member serial state).run f).2 f'
  rw [run_reconcile state hv]
  dsimp only
  split
  · exact ⟨f, .nil f⟩
  · split
    · exact exists_works_dispose hfresh hv hidle hsound
    · rename_i record _
      obtain ⟨f₁, hoccupy⟩ := exists_works_occupy hv hidle
      have hbusy := (hoccupy.occupy hv hidle).becomes
      obtain ⟨f₂, hstopped⟩ :
          ∃ f₂, Works member serial [.stopStale serial record state] f₁ f₂ := by
        obtain ⟨d, -, hrun⟩ := run_stopStale record state hbusy.staff
        refine exists_works_of_run ((stopStale member serial record state).run f₁).1 rfl ?_
        show ∃ f', Works member serial _ ((stopStale member serial record state).run f₁).2 f'
        rw [hrun]
        exact exists_works_stopTasks (hbusy.grows.fresh hfresh) hbusy.staff hsound.of_busy
      have hatonce : ∀ c ∈ [.startMissing serial record state, .vacate serial,
          .revoke serial record], ∀ f, ((doChore 0 ⟨member, [], []⟩ c).run f).1 = some [] := by
        simp only [List.forall_mem_cons]
        exact ⟨fun _ => rfl, fun _ => rfl, fun _ => rfl, nofun⟩
      exact exists_works_append ⟨f₂, hoccupy.append hstopped⟩ hatonce

/-! ### Sequences of calls -/

/-- A database was taken in under a number and brought in line with states, one after another. -/
inductive Called (member serial : Nat) (tag : NodeTag) (name : String) :
    List ClusterState → Fleet → Prop
  /-- Nobody works for the database yet. -/
  | taken {f : Fleet} (hfresh : f.Fresh)
      (hnew : f.staff? member serial = some (.unstaffed tag name)) :
      Called member serial tag name [] f
  /-- The tasks that should run are started, as they are when the database is loaded. -/
  | loaded {f : Fleet} {state : ClusterState} {record : DatabaseRecord} (hfresh : f.Fresh)
      (hnew : f.staff? member serial = some (.unstaffed tag name))
      (hrecord : state.database? name = some record) :
      Called member serial tag name [state] ((startMissing member serial record state).run f).2
  | call {states : List ClusterState} {state : ClusterState} {f f' : Fleet}
      (h : Called member serial tag name states f)
      (hworks : Works member serial [.reconcile serial state] f f') :
      Called member serial tag name (states ++ [state]) f'
  /-- In between, the rest of the fleet goes on. -/
  | leaves {states : List ClusterState} {f f' : Fleet} (h : Called member serial tag name states f)
      (hleaves : Leaves member serial f f') : Called member serial tag name states f'

variable {tag : NodeTag} {name : String} {states : List ClusterState}

/-- A database that is loaded under the next number is taken in, and what should run is started. -/
theorem Called.install {m : Member} (hfresh : f.Fresh)
    (hserials : ∀ n p, f.processes.get? n = some (.dialer p) → p.serial < f.next)
    (hm : f.members.get? member = some m) (hrecord : state.database? name = some record) :
    Called member f.next m.node.tag name [state] ((install member name record state).run f).2 := by
  let g : Fleet := ((onNode member fun n => n.install name f.next).run
    { f with next := f.next + 1 }).2
  have hg : g.Fresh := fun n hn => hfresh n (Nat.le_of_succ_le hn)
  have hpost (n : Nat) : g.post member f.next n = none := by
    show (f.processes.get? n).bind _ = none
    cases hprocess : f.processes.get? n with
    | none => rfl
    | some p =>
        cases p with
        | dialer p =>
            have hserial := Nat.ne_of_lt (hserials n p hprocess)
            exact if_neg fun h => hserial h.2
        | _ => rfl
  have hnew : g.staff? member f.next = some (.unstaffed m.node.tag name) := by
    refine staff?_eq_some_iff.2 ⟨{ m with node := m.node.install name f.next },
      .new name m.node.settings.failureHistory, ?_, SortedMap.get?_insert_self _ _ _,
      congrArg (LoadedDatabase.staff _ m.node.tag) (funext hpost)⟩
    show (f.members.adjust member _).get? member = _
    rw [SortedMap.get?_adjust, if_pos rfl, hm]
    rfl
  refine .leaves (.loaded hg hnew hrecord) fun v hv => ?_
  let started : Fleet := ((startMissing member f.next record state).run g).2
  have hleased : Becomes member f.next started
      ((onNode member (·.lease name f.next started.uptime)).run started).2 v :=
    becomes_onNode member (fun _ => rfl) (fun _ _ _ => rfl) hv
  exact hleased.trans (becomes_log (.plain .info .databaseLoaded) hleased.staff)

/-- When the tasks of a new database are started, what runs is what should run. -/
theorem exact_startMissing (record : DatabaseRecord) (state : ClusterState) (hfresh : f.Fresh)
    (hnew : f.staff? member serial = some (.unstaffed tag name)) :
    ∃ after, Becomes member serial f ((startMissing member serial record state).run f).2 after ∧
      after.place = (tag, name, false, false) ∧
      Staff.Exact (desiredTasks state record tag) f.next (.unstaffed tag name) after := by
  obtain ⟨d, hlist, hstarted⟩ := becomes_startMissing record state hnew
  have hplan : Staff.Plan (desiredTasks state record tag) (.unstaffed tag name) []
      (d.missing (desiredTasks state record tag)) := {
    keyed := fun _ _ => id_of_get?_desiredTasks
    stale := fun id => ⟨nofun, fun ⟨_, hr, _⟩ => nomatch hr⟩
    missing := fun w => by
      rw [LoadedDatabase.mem_missing, hlist]
      rfl
    apart := LoadedDatabase.pairwise_missing fun _ _ => id_of_get?_desiredTasks }
  exact ⟨_, hstarted, Staff.place_hireAll _ _ _,
    hplan.exact (Staff.sound_unstaffed tag name) (hfresh.freeFrom hnew) (Nat.le_refl _)⟩

/-- After any sequence of calls nobody changes the tasks, what is listed works, and what runs is what
should run in the last of the states, unless the database was given up. -/
theorem Called.settled (h : Called member serial tag name states f) :
    f.Fresh ∧ ∃ v, f.staff? member serial = some v ∧ v.Settled tag name states := by
  induction h with
  | taken hfresh hnew =>
      exact ⟨hfresh, _, hnew, rfl, rfl, rfl, Staff.sound_unstaffed tag name, rfl, nofun⟩
  | @loaded f state record hfresh hnew hrecord =>
      obtain ⟨after, hafter, hplace, hexact⟩ := exact_startMissing record state hfresh hnew
      obtain ⟨htag, hname, hidle, hopen⟩ : after.tag = tag ∧ after.name = name ∧
          after.busy = false ∧ after.disposed = false := by
        simpa [Staff.place] using hplace
      refine ⟨hafter.grows.fresh hfresh, after, hafter.staff, htag, hname, hidle, hexact.sound, ?_, ?_⟩
      · simp [hopen, hrecord]
      · rintro state' record' hlast - hrecord'
        cases hlast
        cases hrecord.symm.trans hrecord'
        exact hexact.runs
  | @call states state f f' _ hworks ih =>
      obtain ⟨hfresh, v, hv, hsettled⟩ := ih
      obtain ⟨after, hafter, hfollows, htag, hname, hidle, hsound⟩ :=
        hworks.reconcile hv hsettled.idle hsettled.sound hfresh
      refine ⟨hafter.grows.fresh hfresh, after, hafter.staff, htag.trans hsettled.tag_eq,
        hname.trans hsettled.name_eq, hidle, hsound, ?_, ?_⟩
      · rw [List.any_append, ← hsettled.disposed_eq, hfollows.disposed_eq, hsettled.name_eq]
        simp
      · rintro state' record hlast hopen hrecord
        rw [List.getLast?_concat] at hlast
        cases hlast
        rw [← hsettled.name_eq] at hrecord
        rw [← hsettled.tag_eq]
        exact (hfollows.exact_of_open hopen hrecord).runs
  | leaves _ hleaves ih =>
      obtain ⟨hfresh, v, hv, hsettled⟩ := ih
      have hleft := hleaves v hv
      exact ⟨hleft.grows.fresh hfresh, v, hleft.staff, hsettled⟩

/-- A database was given up: each of its incoming connections has to close, and no call finds
anything to do. -/
structure Closed (member serial : Nat) (f : Fleet) : Prop where
  cancelled : ∀ d id, f.database? member serial = some d → d.isCancelled id = true
  done : ∀ id j state, j.member = member →
    (doChore id j (.reconcile serial state)).run f = (some [], f)

theorem closed_of_disposed (hv : f.staff? member serial = some v) (h : v.disposed = true) :
    Closed member serial f where
  cancelled d id hd := by
    obtain ⟨m, d', -, -, hd', -, -, -, hdisposed⟩ := exists_of_staff? hv
    cases hd'.symm.trans hd
    exact LoadedDatabase.isCancelled_of_disposed (hdisposed.trans h) id
  done id j state hj := by
    show (some ((reconcile j.member serial state).run f).1,
      ((reconcile j.member serial state).run f).2) = _
    rw [hj, run_reconcile state hv, h]
    rfl

/-- What a call with a state came to. -/
structure Reconciled (member serial : Nat) (state : ClusterState) (f f' : Fleet)
    (before after : Staff) : Prop where
  staff : f'.staff? member serial = some after
  follows : before.Follows state f.next after
  again : ∀ f'', Works member serial [.reconcile serial state] f' f'' →
    f''.staff? member serial = some after
  closed : after.disposed = true → Closed member serial f'

/-- **Calls are exact, minimal and idempotent.**  After any sequence of calls a database is brought in
line with any state by one more call.  The call can be done; it gives the database up if the state
does not have it, and otherwise what runs afterwards is what should run, each task under the dialer
that it had exactly if it ran so before; and one more call with the same state changes nothing. -/
theorem Called.reconciles (h : Called member serial tag name states f) (state : ClusterState) :
    ∃ before, f.staff? member serial = some before ∧ before.Settled tag name states ∧
      (∃ f', Works member serial [.reconcile serial state] f f') ∧
      ∀ f', Works member serial [.reconcile serial state] f f' →
        ∃ after, Reconciled member serial state f f' before after := by
  obtain ⟨hfresh, before, hv, hsettled⟩ := h.settled
  refine ⟨before, hv, hsettled,
    exists_works_reconcile state hfresh hv hsettled.idle hsettled.sound, fun f' hworks => ?_⟩
  obtain ⟨after, hafter, hfollows, htag, hname, hidle, hsound⟩ :=
    hworks.reconcile hv hsettled.idle hsettled.sound hfresh
  refine ⟨after, hafter.staff, hfollows, fun f'' hagain => ?_, closed_of_disposed hafter.staff⟩
  obtain ⟨after', hafter', hfollows', -⟩ :=
    hagain.reconcile hafter.staff hidle hsound (hafter.grows.fresh hfresh)
  rw [hafter'.staff, hfollows.again hfollows' htag hname]

/-- A database on one node that has a sink. -/
def sinkRecord : DatabaseRecord :=
  { DatabaseRecord.new "replica" ⟨[⟨"S"⟩]⟩ with
    sinks := [⟨"s1", "to-hub", "h1", none, .hubToSink, none, ⟨4⟩, false, none⟩]
    connectionStrings := .ofList [("to-hub", ⟨"to-hub", "catalog", ["mem://hub"]⟩)]
    etag := 4 }

/-- The state that has this database only. -/
def sinkState : ClusterState :=
  ⟨4, ⟨[⟨⟨"S"⟩, "mem://s", true⟩]⟩, .ofList [("replica", sinkRecord)]⟩

/-- A fleet in which the database was taken in by its node. -/
def takenFleet : Fleet :=
  let node := (Node.new ⟨"S"⟩ .unsecured .default).install "replica" 0
  { Fleet.empty default with members := .ofList [(0, ⟨node, 0, [], false⟩)], next := 1 }

/-- The sink runs after a call with the state, and nobody works for the database any more after a
call with a state that does not have it. -/
theorem reconciles_takenFleet :
    Called 0 0 ⟨"S"⟩ "replica" [] takenFleet ∧
    ∃ f₁ f₂ v₁ v₂, Works 0 0 [.reconcile 0 sinkState] takenFleet f₁ ∧
      Works 0 0 [.reconcile 0 .empty] f₁ f₂ ∧
      f₁.staff? 0 0 = some v₁ ∧ (v₁.outgoing.get? 4).isSome = true ∧
      f₂.staff? 0 0 = some v₂ ∧ v₂ = v₁.close := by
  have htaken : Called 0 0 ⟨"S"⟩ "replica" [] takenFleet := .taken (fun _ _ => rfl) rfl
  obtain ⟨v, hv, hsettled, ⟨f₁, hworks⟩, hall⟩ := htaken.reconciles sinkState
  obtain ⟨v₁, hfirst⟩ := hall f₁ hworks
  obtain ⟨w, hw, hsettled', ⟨f₂, hworks'⟩, hall'⟩ := (htaken.call hworks).reconciles .empty
  obtain ⟨v₂, hsecond⟩ := hall' f₂ hworks'
  obtain rfl : w = v₁ := Option.some.inj (hw.symm.trans hfirst.staff)
  have hopen : w.disposed = false := by
    rw [hsettled'.disposed_eq]
    decide +kernel
  have hruns : (w.outgoing.get? 4).isSome = true := by
    rw [← Option.isSome_map, hsettled'.runs sinkState sinkRecord rfl hopen rfl 4]
    decide +kernel
  refine ⟨htaken, f₁, f₂, w, v₂, hworks, hworks', hfirst.staff, hruns, hsecond.staff, ?_⟩
  exact hsecond.follows.missing hopen rfl

end Fleet

end HubReplication
