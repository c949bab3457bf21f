/-
**The dialers of a database in a fleet.**

The dialers of a loaded database are processes of the fleet, and the running tasks that the database
lists name them by number.  Each small change that work on tasks is made of has its counterpart on
the staff of the database, list and dialers together.

Main definitions:

* `Fleet.post`, `Fleet.staff?` — what a process works on as a dialer of a database, and the staff of
  the database;
* `Fleet.Fresh` — the numbers of new processes are free;
* `Fleet.Becomes` — the staff of a database becomes another one.

Main results:

* `Fleet.becomes_onDatabase`, `becomes_put`, `becomes_spawn`, `becomes_remove` — what the small
  changes come to;
* `Fleet.becomes_startMissing`, `becomes_stopTask`, `becomes_clear`, ... — and what work on tasks does.
-/

import HubReplication.Proofs.Fleet.Tenancy
import HubReplication.Proofs.Hosting.Reconciliation

set_option relaxedAutoImplicit false
set_option autoImplicit false

namespace HubReplication

/-- What a process works on as a dialer of a loaded database. -/
def Process.post (member serial : Nat) : Process → Option Post
  | .dialer p =>
    if p.member = member ∧ p.serial = serial then
      some ⟨p.dialer.assignment.database,
        ⟨p.dialer.assignment.task, p.dialer.assignment.connection⟩, p.cancelled⟩
    else none
  | _ => none

/-- The dialers of a loaded database of a node, where each of them is at its post. -/
def LoadedDatabase.staff (d : LoadedDatabase) (tag : NodeTag) (posts : Nat → Option Post) : Staff :=
  ⟨tag, d.name, d.outgoing, d.busy, d.disposed, posts⟩

namespace Staff

/-- A dialer is told to stop. -/
def tell (v : Staff) (dialer : Nat) : Staff :=
  { v with
    posts := fun n =>
      if n = dialer then (v.posts n).map fun p => { p with cancelled := true } else v.posts n }

theorem remove_tell (v : Staff) (dialer : Nat) : (v.tell dialer).remove dialer = v.remove dialer := by
  unfold remove tell
  congr 1
  funext n
  split
  · rfl
  · rename_i hne
    exact if_neg hne

end Staff

namespace Fleet

/-- What a process of a fleet works on as a dialer of a loaded database. -/
def post (f : Fleet) (member serial n : Nat) : Option Post :=
  (f.processes.get? n).bind (Process.post member serial)

/-- The dialers of a loaded database, as it lists them and as they are. -/
def staff? (f : Fleet) (member serial : Nat) : Option Staff :=
  (f.members.get? member).bind fun m =>
    (m.node.databases.get? serial).map fun d => d.staff m.node.tag (f.post member serial)

/-- The numbers of new processes are free. -/
def Fresh (f : Fleet) : Prop := ∀ n, f.next ≤ n → f.processes.get? n = none

/-- A fleet goes on: numbers that were given out are not given out again. -/
structure Grows (f f' : Fleet) : Prop where
  next_le : f.next ≤ f'.next
  fresh : f.Fresh → f'.Fresh

/-- A fleet goes on, and the dialers of a loaded database are then these. -/
structure Becomes (member serial : Nat) (f f' : Fleet) (v : Staff) : Prop where
  grows : Grows f f'
  staff : f'.staff? member serial = some v

variable {member serial : Nat} {f f' f'' : Fleet} {v v' : Staff}

theorem Grows.of_eq (hnext : f'.next = f.next) (hprocesses : f'.processes = f.processes) :
    Grows f f' where
  next_le := Nat.le_of_eq hnext.symm
  fresh hf n hn := by
    rw [hprocesses]
    exact hf n (hnext ▸ hn)

theorem Grows.trans (h : Grows f f') (h' : Grows f' f'') : Grows f f'' :=
  ⟨Nat.le_trans h.next_le h'.next_le, h'.fresh ∘ h.fresh⟩

theorem Becomes.refl (h : f.staff? member serial = some v) : Becomes member serial f f v :=
  ⟨.of_eq rfl rfl, h⟩

theorem Becomes.trans (h : Becomes member serial f f' v) (h' : Becomes member serial f' f'' v') :
    Becomes member serial f f'' v' :=
  ⟨h.grows.trans h'.grows, h'.staff⟩

theorem Becomes.bind {α β : Type} {x : FleetM α} {k : α → FleetM β}
    (hx : Becomes member serial f (x.run f).2 v)
    (hk : ∀ a, Becomes member serial (x.run f).2 ((k a).run (x.run f).2).2 v') :
    Becomes member serial f ((x >>= k).run f).2 v' :=
  hx.trans (hk _)

theorem staff?_eq_some_iff : f.staff? member serial = some v ↔
    ∃ m d, f.members.get? member = some m ∧ m.node.databases.get? serial = some d ∧
      d.staff m.node.tag (f.post member serial) = v := by
  unfold staff?
  rw [Option.bind_eq_some_iff]
  constructor
  · rintro ⟨m, hm, h⟩
    obtain ⟨d, hd, heq⟩ := Option.map_eq_some_iff.1 h
    exact ⟨m, d, hm, hd, heq⟩
  · rintro ⟨m, d, hm, hd, heq⟩
    exact ⟨m, hm, Option.map_eq_some_iff.2 ⟨d, hd, heq⟩⟩

theorem database?_eq_some {m : Member} {d : LoadedDatabase} (hm : f.members.get? member = some m)
    (hd : m.node.databases.get? serial = some d) : f.database? member serial = some d := by
  unfold database?
  rw [hm]
  exact hd

/-! ### Changes of a database -/

theorem becomes_log (entry : LogEntry) (h : f.staff? member serial = some v) :
    Becomes member serial f ((log entry).run f).2 v :=
  ⟨.of_eq rfl rfl, h⟩

theorem becomes_logAll (entries : List LogEntry) (h : f.staff? member serial = some v) :
    Becomes member serial f ((logAll entries).run f).2 v :=
  ⟨.of_eq rfl rfl, h⟩

/-- A change of a node that is no matter of who works on it. -/
theorem becomes_onNode (other : Nat) {g : Node → Node} (htag : ∀ n, (g n).tag = n.tag)
    (hstaff : ∀ n tag posts, ((g n).databases.get? serial).map (·.staff tag posts) =
      (n.databases.get? serial).map (·.staff tag posts))
    (h : f.staff? member serial = some v) :
    Becomes member serial f ((onNode other g).run f).2 v := by
  refine ⟨.of_eq rfl rfl, Eq.trans ?_ h⟩
  show ((f.members.adjust other _).get? member).bind _ = _
  rw [SortedMap.get?_adjust]
  split
  · rename_i heq
    subst heq
    unfold staff?
    rw [Option.bind_map]
    refine congrArg (Option.bind _) (funext fun m => ?_)
    exact (hstaff m.node _ _).trans (by rw [htag]; rfl)
  · rfl

/-- A change of a loaded database changes its staff. -/
theorem becomes_onDatabase {g : LoadedDatabase → LoadedDatabase}
    (hg : ∀ d, f.database? member serial = some d → d.staff v.tag v.posts = v →
      (g d).staff v.tag v.posts = v')
    (h : f.staff? member serial = some v) :
    Becomes member serial f ((onDatabase member serial g).run f).2 v' := by
  obtain ⟨m, d, hm, hd, rfl⟩ := staff?_eq_some_iff.1 h
  refine ⟨.of_eq rfl rfl, staff?_eq_some_iff.2 ⟨{ m with node := m.node.onDatabase serial g }, g d,
    ?_, ?_, hg d (database?_eq_some hm hd) rfl⟩⟩
  · show (f.members.adjust member _).get? member = _
    rw [SortedMap.get?_adjust, if_pos rfl, hm]
    rfl
  · show (m.node.databases.adjust serial g).get? serial = some (g d)
    rw [SortedMap.get?_adjust, if_pos rfl, hd]
    rfl

/-- A change that does to the staff of any database what it does to the database. -/
theorem becomes_change {g : LoadedDatabase → LoadedDatabase} (change : Staff → Staff)
    (hg : ∀ d tag posts, (g d).staff tag posts = change (d.staff tag posts))
    (h : f.staff? member serial = some v) :
    Becomes member serial f ((onDatabase member serial g).run f).2 (change v) :=
  becomes_onDatabase (fun d _ hd => (hg d v.tag v.posts).trans (congrArg change hd)) h

/-- A database is given up. -/
theorem becomes_disposed (h : f.staff? member serial = some v) :
    Becomes member serial f
      ((onDatabase member serial fun d => { d with disposed := true }).run f).2
      { v with disposed := true } :=
  becomes_change (fun v => { v with disposed := true }) (fun _ _ _ => rfl) h

/-! ### Changes of a process -/

theorem post_put (id : Nat) (p : Process) (f : Fleet) (n : Nat) :
    ((put id p).run f).2.post member serial n =
      if n = id then p.post member serial else f.post member serial n := by
  show ((f.processes.insert id p).get? n).bind _ = _
  split
  · rename_i heq
    rw [heq, SortedMap.get?_insert_self]
    rfl
  · rename_i hne
    rw [SortedMap.get?_insert_of_ne _ _ hne]
    rfl

theorem post_remove (id : Nat) (f : Fleet) (n : Nat) :
    ((remove id).run f).2.post member serial n =
      if n = id then none else f.post member serial n := by
  show ((f.processes.erase id).get? n).bind _ = _
  split
  · rename_i heq
    rw [heq, SortedMap.get?_erase_self]
    rfl
  · rename_i hne
    rw [SortedMap.get?_erase_of_ne _ hne]
    rfl

theorem post_of_staff? (h : f.staff? member serial = some v) (n : Nat) :
    f.post member serial n = v.posts n := by
  obtain ⟨m, d, -, -, rfl⟩ := staff?_eq_some_iff.1 h
  rfl

/-- A change of processes only changes who is at which post. -/
theorem staff?_of_post {posts : Nat → Option Post} (hmembers : f'.members = f.members)
    (hpost : ∀ n, f'.post member serial n = posts n) (h : f.staff? member serial = some v) :
    f'.staff? member serial = some { v with posts } := by
  obtain ⟨m, d, hm, hd, rfl⟩ := staff?_eq_some_iff.1 h
  exact staff?_eq_some_iff.2
    ⟨m, d, by rw [hmembers, hm], hd, congrArg (d.staff m.node.tag) (funext hpost)⟩

/-- A process that is there already changes. -/
theorem grows_put {id : Nat} {p q : Process} (h : f.processes.get? id = some q) :
    Grows f ((put id p).run f).2 where
  next_le := Nat.le_refl _
  fresh hf n hn := by
    show (f.processes.insert id p).get? n = none
    have hne : n ≠ id := by
      rintro rfl
      rw [hf n hn] at h
      cases h
    rw [SortedMap.get?_insert_of_ne _ _ hne]
    exact hf n hn

/-- A process changes, and its post with it. -/
theorem becomes_put {id : Nat} {p q : Process} {posts : Nat → Option Post}
    (hq : f.processes.get? id = some q) (hself : p.post member serial = posts id)
    (hother : ∀ n, n ≠ id → v.posts n = posts n) (h : f.staff? member serial = some v) :
    Becomes member serial f ((put id p).run f).2 { v with posts } := by
  refine ⟨grows_put hq, staff?_of_post (by rfl) (fun n => (post_put id p f n).trans ?_) h⟩
  split
  · rename_i heq
    rw [heq, hself]
  · rename_i hne
    rw [post_of_staff? h, hother n hne]

/-- A process that keeps its post leaves the staff alone. -/
theorem becomes_put_of_post_eq {id : Nat} {p q : Process} (hq : f.processes.get? id = some q)
    (hpost : p.post member serial = q.post member serial) (h : f.staff? member serial = some v) :
    Becomes member serial f ((put id p).run f).2 v := by
  refine becomes_put hq ?_ (fun _ _ => rfl) h
  rw [hpost, ← post_of_staff? h, post, hq]
  rfl

/-- A process ends. -/
theorem becomes_remove (id : Nat) (h : f.staff? member serial = some v) :
    Becomes member serial f ((remove id).run f).2 (v.remove id) where
  grows :=
    { next_le := Nat.le_refl _
      fresh := fun hf n hn => by
        show (f.processes.erase id).get? n = none
        by_cases heq : n = id
        · rw [heq, SortedMap.get?_erase_self]
        · rw [SortedMap.get?_erase_of_ne _ heq]
          exact hf n hn }
  staff := by
    refine staff?_of_post (by rfl) (fun n => (post_remove id f n).trans ?_) h
    rw [post_of_staff? h]

/-- A dialer is told to stop, if there is one of the number. -/
theorem becomes_cancelDialer (id : Nat) (h : f.staff? member serial = some v) :
    Becomes member serial f ((cancelDialer id).run f).2 (v.tell id) := by
  unfold cancelDialer
  rw [run_get_bind]
  split
  · rename_i p hp
    refine becomes_put hp ?_ (fun n hne => (if_neg hne).symm) h
    rw [if_pos rfl, ← post_of_staff? h, post, hp]
    simp only [Option.bind_some, Process.post]
    split <;> rfl
  · rename_i hno
    -- The process of the number is no dialer, so nobody is told.
    have hnone : v.posts id = none := by
      rw [← post_of_staff? h]
      unfold post
      cases hprocess : f.processes.get? id with
      | none => rfl
      | some p =>
          cases p with
          | dialer p => exact absurd hprocess (hno p)
          | _ => rfl
    have htell : v.tell id = v := by
      unfold Staff.tell
      congr 1
      funext n
      split
      · rename_i heq
        rw [heq, hnone]
        rfl
      · rfl
    rw [htell]
    exact .refl h

/-! ### Work on tasks -/

theorem becomes_spawn (p : Process) (h : f.staff? member serial = some v) :
    Becomes member serial f ((spawn p).run f).2
      { v with posts := fun n => if n = f.next then p.post member serial else v.posts n } where
  grows :=
    { next_le := Nat.le_succ f.next
      fresh := fun hf n hn => by
        have hn : f.next < n := hn
        show (f.processes.insert f.next p).get? n = none
        rw [SortedMap.get?_insert_of_ne _ _ (Nat.ne_of_gt hn)]
        exact hf n (Nat.le_of_lt hn) }
  staff := by
    refine staff?_of_post (by rfl) (fun n => (post_put f.next p f n).trans ?_) h
    rw [post_of_staff? h]

/-- A dialer is hired under the next number. -/
theorem becomes_startTask (node : Node) (w : DialingTask) (h : f.staff? member serial = some v) :
    Becomes member serial f ((startTask member serial node v.name w).run f).2 (v.hire f.next w) := by
  have hspawn := becomes_spawn (.dialer ⟨member, serial, .new
    { node := node.tag, security := node.security, settings := node.settings, database := v.name
      task := w.task, connection := w.connection }, .initial, false, []⟩)
    (becomes_log (.plain .info .taskStarted) h).staff
  refine (becomes_log (.plain .info .taskStarted) h).trans (hspawn.trans ?_)
  have hlisted := becomes_change (g := (·.start w f.next))
    (fun v => { v with outgoing := v.outgoing.insert w.id ⟨w, f.next⟩ }) (fun _ _ _ => rfl)
    hspawn.staff
  simp only [Process.post, and_self, if_true] at hlisted
  exact hlisted

/-- Dialers are hired one after another. -/
theorem becomes_startTasks (node : Node) (works : List DialingTask)
    (h : f.staff? member serial = some v) :
    Becomes member serial f
      ((forIn works PUnit.unit fun w _ => do
        startTask member serial node v.name w
        pure (.yield PUnit.unit) : FleetM PUnit).run f).2 (v.hireAll f.next works) := by
  induction works generalizing f v with
  | nil => exact .refl h
  | cons w rest ih =>
      rw [List.forIn_cons]
      have hstart := becomes_startTask node w h
      exact hstart.trans (ih hstart.staff)

/-- A loaded database, its node, and that its staff lists its tasks. -/
theorem exists_of_staff? (h : f.staff? member serial = some v) :
    ∃ m d, f.members.get? member = some m ∧ m.node.tag = v.tag ∧
      f.database? member serial = some d ∧ d.name = v.name ∧ d.outgoing = v.outgoing ∧
      d.busy = v.busy ∧ d.disposed = v.disposed := by
  obtain ⟨m, d, hm, hd, rfl⟩ := staff?_eq_some_iff.1 h
  exact ⟨m, d, hm, rfl, database?_eq_some hm hd, rfl, rfl, rfl, rfl⟩

/-- The tasks that should run and do not are started. -/
theorem becomes_startMissing (record : DatabaseRecord) (state : ClusterState)
    (h : f.staff? member serial = some v) :
    ∃ d : LoadedDatabase, d.outgoing = v.outgoing ∧
      Becomes member serial f ((startMissing member serial record state).run f).2
        (v.hireAll f.next (d.missing (desiredTasks state record v.tag))) := by
  obtain ⟨m, d, hm, htag, hd, hname, hout, -, -⟩ := exists_of_staff? h
  refine ⟨d, hout, ?_⟩
  unfold startMissing
  rw [run_get_bind]
  simp only [hm, hd, htag, hname]
  exact becomes_startTasks m.node _ h

/-- The tasks that have to stop are found. -/
theorem run_stopStale (record : DatabaseRecord) (state : ClusterState)
    (h : f.staff? member serial = some v) :
    ∃ d : LoadedDatabase, d.outgoing = v.outgoing ∧
      (stopStale member serial record state).run f =
        ((d.stale (desiredTasks state record v.tag)).map (.stopTask serial), f) := by
  obtain ⟨m, d, hm, htag, hd, -, hout, -, -⟩ := exists_of_staff? h
  refine ⟨d, hout, ?_⟩
  unfold stopStale
  rw [run_get_bind]
  simp only [hm, hd, htag]
  rfl

theorem run_stopTask_of_none {task : Nat} (hnone : v.outgoing.get? task = none)
    (h : f.staff? member serial = some v) : (stopTask member serial task).run f = ([], f) := by
  obtain ⟨m, d, -, -, hd, -, hout, -, -⟩ := exists_of_staff? h
  unfold stopTask
  rw [run_get_bind]
  simp only [hd, Option.bind_some, hout, hnone]
  rfl

/-- A task is taken off the list, and its dialer has to stop. -/
theorem becomes_stopTask {task : Nat} {r : RunningTask} (hr : v.outgoing.get? task = some r)
    (h : f.staff? member serial = some v) :
    ((stopTask member serial task).run f).1 = [.stopDialer r.dialer] ∧
      Becomes member serial f ((stopTask member serial task).run f).2
        { v with outgoing := v.outgoing.erase task } := by
  obtain ⟨m, d, -, -, hd, -, hout, -, -⟩ := exists_of_staff? h
  unfold stopTask
  rw [run_get_bind]
  simp only [hd, Option.bind_some, hout, hr]
  exact ⟨rfl, becomes_change (fun v => { v with outgoing := v.outgoing.erase task })
    (fun _ _ _ => rfl) h⟩

theorem becomes_occupy (hidle : v.busy = false) (h : f.staff? member serial = some v) :
    ((occupy member serial).run f).1 = true ∧
      Becomes member serial f ((occupy member serial).run f).2 { v with busy := true } := by
  obtain ⟨m, d, -, -, hd, -, -, hbusy, -⟩ := exists_of_staff? h
  unfold occupy
  rw [run_get_bind]
  simp only [hd, hbusy, hidle]
  exact ⟨rfl, becomes_change (fun v => { v with busy := true }) (fun _ _ _ => rfl) h⟩

/-- The list is emptied, and every dialer on it has to stop. -/
theorem becomes_clear (h : f.staff? member serial = some v) :
    ((clear member serial).run f).1 = v.outgoing.values.map (.stopDialer ·.dialer) ∧
      Becomes member serial f ((clear member serial).run f).2
        { v with outgoing := .empty, busy := false } := by
  obtain ⟨m, d, -, -, hd, -, hout, -, -⟩ := exists_of_staff? h
  unfold clear
  rw [run_get_bind]
  simp only [hd, ← hout]
  exact ⟨rfl, becomes_change (fun v => { v with outgoing := .empty, busy := false })
    (fun _ _ _ => rfl) h⟩

/-- Taking their place from incoming connections leaves the dialers alone. -/
theorem becomes_revoke (record : DatabaseRecord) (h : f.staff? member serial = some v) :
    Becomes member serial f ((revoke member serial record).run f).2 v := by
  obtain ⟨m, d, -, -, hd, -, -, -, -⟩ := exists_of_staff? h
  unfold revoke
  rw [run_get_bind]
  simp only [hd]
  have hrevoked : Becomes member serial f
      ((onDatabase member serial fun _ => (d.revoke record).1).run f).2 v := by
    refine becomes_onDatabase (fun d' hd' hstaff => ?_) h
    cases hd.symm.trans hd'
    exact hstaff
  exact hrevoked.trans (becomes_logAll _ hrevoked.staff)

/-- What a database has to go through to be brought in line with a state. -/
theorem run_reconcile (state : ClusterState) (h : f.staff? member serial = some v) :
    (reconcile member serial state).run f =
      (if v.disposed then []
        else match state.database? v.name with
          | none => [.dispose serial]
          | some record =>
            [.occupy serial, .stopStale serial record state, .startMissing serial record state,
              .vacate serial, .revoke serial record], f) := by
  obtain ⟨m, d, -, -, hd, hname, -, -, hdisposed⟩ := exists_of_staff? h
  unfold reconcile
  rw [run_get_bind]
  simp only [hd, hname, hdisposed]
  split
  · rfl
  · cases state.database? v.name <;> rfl

end Fleet

end HubReplication
