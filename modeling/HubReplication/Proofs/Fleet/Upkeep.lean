/-
**Databases with dialing tasks between sweeps.**

A sync loads every database that has dialing tasks to run on the node, and a sweep unloads what was
not asked for in a while and has no connection.  A dialing task asks for nothing while it waits to
dial again, and has no connection then, so whether its database stays loaded depends on who else
asks for it: the next sync, or somebody who loads it.

Main definitions:

* `Call`, `Performs` — what happens on a node, and what it does to a fleet;
* `History` — what happened on a node, the latest first;
* `KeepsDialing` — a sweep left every database with dialing tasks loaded;
* `AllInUse` — each of them had a connection, or was asked for lately.

Main results:

* `Accounted.step` — the node knows when each loaded database was last asked for;
* `keeps_dialing_iff` — dialing tasks keep their databases through every sweep exactly where these
  databases are in use at every sweep;
* `exists_not_allInUse` — after a pause those that have no connection are not.
-/

import HubReplication.Proofs.Fleet.Chores
import HubReplication.Proofs.Fleet.Stopping

set_option relaxedAutoImplicit false
set_option autoImplicit false

namespace HubReplication.Fleet

/-- What happens on a node, as far as its loaded databases are concerned. -/
inductive Call where
  /-- The state that the node follows becomes another one. -/
  | commit (state : ClusterState)
  /-- The node syncs with the state that it follows. -/
  | sync (state : ClusterState)
  | load (name : String)
  /-- A connection of a database comes. -/
  | enter (name : String)
  /-- A connection of a database goes. -/
  | leave (name : String)
  | pass (ms : Nat)
  /-- The node unloads what is unused at a time. -/
  | sweep (now : Nat)
  /-- Something that leaves the tenancy of the node alone. -/
  | other

/-- What happens on a node, between a fleet and the one afterwards. -/
inductive Performs (member : Nat) : Call → Fleet → Fleet → Prop
  | commit {f f' : Fleet} (state : ClusterState)
      (h : f'.tenancy? member = (f.tenancy? member).map ({ · with state })) :
      Performs member (.commit state) f f'
  | sync {f f' : Fleet} {m : Member} (hm : f.members.get? member = some m)
      (h : Done member [.sync (f.stateOf m)] f f') : Performs member (.sync (f.stateOf m)) f f'
  | load (f : Fleet) (name : String) :
      Performs member (.load name) f ((Fleet.load member name).run f).2
  | enter {f f' : Fleet} (name : String)
      (h : f'.tenancy? member =
        (f.tenancy? member).map fun t => { t with activity := t.activity.enter name }) :
      Performs member (.enter name) f f'
  | leave {f f' : Fleet} (name : String)
      (h : f'.tenancy? member =
        (f.tenancy? member).map fun t => { t with activity := t.activity.leave name }) :
      Performs member (.leave name) f f'
  | pass {f f' : Fleet} (ms : Nat)
      (h : f'.tenancy? member =
        (f.tenancy? member).map fun t => { t with uptime := t.uptime + ms }) :
      Performs member (.pass ms) f f'
  | sweep {f f' : Fleet} (now : Nat) (h : Done member [.unloadUnused now] f f') :
      Performs member (.sweep now) f f'
  | other {f f' : Fleet} (h : f'.tenancy? member = f.tenancy? member) :
      Performs member .other f f'

/-- Something that happened on a node, with the fleet before and after. -/
structure Turn where
  before : Fleet
  call : Call
  after : Fleet

/-- What happened on a node since it had loaded nothing, the latest first. -/
inductive History (member : Nat) : List Turn → Fleet → Prop
  | start {f : Fleet} {m : Member} (hm : f.members.get? member = some m)
      (hnone : m.node.leases = .empty) : History member [] f
  | turn {past : List Turn} {f f' : Fleet} {c : Call} (h : History member past f)
      (hcall : Performs member c f f') : History member (⟨f, c, f'⟩ :: past) f'

/-- The state that a node synced with last. -/
def synced : List Turn → ClusterState
  | [] => .empty
  | ⟨_, .sync state, _⟩ :: _ => state
  | _ :: past => synced past

/-- Whether something asks for a database that the node hosts. -/
def Turn.Asks (member : Nat) (s : Turn) (name : String) : Prop :=
  ∃ m, s.before.members.get? member = some m ∧
    match s.call with
    | .sync state => name ∈ m.node.dialing state
    | .load other => other = name ∧ m.node.checkHosted (s.before.stateOf m) name = .ok ()
    | _ => False

/-- Something holds of everything that happened and of what happened before it. -/
def Throughout (p : Turn → List Turn → Prop) : List Turn → Prop
  | [] => True
  | s :: past => p s past ∧ Throughout p past

/-- If a sweep happened, every database that had dialing tasks to run on the node, by the state it
synced with last, was still loaded afterwards. -/
def KeepsDialing (member : Nat) (s : Turn) (past : List Turn) : Prop :=
  ∀ now m m', s.call = .sweep now → s.before.members.get? member = some m →
    s.after.members.get? member = some m' → ∀ name ∈ m.node.dialing (synced past),
      name ∈ m'.node.loaded

/-- If a sweep happened, every such database had a connection then, or was asked for less long ago
than it takes for it to be unused. -/
def AllInUse (member : Nat) (s : Turn) (past : List Turn) : Prop :=
  ∀ now m, s.call = .sweep now → s.before.members.get? member = some m →
    ∀ name ∈ m.node.dialing (synced past),
      m.node.mayUnload name = false ∨
        ∃ a ∈ past, a.Asks member name ∧ now - a.before.uptime < m.node.settings.idleUnloadAfter

variable {member : Nat} {f f' : Fleet} {t t' : Tenancy} {c : Call} {name : String}
  {past : List Turn}

/-! ### What happens to tenancies -/

theorem hosts_of_mem_dialingOn {tag : NodeTag} {state : ClusterState}
    (h : name ∈ dialingOn tag state) : state.hosts tag name = true := by
  obtain ⟨⟨k, record⟩, hmem, rfl⟩ := List.mem_map.1 h
  obtain ⟨hmem, hruns⟩ := List.mem_filter.1 hmem
  rw [Bool.and_eq_true] at hruns
  have hget : state.database? k = some record := SortedMap.get?_eq_some_iff.2 hmem
  simp only [ClusterState.hosts, hget]
  exact hruns.1

/-- Asking for databases one after another. -/
theorem foldl_ask (names : List String) (t : Tenancy) :
    names.foldl Tenancy.ask t = { t with
      lastUsed := fun name =>
        if name ∈ names ∧ t.state.hosts t.tag name = true then some t.uptime
        else t.lastUsed name } := by
  induction names generalizing t with
  | nil => simp
  | cons first rest ih =>
      rw [List.foldl_cons, ih]
      unfold Tenancy.ask
      congr 1
      funext name
      by_cases hfirst : name = first
      · subst hfirst
        cases t.state.hosts t.tag name <;> simp
      · simp [hfirst]

theorem asks_iff {s : Turn} (ht : s.before.tenancy? member = some t) :
    s.Asks member name ↔
      match s.call with
      | .sync state => name ∈ dialingOn t.tag state
      | .load other => other = name ∧ t.state.hosts t.tag name = true
      | _ => False := by
  obtain ⟨m, hm, rfl⟩ := exists_member ht
  unfold Turn.Asks
  simp only [hm, Option.some_inj, exists_eq_left', checkHosted_eq_ok_iff]
  rfl

/-- What something that happened did to what is known of loaded databases. -/
structure Follows (member : Nat) (s : Turn) (t t' : Tenancy) : Prop where
  tag_eq : t'.tag = t.tag
  settings_eq : t'.settings = t.settings
  uptime_le : t.uptime ≤ t'.uptime
  asked : ∀ {name}, s.Asks member name → t'.lastUsed name = some t.uptime
  not_asked : ∀ {name}, ¬s.Asks member name →
    t'.lastUsed name = none ∨ t'.lastUsed name = t.lastUsed name
  /-- Only syncs and sweeps drop databases. -/
  kept : (∀ state, s.call ≠ .sync state) → (∀ now, s.call ≠ .sweep now) →
    ∀ {name}, t.lastUsed name ≠ none → t'.lastUsed name ≠ none

/-- Something that asks for nothing and drops nothing. -/
theorem Follows.of_eq {s : Turn} (hbefore : s.before.tenancy? member = some t)
    (htag : t'.tag = t.tag) (hsettings : t'.settings = t.settings) (huptime : t.uptime ≤ t'.uptime)
    (hused : t'.lastUsed = t.lastUsed) (hsync : ∀ state, s.call ≠ .sync state)
    (hload : ∀ name, s.call ≠ .load name) : Follows member s t t' := by
  refine ⟨htag, hsettings, huptime, fun {name} hasks => ?_, fun _ => .inr (by rw [hused]),
    fun _ _ _ h => by rwa [hused]⟩
  rw [asks_iff hbefore] at hasks
  split at hasks
  · exact absurd ‹_› (hsync _)
  · exact absurd ‹_› (hload _)
  · exact hasks.elim

theorem follows_of_performs (h : Performs member c f f') (ht : f.tenancy? member = some t) :
    ∃ t', f'.tenancy? member = some t' ∧ Follows member ⟨f, c, f'⟩ t t' := by
  cases h with
  | commit state h =>
      rw [ht] at h
      exact ⟨_, h, .of_eq ht rfl rfl (Nat.le_refl _) rfl (by simp) (by simp)⟩
  | enter name h =>
      rw [ht] at h
      exact ⟨_, h, .of_eq ht rfl rfl (Nat.le_refl _) rfl (by simp) (by simp)⟩
  | leave name h =>
      rw [ht] at h
      exact ⟨_, h, .of_eq ht rfl rfl (Nat.le_refl _) rfl (by simp) (by simp)⟩
  | pass ms h =>
      rw [ht] at h
      exact ⟨_, h, .of_eq ht rfl rfl (Nat.le_add_right _ _) rfl (by simp) (by simp)⟩
  | other h => exact ⟨t, h.trans ht, .of_eq ht rfl rfl (Nat.le_refl _) rfl (by simp) (by simp)⟩
  | load _ name =>
      refine ⟨_, does_load name f t ht, rfl, rfl, Nat.le_refl _, ?_, ?_, ?_⟩
      · intro other hasks
        obtain ⟨rfl, hhosts⟩ := (asks_iff ht).1 hasks
        exact if_pos ⟨rfl, hhosts⟩
      · intro other hasks
        rw [asks_iff ht] at hasks
        refine .inr (if_neg ?_)
        rintro ⟨rfl, hhosts⟩
        exact hasks ⟨rfl, hhosts⟩
      · intro _ _ other hused
        unfold Tenancy.ask
        simp only
        split
        · exact Option.some_ne_none _
        · exact hused
  | sync hm h =>
      -- A sync drops what is stale before it asks for what has to dial.
      obtain ⟨kept, hkept⟩ := h.sync ht
      rw [foldl_ask] at hkept
      refine ⟨_, hkept, rfl, rfl, Nat.le_refl _, ?_, ?_, fun hsync _ => absurd rfl (hsync _)⟩
      · intro name hasks
        have hmem := (asks_iff ht).1 hasks
        obtain ⟨m, hm', rfl⟩ := exists_member ht
        cases hm.symm.trans hm'
        exact if_pos ⟨hmem, hosts_of_mem_dialingOn hmem⟩
      · intro name hasks
        rw [asks_iff ht] at hasks
        simp only
        rw [if_neg fun h => hasks h.1]
        unfold Tenancy.keep
        simp only
        split
        · exact .inr rfl
        · exact .inl rfl
  | sweep now h =>
      refine ⟨_, h.sweep ht, rfl, rfl, Nat.le_refl _, ?_, ?_,
        fun _ hsweep => absurd rfl (hsweep now)⟩
      · intro name hasks
        exact ((asks_iff ht).1 hasks).elim
      · intro name _
        unfold Tenancy.sweep Tenancy.keep
        simp only
        split
        · exact .inr rfl
        · exact .inl rfl

/-! ### What a node knows of the past -/

/-- A node knows when each loaded database was last asked for. -/
structure Accounted (member : Nat) (past : List Turn) (t : Tenancy) : Prop where
  before : ∀ {a}, a ∈ past → a.before.uptime ≤ t.uptime
  asked : ∀ {name used}, t.lastUsed name = some used →
    ∃ a ∈ past, a.Asks member name ∧ a.before.uptime = used
  latest : ∀ {name used a}, t.lastUsed name = some used → a ∈ past → a.Asks member name →
    a.before.uptime ≤ used

theorem Accounted.step {s : Turn} (h : Accounted member past t)
    (ht : s.before.tenancy? member = some t) (hs : Follows member s t t') :
    Accounted member (s :: past) t' := by
  have huptime : s.before.uptime = t.uptime := by
    obtain ⟨m, hm, rfl⟩ := exists_member ht
    rfl
  refine ⟨fun ha => ?_, fun {name used} hused => ?_, fun {name used a} hused ha hasks => ?_⟩
  · rcases List.mem_cons.1 ha with rfl | ha
    · exact huptime ▸ hs.uptime_le
    · exact Nat.le_trans (h.before ha) hs.uptime_le
  · by_cases hasks : s.Asks member name
    · rw [hs.asked hasks] at hused
      exact ⟨s, List.mem_cons_self, hasks, huptime.trans (Option.some_inj.1 hused)⟩
    · rcases hs.not_asked hasks with hnone | hsame
      · rw [hnone] at hused
        cases hused
      · obtain ⟨a, ha, hasked⟩ := h.asked (hsame.symm.trans hused)
        exact ⟨a, List.mem_cons_of_mem _ ha, hasked⟩
  · by_cases hnow : s.Asks member name
    · rw [hs.asked hnow, Option.some_inj] at hused
      rcases List.mem_cons.1 ha with rfl | ha
      · omega
      · exact hused ▸ h.before ha
    · rcases hs.not_asked hnow with hnone | hsame
      · rw [hnone] at hused
        cases hused
      · rcases List.mem_cons.1 ha with rfl | ha
        · exact absurd hasks hnow
        · exact h.latest (hsame.symm.trans hused) ha hasks

theorem History.accounted (h : History member past f) :
    ∃ t, f.tenancy? member = some t ∧ Accounted member past t := by
  induction h with
  | @start f m hm hnone =>
      refine ⟨_, congrArg (Option.map _) hm, ?_⟩
      exact {
        before := fun ha => by cases ha
        asked := fun hused => by simp [tenancyOf, Node.lastUsed, hnone] at hused
        latest := fun _ ha => by cases ha }
  | turn _ hcall ih =>
      obtain ⟨t, ht, haccounted⟩ := ih
      obtain ⟨t', ht', hs⟩ := follows_of_performs hcall ht
      exact ⟨t', ht', haccounted.step ht hs⟩

theorem synced_cons {s : Turn} (h : ∀ state, s.call ≠ .sync state) :
    synced (s :: past) = synced past := by
  obtain ⟨before, c, after⟩ := s
  cases c with
  | sync state => exact absurd rfl (h state)
  | _ => rfl

/-- As long as sweeps keep them, the databases with dialing tasks are loaded. -/
theorem History.loaded (h : History member past f) (ht : f.tenancy? member = some t)
    (hkeeps : Throughout (KeepsDialing member) past) (hname : name ∈ dialingOn t.tag (synced past)) :
    t.lastUsed name ≠ none := by
  induction h generalizing t with
  | start _ _ => cases hname
  | @turn past f f' c hpast hcall ih =>
      obtain ⟨t₀, ht₀, haccounted⟩ := hpast.accounted
      obtain ⟨t', ht', hs⟩ := follows_of_performs hcall ht₀
      obtain rfl : t' = t := Option.some_inj.1 (ht'.symm.trans ht)
      rw [hs.tag_eq] at hname
      by_cases hsync : ∃ state, c = .sync state
      · obtain ⟨state, rfl⟩ := hsync
        rw [hs.asked ((asks_iff ht₀).2 hname)]
        exact Option.some_ne_none _
      · rw [synced_cons fun state h => hsync ⟨state, h⟩] at hname
        by_cases hsweep : ∃ now, c = .sweep now
        · obtain ⟨now, rfl⟩ := hsweep
          obtain ⟨m, hm, rfl⟩ := exists_member ht₀
          obtain ⟨m', hm', rfl⟩ := exists_member ht
          exact mem_loaded_iff.1 (hkeeps.1 now m m' rfl hm hm' name hname)
        · exact hs.kept (fun state h => hsync ⟨state, h⟩) (fun now h => hsweep ⟨now, h⟩)
            (ih ht₀ hkeeps.2 hname)

/-- A sweep keeps a database that is loaded exactly where it is in use. -/
theorem sweep_keeps_iff {now : Nat} (haccounted : Accounted member past t)
    (hloaded : t.lastUsed name ≠ none) :
    (t.sweep now).lastUsed name ≠ none ↔ t.activity.canUnload name = false ∨
      ∃ a ∈ past, a.Asks member name ∧ now - a.before.uptime < t.settings.idleUnloadAfter := by
  obtain ⟨used, hused⟩ := Option.ne_none_iff_exists'.1 hloaded
  have hsweep : (t.sweep now).lastUsed name ≠ none ↔
      t.activity.canUnload name = false ∨ now - used < t.settings.idleUnloadAfter := by
    unfold Tenancy.sweep Tenancy.keep Tenancy.isUnused
    simp only [hused, Option.any_some]
    cases t.activity.canUnload name <;> simp
  rw [hsweep]
  refine or_congr Iff.rfl ⟨fun hlt => ?_, fun ⟨a, ha, hasks, hlt⟩ => ?_⟩
  · obtain ⟨a, ha, hasks, rfl⟩ := haccounted.asked hused
    exact ⟨a, ha, hasks, hlt⟩
  · have hle := haccounted.latest hused ha hasks
    omega

/-- A sweep keeps the databases with dialing tasks exactly where they are in use. -/
theorem keepsDialing_iff_allInUse (hcall : Performs member c f f') (ht : f.tenancy? member = some t)
    (haccounted : Accounted member past t)
    (hloaded : ∀ {name}, name ∈ dialingOn t.tag (synced past) → t.lastUsed name ≠ none) :
    KeepsDialing member ⟨f, c, f'⟩ past ↔ AllInUse member ⟨f, c, f'⟩ past := by
  obtain ⟨m, hm, rfl⟩ := exists_member ht
  constructor
  · intro hkeeps now m₁ hnow hm₁ name hname
    cases hm.symm.trans hm₁
    cases hnow
    cases hcall with
    | sweep _ hdone =>
        obtain ⟨m', hm', heq⟩ := exists_member (hdone.sweep ht)
        have hused := congrFun (congrArg Tenancy.lastUsed heq) name
        refine (sweep_keeps_iff haccounted (hloaded hname)).1 ?_
        rw [hused]
        exact mem_loaded_iff.1 (hkeeps now m m' rfl hm hm' name hname)
  · intro huse now m₁ m' hnow hm₁ hm' name hname
    cases hm.symm.trans hm₁
    cases hnow
    cases hcall with
    | sweep _ hdone =>
        obtain ⟨m₂, hm₂, heq⟩ := exists_member (hdone.sweep ht)
        cases hm'.symm.trans hm₂
        have hused := congrFun (congrArg Tenancy.lastUsed heq) name
        have hkept := (sweep_keeps_iff haccounted (hloaded hname)).2 (huse now m rfl hm name hname)
        rw [hused] at hkept
        exact mem_loaded_iff.2 hkept

/-- Every sweep leaves the databases loaded that have dialing tasks to run on the node, exactly where
at every sweep each of them has a connection or was asked for, by a sync or otherwise, less long ago
than it takes for it to be unused. -/
theorem keeps_dialing_iff (h : History member past f) :
    Throughout (KeepsDialing member) past ↔ Throughout (AllInUse member) past := by
  induction h with
  | start hm hnone => exact Iff.rfl
  | turn hpast hcall ih =>
      -- What dials was loaded by the last sync, and stayed so only if earlier sweeps left it loaded.
      obtain ⟨t, ht, haccounted⟩ := hpast.accounted
      constructor
      · rintro ⟨hkeeps, hearlier⟩
        exact ⟨(keepsDialing_iff_allInUse hcall ht haccounted (hpast.loaded ht hearlier)).1 hkeeps,
          ih.1 hearlier⟩
      · rintro ⟨huse, hearlier⟩
        have hkept := ih.2 hearlier
        exact ⟨(keepsDialing_iff_allInUse hcall ht haccounted (hpast.loaded ht hkept)).2 huse, hkept⟩

/-! ### A task that waits to dial again -/

/-- A pause after a sync after which what was loaded by it is unused. -/
def pausedAfter (f : Fleet) (n : Node) : Fleet :=
  { f with uptime := f.uptime + n.settings.idleUnloadAfter }

/-- A database with dialing tasks that has no connection is not in use any more when a node sweeps
after such a pause, however the sync and the sweep fell out. -/
theorem exists_not_allInUse {m : Member} {f₁ f₂ : Fleet} (hm : f.members.get? member = some m)
    (hnone : m.node.leases = .empty) (hname : name ∈ m.node.dialing (f.stateOf m))
    (hmay : m.node.mayUnload name = true) (hsync : Done member [.sync (f.stateOf m)] f f₁)
    (hsweep : Done member [.unloadUnused (pausedAfter f₁ m.node).uptime] (pausedAfter f₁ m.node) f₂) :
    ∃ past, History member past f₂ ∧ ¬Throughout (AllInUse member) past := by
  have ht : f.tenancy? member = some (tenancyOf m.node (f.stateOf m) f.uptime) :=
    congrArg (Option.map _) hm
  obtain ⟨kept, ht₁⟩ := hsync.sync ht
  rw [foldl_ask] at ht₁
  obtain ⟨m₁, hm₁, heq⟩ := exists_member ht₁
  have huptime : f.uptime = f₁.uptime := congrArg Tenancy.uptime heq
  have htag : m.node.tag = m₁.node.tag := congrArg Tenancy.tag heq
  have hsettings : m.node.settings = m₁.node.settings := congrArg Tenancy.settings heq
  have hactivity : m.node.activity = m₁.node.activity := congrArg Tenancy.activity heq
  -- Nobody asks for the database during the pause.
  have hpass : (pausedAfter f₁ m.node).tenancy? member = (f₁.tenancy? member).map fun t =>
      { t with uptime := t.uptime + m.node.settings.idleUnloadAfter } := by
    show (f₁.members.get? member).map _ = ((f₁.members.get? member).map _).map _
    rw [hm₁]
    rfl
  have hhistory := (((History.start hm hnone).turn (.sync hm hsync)).turn (.pass _ hpass)).turn
    (.sweep _ hsweep)
  refine ⟨_, hhistory, fun huse => ?_⟩
  have hname₁ : name ∈ dialingOn m₁.node.tag (f.stateOf m) := htag ▸ hname
  rcases huse.1 _ m₁ rfl hm₁ name hname₁ with hactive | ⟨a, ha, hasks, hlt⟩
  · rw [Node.mayUnload, ← hactivity] at hactive
    rw [Node.mayUnload, hactive] at hmay
    cases hmay
  · rcases List.mem_cons.1 ha with rfl | ha
    · obtain ⟨_, -, hfalse⟩ := hasks
      exact hfalse
    · rw [List.mem_singleton.1 ha] at hlt
      simp only [pausedAfter, ← hsettings] at hlt
      omega

/-- Do chores of a node one after another until one has to wait, at most so many: what is left to do
then. -/
def doChores (member : Nat) : Nat → List Chore → Fleet → List Chore × Fleet
  | 0, chores, f => (chores, f)
  | _ + 1, [], f => ([], f)
  | fuel + 1, c :: rest, f =>
    match (doChore 0 ⟨member, [], []⟩ c).run f with
    | (some first, f') => doChores member fuel (first ++ rest) f'
    | (none, _) => (c :: rest, f)

theorem Done.of_doChores (fuel : Nat) {chores : List Chore}
    (h : Done member (doChores member fuel chores f).1 (doChores member fuel chores f).2 f') :
    Done member chores f f' := by
  fun_induction doChores member fuel chores f with
  | case1 | case2 | case4 => exact h
  | case3 fuel c rest f first f₁ hchore ih => exact .work rfl hchore (ih h)

/-- A dialer without a session that was told to stop comes to its end while it is waited for. -/
theorem exists_done_awaitDialer {id : Nat} {p : DialerProcess}
    (hp : f.processes.get? id = some (.dialer p)) (hid : id < f.next)
    (hmember : (f.members.get? p.member).isSome = true) (hcancelled : p.cancelled = true)
    (hsession : p.dialer.session? = none) : ∃ f', Done member [.awaitDialer id] f f' := by
  obtain ⟨network, p', f', -, hend, hover, haside⟩ := exists_goes hp hid hmember hcancelled
  obtain ⟨-, haside⟩ := haside hsession
  have hdone : ((doChore 0 ⟨member, [], []⟩ (.awaitDialer id)).run f').1 = some [] := by
    simp only [doChore, run_get_bind, hend.isDialerOver hover]
    rfl
  exact ⟨_, .wait (haside.tenancy member) (.work rfl (Prod.ext hdone rfl) (.nil _))⟩

/-- A node that loaded nothing yet. -/
def sinkMember : Member := ⟨.new ⟨"S"⟩ .unsecured .default, 0, [], false⟩

/-- The node follows a state in which a sink has to dial from it. -/
def sinkFleet : Fleet :=
  let record : DatabaseRecord :=
    { DatabaseRecord.new "replica" ⟨[⟨"S"⟩]⟩ with
      sinks := [⟨"s1", "to-hub", "h1", none, .hubToSink, none, ⟨4⟩, false, none⟩]
      connectionStrings := .ofList [("to-hub", ⟨"to-hub", "catalog", ["mem://nowhere"]⟩)]
      etag := 4 }
  let state : ClusterState := ⟨4, ⟨[⟨⟨"S"⟩, "mem://s", true⟩]⟩, .ofList [("replica", record)]⟩
  { Fleet.empty default with
    logs := .ofList [(0, { Consensus.empty with state })]
    members := .ofList [(0, sinkMember)] }

/-- Whether what is left of a job is to wait for a dialer without a session, which was told to
stop. -/
def isWait (id : Nat) (chores : List Chore) (f : Fleet) : Bool :=
  match chores, f.processes.get? id with
  | [.awaitDialer k, .released], some (.dialer p) =>
    k == id && (f.members.get? p.member).isSome && p.cancelled && p.dialer.session?.isNone
  | _, _ => false

/-- Such a job comes to its end. -/
theorem exists_done_of_isWait {id : Nat} {chores : List Chore} (h : isWait id chores f = true)
    (hid : id < f.next) : ∃ f', Done member chores f f' := by
  unfold isWait at h
  split at h
  · rename_i k p hp
    simp only [Bool.and_eq_true, Option.isNone_iff_eq_none, beq_iff_eq] at h
    obtain ⟨⟨⟨rfl, hmember⟩, hcancelled⟩, hsession⟩ := h
    obtain ⟨f', hawait⟩ : ∃ f', Done member [.awaitDialer k] f f' :=
      exists_done_awaitDialer hp hid hmember hcancelled hsession
    have hreleased : Done member [.released] f' (doChores member 1 [.released] f').2 :=
      .of_doChores 1 (.nil _)
    exact ⟨_, hawait.append hreleased⟩
  · cases h

/-- It syncs, and sweeps after a pause: the dialer of the sink stops while the sweep waits for it. -/
theorem exists_sweep_sinkFleet :
    ∃ f₁ f₂, Done 0 [.sync (sinkFleet.stateOf sinkMember)] sinkFleet f₁ ∧
      Done 0 [.unloadUnused (pausedAfter f₁ sinkMember.node).uptime]
        (pausedAfter f₁ sinkMember.node) f₂ := by
  let synced := doChores 0 2 [.sync (sinkFleet.stateOf sinkMember)] sinkFleet
  have hsync : Done 0 [.sync (sinkFleet.stateOf sinkMember)] sinkFleet synced.2 := by
    refine .of_doChores 2 ?_
    rw [show (doChores 0 2 [.sync (sinkFleet.stateOf sinkMember)] sinkFleet).1 = [] by
      decide +kernel]
    exact .nil synced.2
  let paused := pausedAfter synced.2 sinkMember.node
  let swept := doChores 0 7 [.unloadUnused paused.uptime] paused
  have hwaits : isWait 1 swept.1 swept.2 = true := by decide +kernel
  obtain ⟨f', hrest⟩ : ∃ f', Done 0 swept.1 swept.2 f' :=
    exists_done_of_isWait hwaits (by decide +kernel)
  exact ⟨_, _, hsync, .of_doChores 7 hrest⟩

/-- Its database is abandoned by the sweep after the pause. -/
theorem keeps_dialing_iff_sinkFleet :
    ∃ past f, History 0 past f ∧ ¬Throughout (KeepsDialing 0) past := by
  have hname : "replica" ∈ sinkMember.node.dialing (sinkFleet.stateOf sinkMember) := by
    decide +kernel
  obtain ⟨f₁, f₂, hsync, hsweep⟩ := exists_sweep_sinkFleet
  obtain ⟨past, h, hunused⟩ := exists_not_allInUse rfl rfl hname rfl hsync hsweep
  exact ⟨past, f₂, h, fun hkeeps => hunused ((keeps_dialing_iff h).1 hkeeps)⟩

end HubReplication.Fleet
