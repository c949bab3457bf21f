/-
**The dialers of a database.**

A loaded database lists its running tasks, each with the number of a dialer, and the dialers are
processes of their own.  Bringing the tasks in line dismisses those that run otherwise than they
should and hires a dialer for each that is missing.  As long as list and dialers agree before, they
agree afterwards, and what runs is what should run: a dialer stays exactly if its task is still
wanted with the same definition and the same connection string, and it stays untouched.

Main definitions:

* `Post`, `Staff` — what a dialer works on, and the dialers of a database as it lists them and as
  they are;
* `Staff.dismissAll`, `Staff.hireAll` — tasks that stop and tasks that start;
* `Staff.Sound` — the list and the dialers agree;
* `Staff.Exact` — what runs is what should run, and no more was changed than had to be.

Main results:

* `Staff.Sound.dismissAll`, `Staff.Sound.hireAll` — stopping and starting tasks keeps both in
  agreement;
* `LoadedDatabase.mem_stale`, `LoadedDatabase.mem_missing` — what has to stop and to start;
* `Staff.Plan.exact` — to stop the one and start the other is exact.
-/

import HubReplication.Hosting.Loaded
import HubReplication.Proofs.Bindings

set_option relaxedAutoImplicit false
set_option autoImplicit false

namespace HubReplication

/-- The number of a task that is dialed for. -/
def DialingTask.id (w : DialingTask) : Nat := w.task.taskId.value

/-- What a dialer works on, and whether it was told to stop. -/
structure Post where
  database : String
  work : DialingTask
  cancelled : Bool

/-- The dialers of a loaded database: the running tasks that it lists, and the dialers by number. -/
structure Staff where
  tag : NodeTag
  name : String
  outgoing : SortedMap Nat RunningTask
  busy : Bool
  disposed : Bool
  posts : Nat → Option Post

/-! ### What should run -/

/-- A task that should run is found under its own number. -/
theorem id_of_get?_desiredTasks {s : ClusterState} {r : DatabaseRecord} {node : NodeTag} {id : Nat}
    {w : DialingTask} (h : (desiredTasks s r node).get? id = some w) : w.id = id := by
  rcases SortedMap.mem_or_of_get?_foldl_insert h with hmem | hempty
  · obtain ⟨task, -, hbound⟩ := List.mem_filterMap.1 hmem
    obtain ⟨connection, -, heq⟩ := Option.map_eq_some_iff.1 hbound
    obtain ⟨rfl, rfl⟩ := Prod.mk.inj heq
    rfl
  · cases hempty

namespace LoadedDatabase

variable {d : LoadedDatabase} {desired : SortedMap Nat DialingTask} {id : Nat} {w : DialingTask}

theorem mem_stale : id ∈ d.stale desired ↔
    ∃ r, d.outgoing.get? id = some r ∧ desired.get? id ≠ some r.work := by
  simp only [stale, List.mem_map, List.mem_filter, bne_iff_ne]
  constructor
  · rintro ⟨⟨k, r⟩, ⟨hmem, hother⟩, rfl⟩
    exact ⟨r, SortedMap.get?_eq_some_iff.2 hmem, hother⟩
  · rintro ⟨r, hr, hother⟩
    exact ⟨(id, r), ⟨SortedMap.get?_eq_some_iff.1 hr, hother⟩, rfl⟩

theorem mem_missing : w ∈ d.missing desired ↔
    ∃ id, desired.get? id = some w ∧ d.outgoing.get? id = none := by
  simp only [missing, List.mem_map, List.mem_filter, SortedMap.contains, Bool.not_eq_true',
    Option.isSome_eq_false_iff, Option.isNone_iff_eq_none]
  constructor
  · rintro ⟨⟨k, w'⟩, ⟨hmem, hnone⟩, rfl⟩
    exact ⟨k, SortedMap.get?_eq_some_iff.2 hmem, hnone⟩
  · rintro ⟨k, hwanted, hnone⟩
    exact ⟨(k, w), ⟨SortedMap.get?_eq_some_iff.1 hwanted, hnone⟩, rfl⟩

/-- No two of the tasks to start have the same number, if each is found under its own. -/
theorem pairwise_missing (hkeyed : ∀ id w, desired.get? id = some w → w.id = id) :
    (d.missing desired).Pairwise fun a b => a.id ≠ b.id := by
  rw [missing, List.pairwise_map]
  refine (desired.ordered.filter _).imp_of_mem fun {a b} ha hb hcompare heq => ?_
  have ha := hkeyed a.1 a.2 (SortedMap.get?_eq_some_iff.2 (List.mem_filter.1 ha).1)
  have hb := hkeyed b.1 b.2 (SortedMap.get?_eq_some_iff.2 (List.mem_filter.1 hb).1)
  have hlt : a.1 < b.1 := Nat.compare_eq_lt.1 hcompare
  rw [← ha, ← hb, heq] at hlt
  exact Nat.lt_irrefl _ hlt

end LoadedDatabase

namespace Staff

/-! ### Stopping and starting tasks -/

/-- A dialer is gone. -/
def remove (v : Staff) (dialer : Nat) : Staff :=
  { v with posts := fun n => if n = dialer then none else v.posts n }

/-- A task stops, and its dialer with it. -/
def dismiss (v : Staff) (id : Nat) : Staff :=
  match v.outgoing.get? id with
  | none => v
  | some r => { v with outgoing := v.outgoing.erase id }.remove r.dialer

/-- Tasks stop one after another. -/
def dismissAll (v : Staff) (ids : List Nat) : Staff := ids.foldl dismiss v

/-- A dialer works on a task from now on. -/
def hire (v : Staff) (dialer : Nat) (w : DialingTask) : Staff :=
  { v with
    outgoing := v.outgoing.insert w.id ⟨w, dialer⟩
    posts := fun n => if n = dialer then some ⟨v.name, w, false⟩ else v.posts n }

/-- Tasks start one after another, under dialers that are numbered on. -/
def hireAll (v : Staff) (next : Nat) : List DialingTask → Staff
  | [] => v
  | w :: rest => (v.hire next w).hireAll (next + 1) rest

/-- The list of running tasks and the dialers agree: a task is listed under its own number with a
dialer that works on it and was not told to stop, and there is no other dialer. -/
structure Sound (v : Staff) : Prop where
  keyed : ∀ id r, v.outgoing.get? id = some r → r.work.id = id
  posted : ∀ id r, v.outgoing.get? id = some r → v.posts r.dialer = some ⟨v.name, r.work, false⟩
  employed : ∀ n p, v.posts n = some p → v.outgoing.get? p.work.id = some ⟨p.work, n⟩

/-- What runs is what should run, under a number from which on there were no dialers. -/
structure Exact (desired : SortedMap Nat DialingTask) (next : Nat) (before after : Staff) :
    Prop where
  runs : ∀ id, (after.outgoing.get? id).map (·.work) = desired.get? id
  /-- Each running task has a dialer that works on it, and no other task or dialer has it. -/
  sound : after.Sound
  /-- A task goes on under its dialer exactly if it should still run as it does. -/
  kept : ∀ id r, before.outgoing.get? id = some r →
    (after.outgoing.get? id = some r ↔ desired.get? id = some r.work)
  /-- The dialer of any other task is gone. -/
  stopped : ∀ id r, before.outgoing.get? id = some r → desired.get? id ≠ some r.work →
    after.posts r.dialer = none
  /-- What did not go on was started now. -/
  started : ∀ id r, after.outgoing.get? id = some r →
    before.outgoing.get? id = some r ∨ next ≤ r.dialer
  /-- Where all tasks run as they should, nothing is stopped and nothing is started. -/
  idle : (∀ id, (before.outgoing.get? id).map (·.work) = desired.get? id) → after = before

variable {v : Staff} {id n next : Nat} {r : RunningTask} {w : DialingTask}
  {ids : List Nat} {works : List DialingTask}

/-- No two tasks on the list have the same dialer. -/
theorem Sound.nodup_dialers (h : v.Sound) : (v.outgoing.values.map (·.dialer)).Nodup := by
  unfold SortedMap.values
  rw [List.map_map, List.nodup_iff_pairwise_ne, List.pairwise_map]
  refine v.outgoing.ordered.imp_of_mem fun {a b} ha hb hcompare heq => ?_
  have ha := SortedMap.get?_eq_some_iff.2 ha
  have hb := SortedMap.get?_eq_some_iff.2 hb
  have hposted := h.posted b.1 b.2 hb
  rw [← show a.2.dialer = b.2.dialer from heq, h.posted a.1 a.2 ha] at hposted
  have hwork : a.2.work = b.2.work := (Post.mk.inj (Option.some.inj hposted)).2.1
  have hlt : a.1 < b.1 := Nat.compare_eq_lt.1 hcompare
  rw [← h.keyed a.1 a.2 ha, ← h.keyed b.1 b.2 hb, hwork] at hlt
  exact Nat.lt_irrefl _ hlt

/-! ### Stopping tasks -/

theorem get?_dismiss (v : Staff) (id other : Nat) :
    (v.dismiss id).outgoing.get? other = if other = id then none else v.outgoing.get? other := by
  unfold dismiss
  split
  · rename_i hnone
    split
    · rename_i heq
      rw [heq, hnone]
    · rfl
  · simp only [remove]
    split
    · rename_i heq
      rw [heq, SortedMap.get?_erase_self]
    · rename_i hne
      rw [SortedMap.get?_erase_of_ne _ hne]

theorem get?_dismissAll (v : Staff) (ids : List Nat) (other : Nat) :
    (v.dismissAll ids).outgoing.get? other =
      if other ∈ ids then none else v.outgoing.get? other := by
  induction ids generalizing v with
  | nil => simp [dismissAll]
  | cons id rest ih =>
      rw [dismissAll, List.foldl_cons, ← dismissAll, ih, get?_dismiss]
      by_cases hrest : other ∈ rest
      · simp [hrest]
      · by_cases heq : other = id <;> simp [hrest, heq]

theorem Sound.dismiss (h : v.Sound) (id : Nat) : (v.dismiss id).Sound := by
  unfold Staff.dismiss
  split
  · exact h
  · rename_i r hr
    have hget {other : Nat} {r' : RunningTask}
        (hother : (v.outgoing.erase id).get? other = some r') :
        other ≠ id ∧ v.outgoing.get? other = some r' := by
      have hne : other ≠ id := by
        rintro rfl
        rw [SortedMap.get?_erase_self] at hother
        cases hother
      rw [SortedMap.get?_erase_of_ne _ hne] at hother
      exact ⟨hne, hother⟩
    constructor
    case keyed => exact fun other r' hother => h.keyed other r' (hget hother).2
    case posted =>
      intro other r' hother
      obtain ⟨hne, hother⟩ := hget hother
      have hposted := h.posted other r' hother
      -- Another task has another dialer, since a dialer works on one task.
      have hdialer : r'.dialer ≠ r.dialer := by
        intro heq
        rw [heq, h.posted id r hr] at hposted
        have hwork : r.work = r'.work := (Post.mk.inj (Option.some.inj hposted)).2.1
        exact hne (by rw [← h.keyed other r' hother, ← h.keyed id r hr, hwork])
      simp only [remove, if_neg hdialer]
      exact hposted
    case employed =>
      intro m p hp
      simp only [remove] at hp
      split at hp
      · cases hp
      · rename_i hm
        have hlisted := h.employed m p hp
        have hne : p.work.id ≠ id := by
          intro heq
          rw [heq, hr] at hlisted
          exact hm (congrArg RunningTask.dialer (Option.some.inj hlisted)).symm
        simp only [remove]
        rw [SortedMap.get?_erase_of_ne _ hne]
        exact hlisted

theorem Sound.dismissAll (h : v.Sound) (ids : List Nat) : (v.dismissAll ids).Sound := by
  induction ids generalizing v with
  | nil => exact h
  | cons id rest ih => exact ih (h.dismiss id)

theorem posts_dismiss (h : v.posts n = none) (id : Nat) : (v.dismiss id).posts n = none := by
  unfold dismiss
  split
  · exact h
  · simp only [remove]
    split
    · rfl
    · exact h

theorem posts_dismissAll (h : v.posts n = none) (ids : List Nat) :
    (v.dismissAll ids).posts n = none := by
  induction ids generalizing v with
  | nil => exact h
  | cons id rest ih => exact ih (posts_dismiss h id)

/-! ### Starting tasks -/

theorem Sound.hire (h : v.Sound) (hfree : v.posts n = none) (hmissing : v.outgoing.get? w.id = none) :
    (v.hire n w).Sound where
  keyed other r hr := by
    simp only [Staff.hire] at hr
    by_cases heq : other = w.id
    · rw [heq, SortedMap.get?_insert_self] at hr
      cases hr
      exact heq.symm
    · rw [SortedMap.get?_insert_of_ne _ _ heq] at hr
      exact h.keyed other r hr
  posted other r hr := by
    simp only [Staff.hire] at hr ⊢
    by_cases heq : other = w.id
    · rw [heq, SortedMap.get?_insert_self] at hr
      cases hr
      rw [if_pos rfl]
    · rw [SortedMap.get?_insert_of_ne _ _ heq] at hr
      have hposted := h.posted other r hr
      have hne : r.dialer ≠ n := by
        intro heq
        rw [heq, hfree] at hposted
        cases hposted
      rw [if_neg hne]
      exact hposted
  employed m p hp := by
    simp only [Staff.hire] at hp ⊢
    split at hp
    · rename_i heq
      cases hp
      rw [heq, SortedMap.get?_insert_self]
    · have hlisted := h.employed m p hp
      have hne : p.work.id ≠ w.id := by
        intro heq
        rw [heq, hmissing] at hlisted
        cases hlisted
      rw [SortedMap.get?_insert_of_ne _ _ hne]
      exact hlisted

/-- No dialer has a number from here on. -/
def FreeFrom (v : Staff) (next : Nat) : Prop := ∀ n, next ≤ n → v.posts n = none

theorem FreeFrom.dismissAll (h : v.FreeFrom next) (ids : List Nat) :
    (v.dismissAll ids).FreeFrom next :=
  fun n hn => posts_dismissAll (h n hn) ids

theorem FreeFrom.hire (h : v.FreeFrom next) (w : DialingTask) :
    (v.hire next w).FreeFrom (next + 1) := by
  intro n hn
  simp only [Staff.hire]
  rw [if_neg (by omega)]
  exact h n (by omega)

theorem get?_hireAll_of_ne (hne : ∀ w ∈ works, id ≠ w.id) (v : Staff) (next : Nat) :
    (v.hireAll next works).outgoing.get? id = v.outgoing.get? id := by
  induction works generalizing v next with
  | nil => rfl
  | cons w rest ih =>
      rw [List.forall_mem_cons] at hne
      rw [hireAll, ih hne.2]
      exact SortedMap.get?_insert_of_ne _ _ hne.1

theorem get?_hireAll_of_mem (hpairwise : works.Pairwise fun a b => a.id ≠ b.id) (hw : w ∈ works)
    (v : Staff) (next : Nat) :
    ∃ n, next ≤ n ∧ (v.hireAll next works).outgoing.get? w.id = some ⟨w, n⟩ := by
  induction works generalizing v next with
  | nil => cases hw
  | cons w' rest ih =>
      rw [List.pairwise_cons] at hpairwise
      rcases List.mem_cons.1 hw with rfl | hw
      · refine ⟨next, Nat.le_refl _, ?_⟩
        rw [hireAll, get?_hireAll_of_ne hpairwise.1]
        exact SortedMap.get?_insert_self _ _ _
      · obtain ⟨n, hn, hget⟩ := ih hpairwise.2 hw (v.hire next w') (next + 1)
        exact ⟨n, by omega, hget⟩

theorem Sound.hireAll (h : v.Sound) (hfree : v.FreeFrom next)
    (hpairwise : works.Pairwise fun a b => a.id ≠ b.id)
    (hmissing : ∀ w ∈ works, v.outgoing.get? w.id = none) : (v.hireAll next works).Sound := by
  induction works generalizing v next with
  | nil => exact h
  | cons w rest ih =>
      rw [List.pairwise_cons] at hpairwise
      rw [List.forall_mem_cons] at hmissing
      refine ih (h.hire (hfree next (Nat.le_refl _)) hmissing.1) (hfree.hire w) hpairwise.2 ?_
      intro w' hw'
      have hne : w'.id ≠ w.id := (hpairwise.1 w' hw').symm
      simp only [Staff.hire]
      rw [SortedMap.get?_insert_of_ne _ _ hne]
      exact hmissing.2 w' hw'

/-! ### Bringing the tasks in line -/

/-- Which tasks have to stop, and which have to start once they did. -/
structure Plan (desired : SortedMap Nat DialingTask) (v : Staff) (ids : List Nat)
    (works : List DialingTask) : Prop where
  keyed : ∀ id w, desired.get? id = some w → w.id = id
  stale : ∀ id, id ∈ ids ↔ ∃ r, v.outgoing.get? id = some r ∧ desired.get? id ≠ some r.work
  missing : ∀ w, w ∈ works ↔
    ∃ id, desired.get? id = some w ∧ (v.dismissAll ids).outgoing.get? id = none
  apart : works.Pairwise fun a b => a.id ≠ b.id

section Plan

variable {desired : SortedMap Nat DialingTask} {free : Nat}

namespace Plan

theorem get?_dismissAll_of_wanted (h : Plan desired v ids works)
    (hr : v.outgoing.get? id = some r) (hwanted : desired.get? id = some r.work) :
    (v.dismissAll ids).outgoing.get? id = some r := by
  have hnot : id ∉ ids := by
    intro hmem
    obtain ⟨r', hr', hother⟩ := (h.stale id).1 hmem
    cases hr.symm.trans hr'
    exact hother hwanted
  rw [get?_dismissAll, if_neg hnot, hr]

theorem get?_dismissAll_of_unwanted (h : Plan desired v ids works)
    (hother : ∀ r, v.outgoing.get? id = some r → desired.get? id ≠ some r.work) :
    (v.dismissAll ids).outgoing.get? id = none := by
  rw [get?_dismissAll]
  split
  · rfl
  · rename_i hnot
    cases hr : v.outgoing.get? id with
    | none => rfl
    | some r => exact absurd ((h.stale id).2 ⟨r, hr, hother r hr⟩) hnot

/-- Of each number nothing should run and nothing does, or the same dialer works on the same task as
before, or a new dialer works on a task that did not run so. -/
theorem cases (h : Plan desired v ids works) (next id : Nat) :
    (desired.get? id = none ∧ ((v.dismissAll ids).hireAll next works).outgoing.get? id = none) ∨
    (∃ r, v.outgoing.get? id = some r ∧ desired.get? id = some r.work ∧
      ((v.dismissAll ids).hireAll next works).outgoing.get? id = some r) ∨
    ∃ w n, desired.get? id = some w ∧ (∀ r, v.outgoing.get? id = some r → r.work ≠ w) ∧
      next ≤ n ∧ ((v.dismissAll ids).hireAll next works).outgoing.get? id = some ⟨w, n⟩ := by
  have hunchanged (hnone : ∀ w, desired.get? id = some w →
      (v.dismissAll ids).outgoing.get? id ≠ none) :
      ((v.dismissAll ids).hireAll next works).outgoing.get? id =
        (v.dismissAll ids).outgoing.get? id := by
    refine get?_hireAll_of_ne (fun w hw heq => ?_) _ next
    obtain ⟨id', hwanted, hmissing⟩ := (h.missing w).1 hw
    have hid : id' = id := by rw [heq, h.keyed id' w hwanted]
    rw [hid] at hwanted hmissing
    exact hnone w hwanted hmissing
  cases hwanted : desired.get? id with
  | none =>
      refine .inl ⟨rfl, ?_⟩
      rw [hunchanged fun w hw => by rw [hwanted] at hw; cases hw]
      exact h.get?_dismissAll_of_unwanted fun r _ => by rw [hwanted]; nofun
  | some w =>
      by_cases hruns : ∃ r, v.outgoing.get? id = some r ∧ r.work = w
      · obtain ⟨r, hr, rfl⟩ := hruns
        have hleft := h.get?_dismissAll_of_wanted hr hwanted
        refine .inr (.inl ⟨r, hr, rfl, ?_⟩)
        rw [hunchanged fun _ _ => by rw [hleft]; nofun, hleft]
      · have hother : ∀ r, v.outgoing.get? id = some r → r.work ≠ w :=
          fun r hr heq => hruns ⟨r, hr, heq⟩
        have hnone := h.get?_dismissAll_of_unwanted fun r hr => by
          rw [hwanted]
          exact fun heq => hother r hr (Option.some.inj heq).symm
        have hmem := (h.missing w).2 ⟨id, hwanted, hnone⟩
        obtain ⟨n, hn, hget⟩ := get?_hireAll_of_mem h.apart hmem (v.dismissAll ids) next
        rw [h.keyed id w hwanted] at hget
        exact .inr (.inr ⟨w, n, rfl, hother, hn, hget⟩)

theorem sound (h : Plan desired v ids works) (hv : v.Sound) (hfree : v.FreeFrom next) :
    ((v.dismissAll ids).hireAll next works).Sound := by
  refine (hv.dismissAll ids).hireAll (hfree.dismissAll ids) h.apart fun w hw => ?_
  obtain ⟨id, hwanted, hnone⟩ := (h.missing w).1 hw
  rw [h.keyed id w hwanted]
  exact hnone

theorem started (h : Plan desired v ids works) (hr :
    ((v.dismissAll ids).hireAll next works).outgoing.get? id = some r) :
    v.outgoing.get? id = some r ∨ next ≤ r.dialer := by
  rcases h.cases next id with ⟨-, hnone⟩ | ⟨r', hr', -, hafter⟩ | ⟨w, n, -, -, hn, hafter⟩
  · cases hnone.symm.trans hr
  · cases hafter.symm.trans hr
    exact .inl hr'
  · cases hafter.symm.trans hr
    exact .inr hn

theorem kept (h : Plan desired v ids works) (hr : v.outgoing.get? id = some r) :
    ((v.dismissAll ids).hireAll next works).outgoing.get? id = some r ↔
      desired.get? id = some r.work := by
  rcases h.cases next id with
    ⟨hunwanted, hnone⟩ | ⟨r', hr', hwanted, hafter⟩ | ⟨w, n, hwanted, hother, hn, hafter⟩
  · rw [hunwanted, hnone]
    exact ⟨nofun, nofun⟩
  · cases hr.symm.trans hr'
    exact ⟨fun _ => hwanted, fun _ => hafter⟩
  · have hne := hother r hr
    rw [hafter, hwanted]
    constructor
    · intro heq
      cases heq
      exact absurd rfl hne
    · intro heq
      cases heq
      exact absurd rfl hne

theorem runs (h : Plan desired v ids works) (next id : Nat) :
    (((v.dismissAll ids).hireAll next works).outgoing.get? id).map (·.work) = desired.get? id := by
  rcases h.cases next id with
    ⟨hunwanted, hnone⟩ | ⟨r', hr', hwanted, hafter⟩ | ⟨w, n, hwanted, hother, hn, hafter⟩
  · rw [hunwanted, hnone]
    rfl
  · rw [hwanted, hafter]
    rfl
  · rw [hwanted, hafter]
    rfl

/-- A dialer whose task did not go on is gone. -/
theorem stopped (h : Plan desired v ids works) (hv : v.Sound) (hfree : v.FreeFrom next)
    (hr : v.outgoing.get? id = some r) (hother : desired.get? id ≠ some r.work) :
    ((v.dismissAll ids).hireAll next works).posts r.dialer = none := by
  have hposted := hv.posted id r hr
  cases hpost : ((v.dismissAll ids).hireAll next works).posts r.dialer with
  | none => rfl
  | some p =>
      -- The dialer would still work on the task that it worked on before.
      have hlisted := (h.sound hv hfree).employed r.dialer p hpost
      rcases h.started hlisted with hbefore | hle
      · have hwork : r.work = p.work := by
          have hposted' := hv.posted _ _ hbefore
          rw [hposted] at hposted'
          exact (Post.mk.inj (Option.some.inj hposted')).2.1
        have hid : p.work.id = id := by rw [← hwork, hv.keyed id r hr]
        rw [hid, ← hwork] at hlisted
        exact absurd ((h.kept hr).1 hlisted) hother
      · rw [hfree r.dialer hle] at hposted
        cases hposted

/-- Where all tasks run as they should there is nothing to do. -/
theorem idle (h : Plan desired v ids works)
    (hruns : ∀ id, (v.outgoing.get? id).map (·.work) = desired.get? id) :
    (v.dismissAll ids).hireAll next works = v := by
  obtain rfl : ids = [] := by
    refine List.eq_nil_iff_forall_not_mem.2 fun id hmem => ?_
    obtain ⟨r, hr, hother⟩ := (h.stale id).1 hmem
    exact hother (by rw [← hruns id, hr]; rfl)
  obtain rfl : works = [] := by
    refine List.eq_nil_iff_forall_not_mem.2 fun w hmem => ?_
    obtain ⟨id, hwanted, hnone⟩ := (h.missing w).1 hmem
    have hnone : v.outgoing.get? id = none := hnone
    rw [← hruns id, hnone] at hwanted
    cases hwanted
  rfl

/-- **What runs is what should run.**  To stop the tasks that run otherwise and to start those that
are missing brings the dialers of a database in line, and changes no more than that takes. -/
theorem exact (h : Plan desired v ids works) (hv : v.Sound) (hfree : v.FreeFrom free)
    (hle : free ≤ next) : Exact desired free v ((v.dismissAll ids).hireAll next works) := by
  have hfree' : v.FreeFrom next := fun n hn => hfree n (Nat.le_trans hle hn)
  exact {
    runs := h.runs next
    sound := h.sound hv hfree'
    kept := fun _ _ hr => h.kept hr
    stopped := fun _ _ hr hother => h.stopped hv hfree' hr hother
    started := fun _ _ hr => (h.started hr).imp_right (Nat.le_trans hle)
    idle := h.idle }

end Plan

end Plan

end Staff

end HubReplication
