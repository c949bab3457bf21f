/-
**Connections that lost their place.**

A connection is let in by the configuration of one moment, taken into its database at a later one,
and looked at again at a third; meanwhile the configuration changes, and the database is brought in
line with states that may be old by the time this is done.  No change falls between two stools: one
that comes before the connection is looked at again is seen then, and one that comes later has to be
followed by a reconciliation, which finds the connection in its place.

The steps are those of the log and of the loaded database.  Beside them stands what is under way:
the connections on their way in, the reconciliations that looked at a state and did not come to the
connections yet, and how many of the changes are covered by one that did.

Main definitions:

* `Custody` — a log, a loaded database that follows it, and what is under way between them;
* `CustodyAction`, `Custody.step`, `Custody.run` — what may happen, one after another;
* `Custody.Settled` — nothing is under way, and every change was followed by a reconciliation;
* `Custody.Lost` — a connection that must not stay.

Main results:

* `Custody.Sound`, `Custody.Sound.step` — what every step preserves;
* `Custody.isCancelled_of_settled` — once all is settled, what lost its place is told to close.
-/

import HubReplication.Hosting.Loaded
import HubReplication.Cluster.Consensus
import HubReplication.Proofs.Bindings
import HubReplication.Proofs.Connection.Bounds

set_option relaxedAutoImplicit false
set_option autoImplicit false

namespace HubReplication

/-! ### Changes of a log -/

/-- A proposal is told as a change, or leaves all databases as they are. -/
theorem Consensus.propose_told_or_unchanged (c : Consensus) (id : String)
    (command : ClusterCommand) :
    (c.propose id command).2.changes.length = c.changes.length + 1 ∨
      (c.propose id command).2.changes = c.changes ∧
        (c.propose id command).2.state.databases = c.state.databases := by
  unfold propose
  split
  · exact .inr ⟨rfl, rfl⟩
  · split
    · exact .inr ⟨rfl, rfl⟩
    · split
      · exact .inr ⟨rfl, rfl⟩
      · simp only [commit]
        cases c.state.apply (c.state.lastIndex + 1) command with
        | mk outcome next =>
            cases outcome with
            | ok task => exact .inl rfl
            | error e => exact .inr ⟨rfl, rfl⟩

/-! ### What is under way -/

/-- How far a connection that was let in has come. -/
inductive AdmissionStage where
  /-- It is not among the connections of the database yet. -/
  | admitted (terms : IncomingTerms) (source : String)
  /-- It is among them, and not yet looked at again. -/
  | inserted
  /-- It is looked at again by the state of that moment. -/
  | rechecking (snapshot : ClusterState)

/-- A reconciliation that looked at a state and did not come to the connections yet. -/
structure Reconciliation where
  /-- How many changes had been told when it looked. -/
  changes : Nat
  record : DatabaseRecord

/-- A log, a loaded database that follows it, and what is under way between them. -/
structure Custody where
  log : Consensus
  database : LoadedDatabase
  /-- The connections on their way in, by their numbers. -/
  arrivals : SortedMap Nat AdmissionStage
  reconciling : List Reconciliation
  /-- How many changes are covered by a reconciliation that came to its end. -/
  reconciled : Nat

/-- What may happen to a loaded database. -/
inductive CustodyAction where
  /-- A command is proposed to the log. -/
  | commit (request : String) (command : ClusterCommand)
  /-- A handshake is looked at, and the connection let in under a new number or not. -/
  | authorize (id : Nat) (handshake : Handshake) (security : ServerSecurity) (now : Instant)
  /-- A connection that was let in is put among those of the database. -/
  | insert (id : Nat)
  /-- A connection takes the state by which it is looked at again. -/
  | look (id : Nat)
  /-- A connection is looked at again by the state that it took. -/
  | recheck (id : Nat)
  /-- A connection ends. -/
  | leave (id : Nat)
  /-- A reconciliation looks at the state of that moment. -/
  | beginReconcile
  /-- One of the reconciliations comes to the connections. -/
  | endReconcile (place : Nat)
  /-- The database is given up. -/
  | dispose

namespace Custody

/-- A database that was loaded just now; nothing was told since. -/
def start (log : Consensus) (name : String) (history : Nat) : Custody :=
  { log, database := .new name history, arrivals := .empty, reconciling := []
    reconciled := log.changes.length }

/-- The record of the database in the latest state. -/
def record? (c : Custody) : Option DatabaseRecord := c.log.state.database? c.database.name

/-- Whether a connection has this number. -/
def knows (c : Custody) (id : Nat) : Bool :=
  c.arrivals.contains id || c.database.incoming.contains id

/-- Look at a handshake by the state of that moment. -/
def authorize (c : Custody) (id : Nat) (h : Handshake) (security : ServerSecurity)
    (now : Instant) : Custody :=
  if c.knows id || h.database != c.database.name then c
  else
    match c.record? with
    | none => c
    | some record =>
      match h.authorize security record now with
      | .error _ => c
      | .ok admission =>
        { c with arrivals := c.arrivals.insert id (.admitted admission.terms h.sourceDatabase) }

/-- Put a connection among those of the database. -/
def insert (c : Custody) (id : Nat) : Custody :=
  match c.arrivals.get? id with
  | some (.admitted terms source) =>
    { c with
      database := c.database.register id terms source
      arrivals := c.arrivals.insert id .inserted }
  | _ => c

/-- Take the state by which a connection is looked at again. -/
def look (c : Custody) (id : Nat) : Custody :=
  match c.arrivals.get? id with
  | some .inserted => { c with arrivals := c.arrivals.insert id (.rechecking c.log.state) }
  | _ => c

/-- Look at a connection again. -/
def recheck (c : Custody) (id : Nat) : Custody :=
  match c.arrivals.get? id with
  | some (.rechecking snapshot) =>
    { c with
      database := (c.database.recheck id (snapshot.database? c.database.name)).1
      arrivals := c.arrivals.erase id }
  | _ => c

/-- Look at the state of that moment: the database is given up if it is gone. -/
def beginReconcile (c : Custody) : Custody :=
  if c.database.disposed then c
  else
    match c.record? with
    | none => { c with database := { c.database with disposed := true } }
    | some record =>
      { c with reconciling := c.reconciling ++ [⟨c.log.changes.length, record⟩] }

/-- Let every connection lose its place that the record of a reconciliation does not let in. -/
def endReconcile (c : Custody) (place : Nat) : Custody :=
  match c.reconciling[place]? with
  | none => c
  | some r =>
    { c with
      database := (c.database.revoke r.record).1
      reconciling := c.reconciling.eraseIdx place
      reconciled := max c.reconciled r.changes }

/-- One step; an action on what is not there changes nothing. -/
def step (c : Custody) : CustodyAction → Custody
  | .commit request command => { c with log := (c.log.propose request command).2 }
  | .authorize id h security now => c.authorize id h security now
  | .insert id => c.insert id
  | .look id => c.look id
  | .recheck id => c.recheck id
  | .leave id => { c with database := c.database.unregister id }
  | .beginReconcile => c.beginReconcile
  | .endReconcile place => c.endReconcile place
  | .dispose => { c with database := { c.database with disposed := true } }

/-- What a list of actions leads to. -/
def run (c : Custody) (actions : List CustodyAction) : Custody := actions.foldl step c

/-- Nothing is under way, and each change was followed by a reconciliation with a state no older,
unless the database was given up. -/
structure Settled (c : Custody) : Prop where
  arrived : ∀ id, c.arrivals.get? id = none
  reconciling_eq : c.reconciling = []
  reconciled_eq : c.database.disposed = true ∨ c.reconciled = c.log.changes.length

/-- A connection under some terms must not stay: the database was given up or is gone, or its
record no longer lets the connection in. -/
inductive Lost (c : Custody) (terms : IncomingTerms) : Prop
  | disposed (h : c.database.disposed = true)
  | deleted (h : c.record? = none)
  | revoked {record : DatabaseRecord} {reason : String} (hrecord : c.record? = some record)
      (hreason : terms.revocation? record = some reason)

/-! ### What every step preserves -/

/-- A record, if there is one, lets a connection stay. -/
def Stays (record? : Option DatabaseRecord) (terms : IncomingTerms) : Prop :=
  ∃ record, record? = some record ∧ terms.revocation? record = none

/-- What holds of a connection that did not lose its place where all changes are covered: the latest
record lets it stay, or it will yet be looked at by that record. -/
def Held (c : Custody) (id : Nat) (terms : IncomingTerms) : Prop :=
  match c.arrivals.get? id with
  | none => Stays c.record? terms
  | some (.admitted ..) | some .inserted => True
  | some (.rechecking snapshot) =>
    Stays c.record? terms ∨ snapshot.database? c.database.name = c.record?

/-- What holds of log, database and all that is under way. -/
structure Sound (c : Custody) : Prop where
  reconciled_le : c.reconciled ≤ c.log.changes.length
  /-- No reconciliation is ahead of the log, and one that is not behind has the latest record. -/
  reconciling : ∀ r ∈ c.reconciling, r.changes ≤ c.log.changes.length ∧
    (r.changes = c.log.changes.length → c.record? = some r.record)
  held : c.reconciled = c.log.changes.length →
    ∀ {id connection}, c.database.incoming.get? id = some connection →
      connection.revoked = false → c.Held id connection.terms

variable {c c' : Custody} {id : Nat} {terms : IncomingTerms}

theorem Stays.held (h : Stays c.record? terms) (id : Nat) : c.Held id terms := by
  unfold Held
  split
  · exact h
  · trivial
  · trivial
  · exact .inl h

theorem Held.congr (h : c.Held id terms) (harrival : c'.arrivals.get? id = c.arrivals.get? id)
    (hname : c'.database.name = c.database.name) (hrecord : c'.record? = c.record?) :
    c'.Held id terms := by
  unfold Held at h ⊢
  rw [harrival, hname, hrecord]
  exact h

/-- A step that leaves the log alone and takes up no reconciliation is sound if it leaves every
connection held. -/
theorem Sound.of_held (h : c.Sound) (hlog : c'.log = c.log)
    (hname : c'.database.name = c.database.name) (hreconciling : c'.reconciling = c.reconciling)
    (hreconciled : c'.reconciled = c.reconciled)
    (hheld : (∀ {id connection}, c.database.incoming.get? id = some connection →
        connection.revoked = false → c.Held id connection.terms) →
      ∀ {id connection}, c'.database.incoming.get? id = some connection →
        connection.revoked = false → c'.Held id connection.terms) : c'.Sound := by
  have hrecord : c'.record? = c.record? := by rw [record?, record?, hlog, hname]
  constructor
  case reconciled_le =>
    rw [hreconciled, hlog]
    exact h.reconciled_le
  case reconciling =>
    rw [hreconciling, hlog, hrecord]
    exact h.reconciling
  case held =>
    rw [hreconciled, hlog]
    intro hcovered
    exact hheld (h.held hcovered)

theorem sound_start (log : Consensus) (name : String) (history : Nat) :
    (start log name history).Sound where
  reconciled_le := Nat.le_refl _
  reconciling := by
    intro r hr
    cases hr
  held := by
    intro _ id connection hconnection
    cases hconnection

/-! ### Changes and reconciliations -/

theorem Sound.commit (h : c.Sound) (request : String) (command : ClusterCommand) :
    Sound { c with log := (c.log.propose request command).2 } := by
  rcases c.log.propose_told_or_unchanged request command with htold | ⟨hchanges, hdatabases⟩
  · -- From now on every reconciliation there was is behind.
    constructor
    case reconciled_le =>
      have hle := h.reconciled_le
      simp only [htold]
      omega
    case reconciling =>
      intro r hr
      have hle := (h.reconciling r hr).1
      simp only [htold]
      exact ⟨by omega, fun hnow => by omega⟩
    case held =>
      intro hcovered
      have hle := h.reconciled_le
      simp only [htold] at hcovered
      omega
  · have hrecord : Custody.record? { c with log := (c.log.propose request command).2 } =
        c.record? := by
      simp only [record?, ClusterState.database?, hdatabases]
    constructor
    case reconciled_le =>
      simp only [hchanges]
      exact h.reconciled_le
    case reconciling =>
      simp only [hchanges, hrecord]
      exact h.reconciling
    case held =>
      intro hcovered id connection hconnection hkept
      simp only [hchanges] at hcovered
      exact (h.held hcovered hconnection hkept).congr rfl rfl hrecord

theorem Sound.beginReconcile (h : c.Sound) : c.beginReconcile.Sound := by
  unfold Custody.beginReconcile
  split
  · exact h
  · split
    · exact h.of_held rfl rfl rfl rfl fun hheld _ _ hconnection hkept => hheld hconnection hkept
    · rename_i record hrecord
      constructor
      case reconciled_le => exact h.reconciled_le
      case reconciling =>
        intro r hr
        rcases List.mem_append.1 hr with hold | hnew
        · exact h.reconciling r hold
        · rw [List.mem_singleton.1 hnew]
          exact ⟨Nat.le_refl _, fun _ => hrecord⟩
      case held =>
        intro hcovered id connection hconnection hkept
        exact h.held hcovered hconnection hkept

end Custody

/-! ### What a look at connections leaves -/

namespace LoadedDatabase

variable {d : LoadedDatabase} {id : Nat} {connection : IncomingConnection}

theorem isCancelled_of_revoked (h : d.incoming.get? id = some connection)
    (hrevoked : connection.revoked = true) : d.isCancelled id = true := by
  simp [isCancelled, h, hrevoked]

/-- What did not lose its place is as it was, and the record lets it stay. -/
theorem get?_revoke {record : DatabaseRecord}
    (h : (d.revoke record).1.incoming.get? id = some connection)
    (hkept : connection.revoked = false) :
    d.incoming.get? id = some connection ∧ connection.terms.revocation? record = none := by
  simp only [revoke, SortedMap.get?_mapValues, Option.map_eq_some_iff] at h
  obtain ⟨⟨terms, source, revoked⟩, hget, rfl⟩ := h
  simp only [Bool.or_eq_false_iff, Option.isSome_eq_false_iff, Option.isNone_iff_eq_none] at hkept
  obtain ⟨rfl, hnone⟩ := hkept
  refine ⟨?_, hnone⟩
  rw [hget]
  simp [hnone]

theorem get?_revokeFor {reason : Option String} {other : Nat}
    (h : (d.revokeFor id reason).1.incoming.get? other = some connection)
    (hkept : connection.revoked = false) :
    d.incoming.get? other = some connection ∧ (other = id → reason = none) := by
  cases reason with
  | none => exact ⟨h, fun _ => rfl⟩
  | some reason =>
      simp only [revokeFor, SortedMap.get?_adjust] at h
      split at h
      · obtain ⟨before, -, rfl⟩ := Option.map_eq_some_iff.1 h
        cases hkept
      · rename_i hne
        exact ⟨h, fun heq => absurd heq hne⟩

/-- What did not lose its place is as it was, and what was looked at may stay. -/
theorem get?_recheck {record? : Option DatabaseRecord} {other : Nat}
    (h : (d.recheck id record?).1.incoming.get? other = some connection)
    (hkept : connection.revoked = false) :
    d.incoming.get? other = some connection ∧
      (other = id → Custody.Stays record? connection.terms) := by
  unfold recheck at h
  split at h
  · rename_i hnone
    refine ⟨h, fun heq => ?_⟩
    rw [heq, hnone] at h
    cases h
  · obtain ⟨hget, hreason⟩ := get?_revokeFor h hkept
    exact ⟨hget, fun heq => nomatch hreason heq⟩
  · rename_i own record hown
    obtain ⟨hget, hreason⟩ := get?_revokeFor h hkept
    refine ⟨hget, fun heq => ⟨record, rfl, ?_⟩⟩
    rw [heq, hown] at hget
    cases hget
    exact hreason heq

theorem name_recheck (d : LoadedDatabase) (id : Nat) (record? : Option DatabaseRecord) :
    (d.recheck id record?).1.name = d.name := by
  unfold recheck revokeFor
  split
  · rfl
  · rfl
  · split <;> rfl

end LoadedDatabase

namespace Custody

variable {c c' : Custody} {id : Nat} {terms : IncomingTerms}

theorem Sound.endReconcile (h : c.Sound) (place : Nat) : (c.endReconcile place).Sound := by
  unfold Custody.endReconcile
  split
  · exact h
  · rename_i r hplace
    obtain ⟨hle, hlatest⟩ := h.reconciling r (List.mem_of_getElem? hplace)
    constructor
    case reconciled_le => exact Nat.max_le.2 ⟨h.reconciled_le, hle⟩
    case reconciling => exact fun r' hr' => h.reconciling r' (List.mem_of_mem_eraseIdx hr')
    case held =>
      intro hcovered id connection hconnection hkept
      obtain ⟨hbefore, hnone⟩ := LoadedDatabase.get?_revoke hconnection hkept
      -- All changes are covered by this reconciliation, or were covered before it.
      by_cases hnow : r.changes = c.log.changes.length
      · exact Stays.held ⟨r.record, hlatest hnow, hnone⟩ id
      · have hearlier : c.reconciled = c.log.changes.length := by
          simp only at hcovered
          omega
        exact (h.held hearlier hbefore hkept).congr rfl rfl rfl

/-! ### Connections on their way in -/

theorem Sound.authorize (h : c.Sound) (id : Nat) (handshake : Handshake)
    (security : ServerSecurity) (now : Instant) :
    (c.authorize id handshake security now).Sound := by
  unfold Custody.authorize
  split
  · exact h
  · split
    · exact h
    · split
      · exact h
      · refine h.of_held rfl rfl rfl rfl fun hheld other connection hconnection hkept => ?_
        by_cases hid : other = id
        · simp only [Held, hid, SortedMap.get?_insert_self]
        · exact (hheld hconnection hkept).congr (SortedMap.get?_insert_of_ne _ _ hid) rfl rfl

theorem Sound.insert (h : c.Sound) (id : Nat) : (c.insert id).Sound := by
  unfold Custody.insert
  split
  · rename_i own source harrival
    refine h.of_held rfl rfl rfl rfl fun hheld other connection hconnection hkept => ?_
    by_cases hid : other = id
    · simp only [Held, hid, SortedMap.get?_insert_self]
    · simp only [LoadedDatabase.register, SortedMap.get?_insert_of_ne _ _ hid] at hconnection
      exact (hheld hconnection hkept).congr (SortedMap.get?_insert_of_ne _ _ hid) rfl rfl
  · exact h

theorem Sound.look (h : c.Sound) (id : Nat) : (c.look id).Sound := by
  unfold Custody.look
  split
  · refine h.of_held rfl rfl rfl rfl fun hheld other connection hconnection hkept => ?_
    by_cases hid : other = id
    · simp only [Held, hid, SortedMap.get?_insert_self]
      exact .inr rfl
    · exact (hheld hconnection hkept).congr (SortedMap.get?_insert_of_ne _ _ hid) rfl rfl
  · exact h

theorem Sound.recheck (h : c.Sound) (id : Nat) : (c.recheck id).Sound := by
  unfold Custody.recheck
  split
  · rename_i snapshot harrival
    have hname := LoadedDatabase.name_recheck c.database id (snapshot.database? c.database.name)
    refine h.of_held rfl hname rfl rfl fun hheld other connection hconnection hkept => ?_
    obtain ⟨hbefore, hstays⟩ := LoadedDatabase.get?_recheck hconnection hkept
    have hother := hheld hbefore hkept
    by_cases hid : other = id
    · -- The state it was looked at by is the latest one, or the latest one lets it stay anyway.
      subst hid
      have hlatest : Stays c.record? connection.terms := by
        simp only [Held, harrival] at hother
        rcases hother with hlatest | hsame
        · exact hlatest
        · rw [← hsame]
          exact hstays rfl
      refine Stays.held ?_ other
      simpa only [record?, hname] using hlatest
    · refine hother.congr (SortedMap.get?_erase_of_ne _ hid) hname ?_
      simp only [record?, hname]
  · exact h

theorem Sound.leave (h : c.Sound) (id : Nat) :
    Sound { c with database := c.database.unregister id } := by
  refine h.of_held rfl rfl rfl rfl fun hheld other connection hconnection hkept => ?_
  by_cases hid : other = id
  · simp [LoadedDatabase.unregister, hid] at hconnection
  · simp only [LoadedDatabase.unregister, SortedMap.get?_erase_of_ne _ hid] at hconnection
    exact (hheld hconnection hkept).congr rfl rfl rfl

theorem Sound.dispose (h : c.Sound) :
    Sound { c with database := { c.database with disposed := true } } :=
  h.of_held rfl rfl rfl rfl fun hheld _ _ hconnection hkept =>
    (hheld hconnection hkept).congr rfl rfl rfl

/-! ### Every run -/

theorem Sound.step (h : c.Sound) (action : CustodyAction) : (c.step action).Sound := by
  cases action with
  | commit request command => exact h.commit request command
  | authorize id handshake security now => exact h.authorize id handshake security now
  | insert id => exact h.insert id
  | look id => exact h.look id
  | recheck id => exact h.recheck id
  | leave id => exact h.leave id
  | beginReconcile => exact h.beginReconcile
  | endReconcile place => exact h.endReconcile place
  | dispose => exact h.dispose

theorem Sound.run (h : c.Sound) (actions : List CustodyAction) : (c.run actions).Sound := by
  induction actions generalizing c with
  | nil => exact h
  | cons action actions ih => exact ih (h.step action)

/-- **No connection outlives its place.**  However commands, admissions, registrations,
reconciliations and the end of the database fall between each other: once nothing is under way and
each change was followed by a reconciliation with a state no older, every connection of the database
that must not stay is told to close. -/
theorem isCancelled_of_settled (log : Consensus) (name : String) (history : Nat)
    (actions : List CustodyAction) (hc : (start log name history).run actions = c)
    (hsettled : c.Settled) {connection : IncomingConnection}
    (hconnection : c.database.incoming.get? id = some connection)
    (hlost : c.Lost connection.terms) : c.database.isCancelled id = true := by
  have hsound : c.Sound := hc ▸ (sound_start log name history).run actions
  rcases hsettled.reconciled_eq with hdisposed | hcovered
  · exact LoadedDatabase.isCancelled_of_disposed hdisposed id
  · cases hrevoked : connection.revoked with
    | true => exact LoadedDatabase.isCancelled_of_revoked hconnection hrevoked
    | false =>
        -- It was looked at again by a state that is no older than the last change.
        have hheld := hsound.held hcovered hconnection hrevoked
        simp only [Held, hsettled.arrived id] at hheld
        obtain ⟨record, hrecord, hnone⟩ := hheld
        cases hlost with
        | disposed hdisposed => exact LoadedDatabase.isCancelled_of_disposed hdisposed id
        | deleted hgone => cases hrecord.symm.trans hgone
        | revoked hrecord' hreason =>
            cases hrecord.symm.trans hrecord'
            cases hnone.symm.trans hreason

/-! ### A hub that goes while a sink comes in -/

/-- A log in which the database has an open hub. -/
def openFeed : Consensus :=
  (Consensus.empty.proposeAll
    [("1", .putClusterTopology ⟨[⟨⟨"A"⟩, "mem://a", true⟩]⟩),
      ("2", .putDatabase "orders" ⟨[⟨"A"⟩]⟩),
      ("3", .defineHub "orders" (HubDefinition.new "feed" .hubToSink))]).2.1

/-- A sink is let in, its hub is deleted, and the database is brought in line with that before it
has the connection. -/
def overtaken : List CustodyAction :=
  [.authorize 0 Handshake.readerHandshake .unsecured ⟨0, 0⟩,
    .commit "4" (.deleteTask "orders" ⟨3⟩), .beginReconcile, .endReconcile 0,
    .insert 0, .look 0, .recheck 0]

/-- The sink that was overtaken is told to close. -/
theorem isCancelled_of_settled_overtaken :
    ∃ c connection, (start openFeed "orders" 4).run overtaken = c ∧ c.Settled ∧
      c.database.incoming.get? 0 = some connection ∧ c.Lost connection.terms ∧
      c.database.isCancelled 0 = true := by
  obtain ⟨c, hc⟩ : ∃ c, (start openFeed "orders" 4).run overtaken = c := ⟨_, rfl⟩
  have hsettled : c.Settled := by
    have harrivals : c.arrivals.toList = [] := by
      rw [← hc]
      exact List.eq_nil_of_length_eq_zero (by decide +kernel)
    refine ⟨fun id => ?_, ?_, .inr ?_⟩
    · simp [SortedMap.get?, harrivals, SortedMap.findList]
    · rw [← hc]
      exact List.eq_nil_of_length_eq_zero (by decide +kernel)
    · rw [← hc]
      decide +kernel
  have hterms : (c.database.incoming.get? 0).bind (fun connection =>
      c.record?.bind connection.terms.revocation?) = some "hub deleted" := by
    rw [← hc]
    decide +kernel
  obtain ⟨connection, hconnection, hreason⟩ := Option.bind_eq_some_iff.1 hterms
  obtain ⟨record, hrecord, hreason⟩ := Option.bind_eq_some_iff.1 hreason
  have hlost : c.Lost connection.terms := .revoked hrecord hreason
  exact ⟨c, connection, hc, hsettled, hconnection, hlost,
    isCancelled_of_settled openFeed "orders" 4 overtaken hc hsettled hconnection hlost⟩

end Custody

end HubReplication
