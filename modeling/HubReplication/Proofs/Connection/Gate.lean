/-
**The gate of an unsecured server.**

Filtering, and taking documents from sinks, rest on knowing the sink.  A secured server knows it:
who asks for a hub that filters is sent what a grant allows, and who pushes holds a grant.  An
unsecured server knows nobody and lets in whoever asks for a hub that is there.  What keeps it from
serving a hub that filters or takes is only that no such hub is defined through it; the log does not
know the security of a server, and another server may have put such a hub there.

Main definitions:

* `Handshake.Gated` — an admission rests on a grant wherever it has to;
* `ServerSecurity.Gates` — every admission to the hubs of a record does.

Main results:

* `ServerSecurity.gates_iff` — exactly if every hub that is switched on might have been defined
  through the server;
* `ServerSecurity.not_gates_filteredFeed` — which the log does not see to.
-/

import HubReplication.Proofs.Connection.Bounds

set_option relaxedAutoImplicit false
set_option autoImplicit false

namespace HubReplication

namespace Mode

theorem contains_trans {a b c : Mode} (hab : a.contains b = true) (hbc : b.contains c = true) :
    a.contains c = true := by
  simp only [contains, beq_iff_eq] at *
  calc a.flags &&& c.flags
      = a.flags &&& (b.flags &&& c.flags) := by rw [hbc]
    _ = a.flags &&& b.flags &&& c.flags := (UInt8.and_assoc ..).symm
    _ = c.flags := by rw [hab, hbc]

end Mode

/-! ### Hubs that a server may define -/

namespace HubDefinition

variable {hub : HubDefinition}

theorem validate_secured (hshape : hub.validateShape = .ok ()) (node : CertificateBundle) :
    hub.validate (.secured node) = .ok () := by
  simp [validate, hshape, ServerSecurity.isSecured]

/-- An unsecured server defines hubs of sound shape that neither filter nor take. -/
theorem validate_unsecured_iff (hshape : hub.validateShape = .ok ()) :
    hub.validate .unsecured = .ok () ↔
      hub.withFiltering = false ∧ hub.mode.contains Mode.sinkToHub = false := by
  simp only [validate, hshape, ServerSecurity.isSecured, Bool.false_eq_true, if_false]
  cases hub.withFiltering <;> cases hub.mode.contains Mode.sinkToHub <;> simp

theorem mode_nonempty_of_validateShape (hshape : hub.validateShape = .ok ()) :
    hub.mode.isEmpty = false := by
  unfold validateShape at hshape
  split at hshape
  · cases hshape
  · split at hshape
    · cases hshape
    · rename_i hmode
      simpa using hmode

end HubDefinition

/-! ### Admissions that rest on grants -/

namespace Handshake

/-- An admission to a hub rests on a grant wherever it has to: on a hub that filters, what goes out
is what a grant allows that the presented certificate holds, and who may push holds a grant. -/
structure Gated (h : Handshake) (r : DatabaseRecord) (hub : HubDefinition)
    (admission : Admission) : Prop where
  filtered : hub.withFiltering = true → admission.outboundPaths.isEmpty = false ∧
    ∃ certificate grant, h.HoldsGrant r hub certificate grant ∧
      admission.outboundPaths = grant.hubToSinkPaths
  taken : admission.mode.contains Mode.sinkToHub = true →
    ∃ certificate grant, h.HoldsGrant r hub certificate grant

variable {h : Handshake} {r : DatabaseRecord} {now : Instant} {hub : HubDefinition}

theorem Entitled.gated {certificate : Certificate} {grant : HubAccessGrant}
    (hent : h.Entitled r now hub certificate grant) :
    h.Gated r hub (h.grantedAdmission hub certificate.info.thumbprint grant) := by
  constructor
  case filtered =>
    intro hfilter
    have hpaths : (h.grantedAdmission hub certificate.info.thumbprint grant).outboundPaths =
        grant.hubToSinkPaths := if_pos hfilter
    rw [hpaths]
    exact ⟨hent.hubToSink_nonempty hfilter, certificate, grant, hent.holds, rfl⟩
  case taken =>
    intro _
    exact ⟨certificate, grant, hent.holds⟩

/-- A sink that asks for everything a hub allows, and presents nothing. -/
def stranger (hub : HubDefinition) : Handshake where
  version := protocolVersion
  kind := .sink
  database := ""
  hub := some hub.name
  requestedMode := hub.mode
  sourceDatabase := ""
  sourceDatabaseId := ""
  sourceNode := none
  certificate := none
  compression := false

theorem asksFor_stranger (hmem : hub ∈ r.hubs) (henabled : hub.disabled = false)
    (hshape : hub.validateShape = .ok ()) : (stranger hub).AsksFor r hub where
  listed := hmem
  named := ⟨hub.name, rfl, Text.sameName_self hub.name⟩
  enabled := henabled
  mode_nonempty := HubDefinition.mode_nonempty_of_validateShape hshape
  mode_contained := Mode.contains_self hub.mode

theorem not_holdsGrant_stranger {certificate : Certificate} {grant : HubAccessGrant} :
    ¬(stranger hub).HoldsGrant r hub certificate grant := by
  intro hholds
  obtain ⟨encoded, hencoded, -⟩ := hholds.presented
  cases hencoded

end Handshake

namespace ServerSecurity

open Handshake

/-- Whatever a server lets in to the hubs of a record rests on a grant wherever it has to. -/
def Gates (security : ServerSecurity) (r : DatabaseRecord) : Prop :=
  ∀ (h : Handshake) (now : Instant) (admission : Admission) (hub : HubDefinition),
    h.authorizeSink security r now = .ok admission → r.hub? (h.hub.getD "") = some hub →
      h.Gated r hub admission

variable {r : DatabaseRecord}

theorem gates_secured (hr : HubsSound r.hubs r.hubGrants) (node : CertificateBundle) :
    (secured node).Gates r := by
  intro h now admission hub hadmission hfound
  obtain ⟨hub', certificate, grant, hent, rfl⟩ := (authorizeSink_secured_eq_ok_iff hr).1 hadmission
  obtain rfl : hub' = hub := Option.some.inj ((hent.asks.hub? hr).symm.trans hfound)
  exact hent.gated

theorem gates_unsecured (hr : HubsSound r.hubs r.hubGrants)
    (hplain : ∀ hub ∈ r.hubs, hub.disabled = false →
      hub.withFiltering = false ∧ hub.mode.contains Mode.sinkToHub = false) :
    unsecured.Gates r := by
  intro h now admission hub hadmission hfound
  obtain ⟨hub', hasks, rfl⟩ := (authorizeSink_unsecured_eq_ok_iff hr).1 hadmission
  obtain rfl : hub' = hub := Option.some.inj ((hasks.hub? hr).symm.trans hfound)
  obtain ⟨hfilter, hmode⟩ := hplain hub' hasks.listed hasks.enabled
  -- Neither of what rests on a grant comes up.
  constructor
  case filtered =>
    intro htrue
    rw [hfilter] at htrue
    cases htrue
  case taken =>
    intro htrue
    have hboth := Mode.contains_trans hasks.mode_contained htrue
    rw [hmode] at hboth
    cases hboth

/-- A stranger is let in to any hub of an unsecured server, so none may filter or take. -/
theorem plain_of_gates_unsecured (hr : HubsSound r.hubs r.hubGrants) (hgates : unsecured.Gates r)
    {hub : HubDefinition} (hmem : hub ∈ r.hubs) (henabled : hub.disabled = false) :
    hub.withFiltering = false ∧ hub.mode.contains Mode.sinkToHub = false := by
  have hasks := asksFor_stranger hmem henabled (hr.shape hmem)
  have hadmission : (stranger hub).authorizeSink .unsecured r default =
      .ok ((stranger hub).openAdmission hub) :=
    (authorizeSink_unsecured_eq_ok_iff hr).2 ⟨hub, hasks, rfl⟩
  have hgated := hgates _ _ _ _ hadmission (hasks.hub? hr)
  constructor
  · rw [Bool.eq_false_iff]
    intro hfilter
    obtain ⟨hnonempty, -⟩ := hgated.filtered hfilter
    cases hnonempty
  · rw [Bool.eq_false_iff]
    intro hmode
    obtain ⟨certificate, grant, hholds⟩ := hgated.taken hmode
    exact not_holdsGrant_stranger hholds

/-- For every record of a state there is, every admission of a server rests on a grant wherever it
has to, exactly if every hub of the record that is switched on passes what the server checks before
it defines a hub. -/
theorem gates_iff {s : ClusterState} (hs : s.Reachable) {database : String}
    (hdatabase : s.database? database = some r) (security : ServerSecurity) :
    security.Gates r ↔
      ∀ hub ∈ r.hubs, hub.disabled = false → hub.validate security = .ok () := by
  have hr := (hs.wellFormed.record hdatabase).hubs
  cases security with
  | secured node =>
      constructor
      · intro _ hub hmem _
        exact HubDefinition.validate_secured (hr.shape hmem) node
      · intro _
        exact gates_secured hr node
  | unsecured =>
      constructor
      · intro hgates hub hmem henabled
        rw [HubDefinition.validate_unsecured_iff (hr.shape hmem)]
        exact plain_of_gates_unsecured hr hgates hmem henabled
      · intro hvalid
        refine gates_unsecured hr fun hub hmem henabled => ?_
        exact (HubDefinition.validate_unsecured_iff (hr.shape hmem)).1 (hvalid hub hmem henabled)

theorem exists_filteredFeed :
    ∃ r, (ClusterState.replay filteredFeed).database? "orders" = some r ∧
      r.hubs = [definedFeed] := by
  have hhubs : ((ClusterState.replay filteredFeed).database? "orders").map (·.hubs) =
      some [definedFeed] := by decide +kernel
  exact Option.map_eq_some_iff.1 hhubs

theorem reachable_filteredFeed : (ClusterState.replay filteredFeed).Reachable :=
  ClusterState.reachable_replay (by decide) (by decide)

/-- A secured server serves a hub that filters as its grants say, an unsecured one does not. -/
theorem gates_iff_filteredFeed :
    ∃ r, (ClusterState.replay filteredFeed).database? "orders" = some r ∧
      (secured ⟨reader, [0]⟩).Gates r ∧ ¬unsecured.Gates r := by
  obtain ⟨r, hr, hhubs⟩ := exists_filteredFeed
  refine ⟨r, hr, (gates_iff reachable_filteredFeed hr _).2 fun hub hmem _ => ?_, fun hgates => ?_⟩
  · rw [hhubs, List.mem_singleton] at hmem
    rw [hmem]
    rfl
  · have hvalid := (gates_iff reachable_filteredFeed hr _).1 hgates definedFeed
      (hhubs ▸ List.mem_singleton_self _) rfl
    cases hvalid

/-- Not every server gates every record: a hub that filters, once it is in the log, is served by an
unsecured server to whoever asks, without paths. -/
theorem not_gates_filteredFeed :
    ¬∀ (s : ClusterState) (database : String) (r : DatabaseRecord) (security : ServerSecurity),
      s.Reachable → s.database? database = some r → security.Gates r := by
  intro hall
  obtain ⟨r, hr, hhubs⟩ := exists_filteredFeed
  have hgates := hall _ _ r .unsecured reachable_filteredFeed hr
  have hsound := (reachable_filteredFeed.wellFormed.record hr).hubs
  obtain ⟨hplain, -⟩ :=
    plain_of_gates_unsecured hsound hgates (hhubs ▸ List.mem_singleton_self definedFeed) rfl
  cases hplain

end ServerSecurity

end HubReplication
