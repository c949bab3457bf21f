/-
**Who may be let in.**

A sink is let in by a chain of look-ups and checks: the hub by its name, the certificate out of its
text, the grant by its thumbprint, then the directions, the times and the paths.  In a sound record
the look-ups find the one hub and the one grant there can be, so what the chain lets in can be said
without it: the sink is entitled to the hub by a certificate and a grant.

Main definitions:

* `Handshake.AsksFor` — the hub that a sink asks for, and may ask for;
* `Handshake.HoldsGrant` — the grant of the certificate that a sink presents;
* `Handshake.Entitled` — a sink is entitled to a hub.

Main results:

* `Handshake.requestedHub_eq_ok_iff` — the hub that is found is the one asked for;
* `Handshake.authorizeSink_secured_eq_ok_iff` — a secured server lets in who is entitled;
* `Handshake.authorizeSink_unsecured_eq_ok_iff` — an unsecured one whoever asks;
* `Handshake.Entitled.unique` — by one hub, one certificate and one grant.
-/

import HubReplication.Connection.Admission
import HubReplication.Proofs.Cluster.Lookup

set_option relaxedAutoImplicit false
set_option autoImplicit false

namespace HubReplication

namespace Handshake

variable {h : Handshake} {r : DatabaseRecord} {now : Instant} {hub hub' : HubDefinition}
  {certificate certificate' : Certificate} {grant grant' : HubAccessGrant}

/-! ### The hub that is asked for -/

/-- A sink asks for a hub of a record by its name, case aside, in directions that the hub allows,
and the hub is switched on. -/
structure AsksFor (h : Handshake) (r : DatabaseRecord) (hub : HubDefinition) : Prop where
  listed : hub ∈ r.hubs
  named : ∃ name, h.hub = some name ∧ Text.sameName hub.name name = true
  enabled : hub.disabled = false
  mode_nonempty : h.requestedMode.isEmpty = false
  mode_contained : hub.mode.contains h.requestedMode = true

theorem AsksFor.hub? (h' : h.AsksFor r hub) (hr : HubsSound r.hubs r.hubGrants) :
    r.hub? (h.hub.getD "") = some hub := by
  obtain ⟨name, hname, hsame⟩ := h'.named
  rw [hname]
  exact hr.hub?_eq_some_iff.2 ⟨h'.listed, hsame⟩

/-- The hub is found by its name, switched on, and allows the directions. -/
theorem requestedHub_eq_ok_iff_found :
    h.requestedHub r = .ok hub ↔
      r.hub? (h.hub.getD "") = some hub ∧ hub.disabled = false ∧
        h.requestedMode.isEmpty = false ∧ hub.mode.contains h.requestedMode = true := by
  constructor
  · intro hok
    simp only [requestedHub] at hok
    split at hok
    · cases hok
    · rename_i found hfound
      split at hok
      · cases hok
      · rename_i henabled
        split at hok
        · cases hok
        · rename_i hmode
          cases hok
          simp only [Bool.or_eq_true, Bool.not_eq_true', not_or, Bool.not_eq_true,
            Bool.not_eq_false] at hmode
          exact ⟨hfound, by simpa using henabled, hmode.1, hmode.2⟩
  · rintro ⟨hfound, henabled, hempty, hmode⟩
    simp only [requestedHub, hfound, henabled, hempty, hmode, Bool.false_or, Bool.not_true,
      Bool.false_eq_true, if_false]

/-- The hub that is found is the one asked for. -/
theorem requestedHub_eq_ok_iff (hr : HubsSound r.hubs r.hubGrants) :
    h.requestedHub r = .ok hub ↔ h.AsksFor r hub := by
  rw [requestedHub_eq_ok_iff_found]
  constructor
  · rintro ⟨hfound, henabled, hempty, hmode⟩
    obtain ⟨hlisted, hsame⟩ := hr.hub?_eq_some_iff.1 hfound
    refine ⟨hlisted, ?_, henabled, hempty, hmode⟩
    cases hname : h.hub with
    | none =>
        -- Who names no hub asks for the empty name, which no hub has.
        rw [hname, Option.getD_none, hr.hub?_empty] at hfound
        cases hfound
    | some name =>
        rw [hname] at hsame
        exact ⟨name, rfl, hsame⟩
  · intro hasks
    exact ⟨hasks.hub? hr, hasks.enabled, hasks.mode_nonempty, hasks.mode_contained⟩

/-! ### The grant that is held -/

/-- A sink presents a certificate that holds a grant on a hub of a record. -/
structure HoldsGrant (h : Handshake) (r : DatabaseRecord) (hub : HubDefinition)
    (certificate : Certificate) (grant : HubAccessGrant) : Prop where
  presented : ∃ encoded, h.certificate = some encoded ∧ Certificate.parse encoded = .ok certificate
  granted : grant ∈ r.grants hub.name
  thumbprint : sameThumbprint grant.certificateThumbprint certificate.info.thumbprint = true

theorem presented_eq_ok_iff {missing : String} :
    h.presented missing = .ok certificate ↔
      ∃ encoded, h.certificate = some encoded ∧ Certificate.parse encoded = .ok certificate := by
  unfold presented
  cases h.certificate with
  | none => simp
  | some encoded => cases hparse : Certificate.parse encoded <;> simp [hparse]

/-- The certificate that is presented holds one grant on the hub. -/
theorem HoldsGrant.unique (hr : HubsSound r.hubs r.hubGrants) (hhub : hub ∈ r.hubs)
    (hg : h.HoldsGrant r hub certificate grant) (hg' : h.HoldsGrant r hub certificate' grant') :
    certificate' = certificate ∧ grant' = grant := by
  have hcertificate : certificate' = certificate := by
    obtain ⟨encoded, hencoded, hparse⟩ := hg.presented
    obtain ⟨encoded', hencoded', hparse'⟩ := hg'.presented
    obtain rfl : encoded' = encoded := Option.some.inj (hencoded'.symm.trans hencoded)
    rw [hparse] at hparse'
    cases hparse'
    rfl
  subst hcertificate
  have hfind := (hr.grant?_eq_some_iff hhub).2 ⟨hg.granted, hg.thumbprint⟩
  have hfind' := (hr.grant?_eq_some_iff hhub).2 ⟨hg'.granted, hg'.thumbprint⟩
  exact ⟨rfl, Option.some.inj (hfind'.symm.trans hfind)⟩

/-! ### Entitlement -/

/-- A sink is entitled to a hub: it asks for it, the certificate that it presents holds a grant on
it, the times are right, and on a hub that filters the grant names paths for every direction it is
used in. -/
structure Entitled (h : Handshake) (r : DatabaseRecord) (now : Instant) (hub : HubDefinition)
    (certificate : Certificate) (grant : HubAccessGrant) : Prop where
  asks : h.AsksFor r hub
  holds : h.HoldsGrant r hub certificate grant
  certificate_valid : certificate.info.isValidAt now = true
  grant_valid : grant.certificateInfo.isValidAt now = true
  hubToSink_nonempty : hub.withFiltering = true → grant.hubToSinkPaths.isEmpty = false
  sinkToHub_nonempty : hub.withFiltering = true →
    h.requestedMode.contains Mode.sinkToHub = true → grant.sinkToHubPaths.isEmpty = false

theorem checkFilter_eq_ok_iff {thumbprint : String} :
    h.checkFilter hub thumbprint grant = .ok () ↔
      (hub.withFiltering = true → grant.hubToSinkPaths.isEmpty = false) ∧
        (hub.withFiltering = true → h.requestedMode.contains Mode.sinkToHub = true →
          grant.sinkToHubPaths.isEmpty = false) := by
  unfold checkFilter
  cases hub.withFiltering <;> cases grant.hubToSinkPaths.isEmpty <;>
    cases h.requestedMode.contains Mode.sinkToHub <;> cases grant.sinkToHubPaths.isEmpty <;> simp

/-- Who presents a certificate is let in by the grant that is found for it, if the times are right
and the grant has the paths that the hub filters by. -/
theorem authorizeHolder_eq_ok_iff_found {admission : Admission} :
    h.authorizeHolder hub r now = .ok admission ↔
      ∃ certificate grant,
        h.presented ("hub '" ++ hub.name ++ "' requires a client certificate") = .ok certificate ∧
        r.grant? hub.name certificate.info.thumbprint = some grant ∧
        certificate.info.isValidAt now = true ∧ grant.certificateInfo.isValidAt now = true ∧
        h.checkFilter hub certificate.info.thumbprint grant = .ok () ∧
        admission = h.grantedAdmission hub certificate.info.thumbprint grant := by
  constructor
  · intro hok
    unfold authorizeHolder at hok
    cases hpresented : h.presented ("hub '" ++ hub.name ++ "' requires a client certificate") with
    | error e =>
        rw [hpresented] at hok
        cases hok
    | ok certificate =>
        simp only [hpresented, bind, Except.bind] at hok
        split at hok
        · cases hok
        · rename_i grant hgrant
          split at hok
          · cases hok
          · rename_i hvalid
            simp only [Bool.or_eq_true, Bool.not_eq_true', not_or, Bool.not_eq_false] at hvalid
            split at hok
            · cases hok
            · rename_i hfilter
              cases hok
              exact ⟨certificate, grant, rfl, hgrant, hvalid.1, hvalid.2, hfilter, rfl⟩
  · rintro ⟨certificate, grant, hpresented, hgrant, hvalid, hvalid', hfilter, rfl⟩
    simp [authorizeHolder, hpresented, hgrant, hvalid, hvalid', hfilter, bind, Except.bind, pure,
      Except.pure]

/-- Who presents a certificate is let in by the grant that it holds. -/
theorem authorizeHolder_eq_ok_iff (hr : HubsSound r.hubs r.hubGrants) {admission : Admission}
    (hasks : h.AsksFor r hub) :
    h.authorizeHolder hub r now = .ok admission ↔
      ∃ certificate grant, h.Entitled r now hub certificate grant ∧
        admission = h.grantedAdmission hub certificate.info.thumbprint grant := by
  rw [authorizeHolder_eq_ok_iff_found]
  constructor
  · rintro ⟨certificate, grant, hpresented, hgrant, hvalid, hvalid', hfilter, hadmission⟩
    obtain ⟨hmem, hsame⟩ := (hr.grant?_eq_some_iff hasks.listed).1 hgrant
    obtain ⟨hout, hin⟩ := checkFilter_eq_ok_iff.1 hfilter
    exact ⟨certificate, grant, ⟨hasks, ⟨presented_eq_ok_iff.1 hpresented, hmem, hsame⟩, hvalid,
      hvalid', hout, hin⟩, hadmission⟩
  · rintro ⟨certificate, grant, hent, hadmission⟩
    have hgrant := (hr.grant?_eq_some_iff hasks.listed).2
      ⟨hent.holds.granted, hent.holds.thumbprint⟩
    have hfilter : h.checkFilter hub certificate.info.thumbprint grant = .ok () :=
      checkFilter_eq_ok_iff.2 ⟨hent.hubToSink_nonempty, hent.sinkToHub_nonempty⟩
    exact ⟨certificate, grant, presented_eq_ok_iff.2 hent.holds.presented, hgrant,
      hent.certificate_valid, hent.grant_valid, hfilter, hadmission⟩

/-- Whoever is let in asks for a hub, and the security of the server decides the rest. -/
theorem authorizeSink_eq_ok_iff (hr : HubsSound r.hubs r.hubGrants) {security : ServerSecurity}
    {admission : Admission} :
    h.authorizeSink security r now = .ok admission ↔
      ∃ hub, h.AsksFor r hub ∧
        (if security.isSecured then h.authorizeHolder hub r now else .ok (h.openAdmission hub)) =
          .ok admission := by
  unfold authorizeSink
  constructor
  · intro hok
    split at hok
    · cases hok
    · rename_i hub hrequested
      exact ⟨hub, (requestedHub_eq_ok_iff hr).1 hrequested, hok⟩
  · rintro ⟨hub, hasks, hok⟩
    rw [(requestedHub_eq_ok_iff hr).2 hasks]
    exact hok

/-- A secured server lets in who is entitled, as the grant says. -/
theorem authorizeSink_secured_eq_ok_iff (hr : HubsSound r.hubs r.hubGrants)
    {node : CertificateBundle} {admission : Admission} :
    h.authorizeSink (.secured node) r now = .ok admission ↔
      ∃ hub certificate grant, h.Entitled r now hub certificate grant ∧
        admission = h.grantedAdmission hub certificate.info.thumbprint grant := by
  rw [authorizeSink_eq_ok_iff hr]
  simp only [ServerSecurity.isSecured, if_true]
  constructor
  · rintro ⟨hub, hasks, hok⟩
    exact ⟨hub, (authorizeHolder_eq_ok_iff hr hasks).1 hok⟩
  · rintro ⟨hub, certificate, grant, hent, hadmission⟩
    refine ⟨hub, hent.asks, (authorizeHolder_eq_ok_iff hr hent.asks).2 ?_⟩
    exact ⟨certificate, grant, hent, hadmission⟩

/-- An unsecured server lets in whoever asks for a hub. -/
theorem authorizeSink_unsecured_eq_ok_iff (hr : HubsSound r.hubs r.hubGrants)
    {admission : Admission} :
    h.authorizeSink .unsecured r now = .ok admission ↔
      ∃ hub, h.AsksFor r hub ∧ admission = h.openAdmission hub := by
  rw [authorizeSink_eq_ok_iff hr]
  simp only [ServerSecurity.isSecured, Bool.false_eq_true, if_false, Except.ok.injEq, eq_comm]

/-- A sink is entitled by one hub, one certificate and one grant. -/
theorem Entitled.unique (hr : HubsSound r.hubs r.hubGrants)
    (hent : h.Entitled r now hub certificate grant)
    (hent' : h.Entitled r now hub' certificate' grant') :
    hub' = hub ∧ certificate' = certificate ∧ grant' = grant := by
  have hhub : hub' = hub :=
    Option.some.inj ((hent'.asks.hub? hr).symm.trans (hent.asks.hub? hr))
  subst hhub
  exact ⟨rfl, hent.holds.unique hr hent.asks.listed hent'.holds⟩

end Handshake

end HubReplication
