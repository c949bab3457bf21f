/-
**Letting in again.**

A connection keeps its place for as long as the record does not speak against its terms.  So what
the terms hold is what the record is held to, and a connection that stays would be let in again by
the record of today: in the same directions, over the same paths.  One setting of a hub is not
among the terms: how old an item must be before it is sent.  A connection that stays goes on with
the delay of the hub as it was, whatever the delay is today.

Main definitions:

* `DatabaseRecord.AgreesOnCertificates` — a thumbprint stands for one certificate in two records;
* `IncomingTerms.delayIn` — the delay that a record puts on a connection under some terms.

Main results:

* `IncomingTerms.revocation?_eq_none_iff` — what a record has to say for a connection to stay;
* `Handshake.readmitted_iff` — who stays is let in again as before, but for the delay, which is as
  before only where the hub has the delay it had;
* `Handshake.not_readmitted_delayedFeed` — and it need not have.
-/

import HubReplication.Proofs.Connection.Bounds

set_option relaxedAutoImplicit false
set_option autoImplicit false

namespace HubReplication

/-! ### Looking up by other names -/

namespace DatabaseRecord

variable {r : DatabaseRecord} {a b name : String} {hub : HubDefinition} {grant : HubAccessGrant}

/-- A hub is found by any spelling of its name. -/
theorem hub?_congr (h : Text.sameName a b = true) : r.hub? a = r.hub? b := by
  have hlower := Text.sameName_eq_true_iff.1 h
  simp only [hub?, Text.sameName, hlower]

theorem sameName_of_hub? (h : r.hub? name = some hub) : Text.sameName hub.name name = true := by
  unfold hub? at h
  have hsame := List.find?_some h
  exact hsame

/-- A hub that was found by some name is found by its own. -/
theorem hub?_name (h : r.hub? name = some hub) : r.hub? hub.name = some hub := by
  rw [hub?_congr (sameName_of_hub? h), h]

theorem grant?_congr (h : Text.sameName a b = true) (thumbprint : String) :
    r.grant? a thumbprint = r.grant? b thumbprint := by
  have hlower := Text.sameName_eq_true_iff.1 h
  simp only [grant?, grants, grantKey, hlower]

/-- In two records a thumbprint stands for one certificate. -/
def AgreesOnCertificates (r r' : DatabaseRecord) : Prop :=
  ∀ {hub hub' grant grant'}, grant ∈ r.grants hub → grant' ∈ r'.grants hub' →
    sameThumbprint grant.certificateThumbprint grant'.certificateThumbprint = true →
    grant'.certificateInfo = grant.certificateInfo

/-- The grants that are found for one certificate in two records tell the same of it. -/
theorem AgreesOnCertificates.certificateInfo_eq {r' : DatabaseRecord}
    (h : r.AgreesOnCertificates r') {thumbprint : String} {grant' : HubAccessGrant}
    (hgrant : r.grant? a thumbprint = some grant) (hgrant' : r'.grant? b thumbprint = some grant') :
    grant'.certificateInfo = grant.certificateInfo := by
  unfold grant? at hgrant hgrant'
  have hsame := List.find?_some hgrant
  have hsame' := List.find?_some hgrant'
  refine h (List.mem_of_find?_eq_some hgrant) (List.mem_of_find?_eq_some hgrant') ?_
  rw [sameThumbprint_eq_true_iff] at hsame hsame' ⊢
  exact hsame.trans hsame'.symm

end DatabaseRecord

/-! ### What a record is held to -/

namespace IncomingTerms

variable {t : IncomingTerms} {r : DatabaseRecord} {name : String}

/-- The delay that a record puts on a connection: the one of its hub. -/
def delayIn (t : IncomingTerms) (r : DatabaseRecord) : Nat :=
  ((t.hub.bind r.hub?).map (·.delay)).getD 0

theorem grantRevocation?_eq_none_iff {grant? : Option HubAccessGrant} :
    t.grantRevocation? grant? = none ↔
      ∃ grant, grant? = some grant ∧ grant.hubToSinkPaths = t.hubToSinkPaths ∧
        grant.sinkToHubPaths = t.sinkToHubPaths := by
  cases grant? with
  | none => simp [grantRevocation?]
  | some grant => simp [grantRevocation?]

/-- A connection of a hub stays where the hub is switched on and as it was, and the grant of its
certificate, if it has one, allows the paths that it allowed. -/
theorem revocation?_eq_none_iff (hname : t.hub = some name) :
    t.revocation? r = none ↔
      ∃ hub, r.hub? name = some hub ∧ hub.disabled = false ∧ hub.mode = t.hubMode ∧
        hub.withFiltering = t.withFiltering ∧
        ∀ thumbprint, t.thumbprint = some thumbprint →
          t.grantRevocation? (r.grant? name thumbprint) = none := by
  simp only [revocation?, hname]
  cases hhub : r.hub? name with
  | none => simp
  | some hub =>
      cases hdisabled : hub.disabled with
      | true => simp [hdisabled]
      | false =>
          by_cases hchanged : hub.mode ≠ t.hubMode ∨ hub.withFiltering ≠ t.withFiltering
          · simp only [hdisabled, Bool.false_eq_true, if_false, if_pos hchanged]
            grind
          · simp only [hdisabled, Bool.false_eq_true, if_false, if_neg hchanged]
            cases t.thumbprint <;> grind

end IncomingTerms

/-! ### Letting in again -/

/-- Two admissions let in for the same directions and over the same paths. -/
structure Admission.SameRights (a a' : Admission) : Prop where
  mode_eq : a'.mode = a.mode
  outboundPaths_eq : a'.outboundPaths = a.outboundPaths
  inboundPaths_eq : a'.inboundPaths = a.inboundPaths

namespace Handshake

variable {h : Handshake} {security : ServerSecurity} {now : Instant} {r r' : DatabaseRecord}
  {hub hub' : HubDefinition} {grant grant' : HubAccessGrant} {thumbprint : String}
  {a : Admission}

/-- Who asked for a hub gets the hub of another record, if that allows what the one did. -/
theorem requestedHub_again (hok : h.requestedHub r = .ok hub)
    (hfound : r'.hub? hub.name = some hub') (henabled : hub'.disabled = false)
    (hmode : hub'.mode = hub.mode) : h.requestedHub r' = .ok hub' := by
  obtain ⟨hhub, -, hempty, hcontains⟩ := requestedHub_eq_ok_iff_found.1 hok
  rw [DatabaseRecord.hub?_congr (DatabaseRecord.sameName_of_hub? hhub)] at hfound
  rw [← hmode] at hcontains
  exact requestedHub_eq_ok_iff_found.2 ⟨hfound, henabled, hempty, hcontains⟩

theorem checkFilter_again (hok : h.checkFilter hub thumbprint grant = .ok ())
    (hfiltering : hub'.withFiltering = hub.withFiltering)
    (hout : grant'.hubToSinkPaths = grant.hubToSinkPaths)
    (hin : grant'.sinkToHubPaths = grant.sinkToHubPaths) :
    h.checkFilter hub' thumbprint grant' = .ok () := by
  rw [checkFilter_eq_ok_iff] at hok ⊢
  rw [hfiltering, hout, hin]
  exact hok

/-- Who was let in by a grant is let in by the grant of another record, if that allows the same
paths and the hub filters as before. -/
theorem authorizeHolder_again (hok : h.authorizeHolder hub r now = .ok a)
    (hagree : r.AgreesOnCertificates r') (hname : Text.sameName hub'.name hub.name = true)
    (hfiltering : hub'.withFiltering = hub.withFiltering)
    (hgranted : ∀ thumbprint, a.terms.thumbprint = some thumbprint →
      a.terms.grantRevocation? (r'.grant? hub.name thumbprint) = none) :
    ∃ a', h.authorizeHolder hub' r' now = .ok a' ∧ a.SameRights a' ∧ a'.delay = hub'.delay := by
  obtain ⟨certificate, grant, hpresented, hgrant, hvalid, hvalid', hfilter, rfl⟩ :=
    authorizeHolder_eq_ok_iff_found.1 hok
  obtain ⟨grant', hgrant', hout, hin⟩ :=
    IncomingTerms.grantRevocation?_eq_none_iff.1 (hgranted _ rfl)
  have hinfo := hagree.certificateInfo_eq hgrant hgrant'
  have hagain : h.authorizeHolder hub' r' now =
      .ok (h.grantedAdmission hub' certificate.info.thumbprint grant') := by
    refine authorizeHolder_eq_ok_iff_found.2 ⟨certificate, grant', ?_, ?_, hvalid, ?_, ?_, rfl⟩
    · exact presented_eq_ok_iff.2 (presented_eq_ok_iff.1 hpresented)
    · rw [DatabaseRecord.grant?_congr hname, hgrant']
    · rw [hinfo]
      exact hvalid'
    · exact checkFilter_again hfilter hfiltering hout hin
  refine ⟨_, hagain, ⟨rfl, ?_, hin⟩, rfl⟩
  simp only [grantedAdmission, hfiltering]
  simp only [grantedAdmission] at hout
  rw [hout]

/-- The terms that a sink is let in under name the hub that it asked for, as the hub was. -/
theorem terms_of_authorizeSink (hrequested : h.requestedHub r = .ok hub)
    (hok : h.authorizeSink security r now = .ok a) :
    a.terms.hub = some hub.name ∧ a.terms.hubMode = hub.mode ∧
      a.terms.withFiltering = hub.withFiltering ∧ a.delay = hub.delay := by
  simp only [authorizeSink, hrequested] at hok
  split at hok
  · obtain ⟨certificate, grant, -, -, -, -, -, rfl⟩ := authorizeHolder_eq_ok_iff_found.1 hok
    exact ⟨rfl, rfl, rfl, rfl⟩
  · cases hok
    exact ⟨rfl, rfl, rfl, rfl⟩

/-- A sink that may stay is let in again for the same directions and paths, each time with the
delay of the hub. -/
theorem authorizeSink_again (hok : h.authorizeSink security r now = .ok a)
    (hagree : r.AgreesOnCertificates r') (hstays : a.terms.revocation? r' = none) :
    ∃ a', h.authorizeSink security r' now = .ok a' ∧ a.SameRights a' ∧
      a.delay = a.terms.delayIn r ∧ a'.delay = a.terms.delayIn r' := by
  obtain ⟨hub, hrequested⟩ : ∃ hub, h.requestedHub r = .ok hub := by
    cases hrequested : h.requestedHub r with
    | error e =>
        simp only [authorizeSink, hrequested] at hok
        cases hok
    | ok hub => exact ⟨hub, rfl⟩
  obtain ⟨hname, hterms, hfilters, hdelay⟩ := terms_of_authorizeSink hrequested hok
  obtain ⟨hub', hfound, henabled, hmode, hfiltering, hgranted⟩ :=
    (IncomingTerms.revocation?_eq_none_iff hname).1 hstays
  rw [hterms] at hmode
  rw [hfilters] at hfiltering
  have hagain := requestedHub_again hrequested hfound henabled hmode
  have hhub := DatabaseRecord.hub?_name (requestedHub_eq_ok_iff_found.1 hrequested).1
  have hbefore : a.delay = a.terms.delayIn r := by
    simp [IncomingTerms.delayIn, hname, hhub, hdelay]
  have hnow : a.terms.delayIn r' = hub'.delay := by
    simp [IncomingTerms.delayIn, hname, hfound]
  rw [hnow]
  simp only [authorizeSink, hrequested] at hok
  simp only [authorizeSink, hagain]
  split at hok
  · rename_i hsecured
    obtain ⟨a', ha', hrights, hdelay'⟩ := authorizeHolder_again hok hagree
      (DatabaseRecord.sameName_of_hub? hfound) hfiltering hgranted
    rw [if_pos hsecured]
    exact ⟨a', ha', hrights, hbefore, hdelay'⟩
  · rename_i hopen
    cases hok
    rw [if_neg hopen]
    exact ⟨_, rfl, ⟨rfl, rfl, rfl⟩, hbefore, rfl⟩

/-- What is pushed from outside has no delay in any record. -/
theorem authorizeExternal_delay (hok : h.authorizeExternal security now = .ok a)
    (r : DatabaseRecord) : a.delay = a.terms.delayIn r := by
  unfold authorizeExternal at hok
  split at hok
  · cases hok
  · cases hthumbprint : h.nodeThumbprint security now with
    | error e =>
        rw [hthumbprint] at hok
        cases hok
    | ok thumbprint =>
        rw [hthumbprint] at hok
        cases hok
        rfl

/-- A peer that may stay is let in again for the same directions and paths, each time with the
delay that the record puts on it. -/
theorem authorize_again (hok : h.authorize security r now = .ok a)
    (hagree : r.AgreesOnCertificates r') (hstays : a.terms.revocation? r' = none) :
    ∃ a', h.authorize security r' now = .ok a' ∧ a.SameRights a' ∧
      a.delay = a.terms.delayIn r ∧ a'.delay = a.terms.delayIn r' := by
  unfold authorize at hok ⊢
  cases hkind : h.kind with
  | sink =>
      simp only [hkind] at hok ⊢
      exact authorizeSink_again hok hagree hstays
  | external =>
      simp only [hkind] at hok ⊢
      have hdelay := authorizeExternal_delay hok
      exact ⟨a, hok, ⟨rfl, rfl, rfl⟩, hdelay r, hdelay r'⟩

/-- **Who stays would be let in again, but for the delay.**  A peer that one record lets in, and
whose terms another one does not speak against, is let in by that one too at that time, for the same
directions and over the same paths; and with the same delay exactly where the two records put the
same delay on it. -/
theorem readmitted_iff (hok : h.authorize security r now = .ok a)
    (hagree : r.AgreesOnCertificates r') (hstays : a.terms.revocation? r' = none) :
    (∃ a', h.authorize security r' now = .ok a' ∧ a.SameRights a') ∧
    ((∃ a', h.authorize security r' now = .ok a' ∧ a.SameRights a' ∧ a'.delay = a.delay) ↔
      a.terms.delayIn r' = a.terms.delayIn r) := by
  obtain ⟨a', ha', hrights, hbefore, hnow⟩ := authorize_again hok hagree hstays
  refine ⟨⟨a', ha', hrights⟩, ?_⟩
  rw [← hbefore, ← hnow]
  constructor
  · rintro ⟨b, hb, -, hdelay⟩
    cases ha'.symm.trans hb
    exact hdelay
  · intro hdelay
    exact ⟨a', ha', hrights, hdelay⟩

/-! ### A hub that gets a delay -/

/-- A hub that holds items back for some milliseconds. -/
def feedWith (delay : Nat) : HubDefinition :=
  { HubDefinition.new "feed" .hubToSink with taskId := ⟨3⟩, delay }

/-- The hub is defined, and sends at once. -/
def promptFeed : List (Nat × ClusterCommand) :=
  [(1, .putClusterTopology ⟨[⟨⟨"A"⟩, "mem://a", true⟩]⟩),
    (2, .putDatabase "orders" ⟨[⟨"A"⟩]⟩),
    (3, .defineHub "orders" (HubDefinition.new "feed" .hubToSink))]

/-- From now on it holds items back for a minute. -/
def delayedFeed : List (Nat × ClusterCommand) :=
  promptFeed ++ [(4, .defineHub "orders" (feedWith 60000))]

section Feed

variable {delay : Nat} (hhubs : r.hubs = [feedWith delay])

include hhubs

theorem hub?_feedWith {name : String} (hname : Text.sameName "feed" name = true) :
    r.hub? name = some (feedWith delay) := by
  rw [DatabaseRecord.hub?, hhubs]
  exact List.find?_cons_of_pos hname

theorem requestedHub_feedWith : readerHandshake.requestedHub r = .ok (feedWith delay) := by
  have hmode : Mode.hubToSink.contains .hubToSink = true := by decide
  exact requestedHub_eq_ok_iff_found.2 ⟨hub?_feedWith hhubs (by decide), rfl, rfl, hmode⟩

end Feed

/-- A sink of a hub that got a delay stays; it would be let in again, but not with the delay that it
has. -/
theorem not_readmitted_delayedFeed :
    ∃ r r' a, (ClusterState.replay promptFeed).database? "orders" = some r ∧
      (ClusterState.replay delayedFeed).database? "orders" = some r' ∧
      readerHandshake.authorize .unsecured r ⟨0, 0⟩ = .ok a ∧ r.AgreesOnCertificates r' ∧
      a.terms.revocation? r' = none ∧
      (∃ a', readerHandshake.authorize .unsecured r' ⟨0, 0⟩ = .ok a' ∧ a.SameRights a') ∧
      ¬∃ a', readerHandshake.authorize .unsecured r' ⟨0, 0⟩ = .ok a' ∧ a.SameRights a' ∧
        a'.delay = a.delay := by
  have hprompt : ((ClusterState.replay promptFeed).database? "orders").map
      (fun r => (r.hubs, r.hubGrants)) = some ([feedWith 0], .empty) := by decide +kernel
  have hdelayed : ((ClusterState.replay delayedFeed).database? "orders").map (·.hubs) =
      some [feedWith 60000] := by decide +kernel
  obtain ⟨r, hr, heq⟩ := Option.map_eq_some_iff.1 hprompt
  obtain ⟨hhubs, hgrants⟩ := Prod.mk.inj heq
  obtain ⟨r', hr', hhubs'⟩ := Option.map_eq_some_iff.1 hdelayed
  have hagree : r.AgreesOnCertificates r' := by
    intro hub hub' grant grant' hgrant
    simp [DatabaseRecord.grants, hgrants] at hgrant
  have hfound := hub?_feedWith hhubs (Text.sameName_self "feed")
  have hfound' := hub?_feedWith hhubs' (Text.sameName_self "feed")
  have hok : readerHandshake.authorize .unsecured r ⟨0, 0⟩ =
      .ok (readerHandshake.openAdmission (feedWith 0)) := by
    rw [authorize, authorizeSink, requestedHub_feedWith hhubs]
    rfl
  have hstays : (readerHandshake.openAdmission (feedWith 0)).terms.revocation? r' = none :=
    (IncomingTerms.revocation?_eq_none_iff rfl).2
      ⟨feedWith 60000, hfound', rfl, rfl, rfl, by intro _ hthumbprint; cases hthumbprint⟩
  obtain ⟨hagain, hdelay⟩ := readmitted_iff hok hagree hstays
  refine ⟨r, r', _, hr, hr', hok, hagree, hstays, hagain, fun hsame => ?_⟩
  have hdelays := hdelay.1 hsame
  have hname : (readerHandshake.openAdmission (feedWith 0)).terms.hub = some "feed" := rfl
  simp only [IncomingTerms.delayIn, hname, Option.bind_some, hfound, hfound', Option.map_some,
    Option.getD_some] at hdelays
  cases hdelays

end Handshake

end HubReplication
