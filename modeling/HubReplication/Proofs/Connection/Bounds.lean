/-
**What a grant bounds.**

A session keeps the terms it was started with.  It sends only if it has an outbound plan, and then
only what the paths of the plan allow; it applies only if it has an inbound plan, and then only what
those paths allow.  The plans of an acceptor come from the admission, and the admission of a secured
server from the grant.  No path at all would stand for every path, so on a hub that filters it
matters that a grant which lets a sink in names paths for every direction it is used in.

Main definitions:

* `Session.Leads` — the sessions that turns of a session lead to;
* `Session.Within` — a turn keeps to the plans;
* `Handshake.Bounds` — a turn keeps to a grant.

Main results:

* `Session.handle_within` — every turn keeps to the plans;
* `Handshake.Entitled.bounds` — every turn of a session under a grant keeps to the grant;
* `Handshake.grant_bounds_sink` — a secured server lets in exactly who is entitled, and what their
  sessions ship and take is bounded by their grants.
-/

import HubReplication.Connection.Acceptor
import HubReplication.Proofs.Cluster.Reachable
import HubReplication.Proofs.Connection.Entitlement
import HubReplication.Proofs.Session.Effect

set_option relaxedAutoImplicit false
set_option autoImplicit false

namespace HubReplication

namespace Session

/-! ### Turn after turn -/

/-- The sessions that turns of a session lead to, whatever its side has become before each turn and
whatever comes up. -/
inductive Leads (s : Session) : Session → Prop
  | start : Leads s s
  | turn {s' : Session} (h : Leads s s') (side : LocalSide) (now : Nat) (wall : Instant)
      (event : SessionEvent) (hgoing : (s'.handle side now wall event).verdict = .going) :
      Leads s (s'.handle side now wall event).session

theorem terms_handle (s : Session) (side : LocalSide) (now : Nat) (wall : Instant)
    (event : SessionEvent) : (s.handle side now wall event).session.terms = s.terms := by
  rcases handle_cases s side now wall event with hdoes | ⟨-, hsend⟩
  · exact hdoes.terms_eq
  · rw [hsend]
    rcases send_cases s side now wall with hidles | ⟨-, -, -, -, -, -, hterms, -, -⟩
    · exact hidles.terms_eq
    · exact hterms

/-- A session keeps its terms. -/
theorem Leads.terms_eq {s s' : Session} (h : Leads s s') : s'.terms = s.terms := by
  induction h with
  | start => rfl
  | turn _ side now wall event _ ih =>
      rw [terms_handle]
      exact ih

/-! ### Plans -/

/-- A turn says batches only within the outbound plan, and applies none but a batch that arrived
and is within the inbound plan. -/
structure Within (terms : SessionTerms) (side : LocalSide) (event : SessionEvent)
    (t : SessionTurn) : Prop where
  said : ∃ said, t.side.sent = side.sent ++ said ∧
    ∀ batch, .batch batch ∈ said.map (·.frame) → ∃ plan, terms.outbound = some plan ∧
      ∀ item ∈ batch.items, PathFilter.allows plan.allowedPaths item.id = true
  applied : t.side.site.store = side.site.store ∨
    ∃ batch plan cv, event = .arrived (.batch batch) ∧ terms.inbound = some plan ∧
      (∀ item ∈ batch.items, PathFilter.allows plan.allowedPaths item.id = true) ∧
      side.site.store.applyBatch plan.sourceDatabaseId batch.items batch.lastEtag =
        .ok (cv, t.side.site.store)

variable {s : Session} {side : LocalSide} {event : SessionEvent} {t : SessionTurn}

theorem Idles.within (h : s.Idles side t) : Within s.terms side event t := by
  obtain ⟨said, hsent, hcontrol⟩ := h.said
  refine ⟨⟨said, hsent, fun batch hbatch => ?_⟩, .inl h.store_eq⟩
  obtain ⟨w, hw, hframe⟩ := List.mem_map.1 hbatch
  have hdata := hcontrol w hw
  rw [hframe] at hdata
  cases hdata

theorem Does.within (h : s.Does side event t) : Within s.terms side event t := by
  obtain ⟨said, hsent, heffect⟩ := h.effect
  constructor
  case said =>
    refine ⟨said, hsent, fun batch hbatch => ?_⟩
    obtain ⟨plan, hplan, hexcerpt⟩ := heffect.excerpt_of_mem hbatch
    exact ⟨plan, hplan, fun item hitem => hexcerpt.allowed hitem⟩
  case applied =>
    rcases heffect.store_cases with ⟨-, hstore⟩ | ⟨batch, plan, cv, hevent, hbatch, hplan, happly⟩
    · exact .inl hstore
    · obtain ⟨checked, hcheck⟩ := checkBatch_of_applied? hbatch
      obtain ⟨hinbound, hallowed⟩ := checkBatch_eq_ok hcheck
      -- The plan that the batch was checked against is the one that it is applied under.
      obtain rfl : checked = plan := Option.some.inj (hinbound.symm.trans hplan)
      exact .inr ⟨batch, checked, cv, hevent, hplan, hallowed, happly⟩

/-- What is chosen for a batch is within the paths of the plan. -/
theorem within_send (s : Session) (side : LocalSide) (now : Nat) (wall : Instant) :
    Within s.terms side event (s.send side now wall) := by
  rcases send_cases s side now wall with
    hidles | ⟨plan, chosen, bytes, hplan, hchosen, -, -, -, hside⟩
  · exact hidles.within
  · obtain ⟨sent, left, -, hitems, -⟩ := OutboundPlan.exists_prefix_of_select hchosen
    refine ⟨⟨[⟨_, bytes⟩], by rw [hside], fun batch hbatch => ?_⟩, .inl (by rw [hside])⟩
    obtain rfl : batch = ⟨chosen.items, chosen.lastEtag⟩ := by simpa using hbatch
    refine ⟨plan, hplan, fun item hitem => ?_⟩
    have hfiltered : item ∈ sent.filter fun i => PathFilter.allows plan.allowedPaths i.id :=
      hitems ▸ hitem
    simpa using (List.mem_filter.1 hfiltered).2

/-- Every turn keeps to the plans. -/
theorem handle_within (s : Session) (side : LocalSide) (now : Nat) (wall : Instant)
    (event : SessionEvent) : Within s.terms side event (s.handle side now wall event) := by
  rcases handle_cases s side now wall event with hdoes | ⟨-, hsend⟩
  · exact hdoes.within
  · rw [hsend]
    exact within_send s side now wall

end Session

/-! ### Grants -/

/-- A set that has paths allows no id but those that some path of it covers. -/
theorem PathFilter.exists_covers {paths : TextSet} {id : String}
    (hne : paths.isEmpty = false) (hallows : allows paths id = true) :
    ∃ path ∈ paths.texts, covers path id = true := by
  simpa [allows, hne] using hallows

namespace Handshake

/-- A turn of a session with a sink keeps to a grant on a hub: batches go out and are applied only
in the directions that were asked for, and hold only items that the paths of the grant allow.  On a
hub that filters, some path of the grant covers each of them. -/
structure Bounds (h : Handshake) (hub : HubDefinition) (grant : HubAccessGrant) (side : LocalSide)
    (event : SessionEvent) (t : SessionTurn) : Prop where
  shipped : ∃ said, t.side.sent = side.sent ++ said ∧
    ∀ batch, .batch batch ∈ said.map (·.frame) →
      h.requestedMode.contains Mode.hubToSink = true ∧
      (hub.withFiltering = true → ∀ item ∈ batch.items,
        ∃ path ∈ grant.hubToSinkPaths.texts, PathFilter.covers path item.id = true)
  taken : t.side.site.store = side.site.store ∨
    ∃ batch cv, event = .arrived (.batch batch) ∧
      h.requestedMode.contains Mode.sinkToHub = true ∧
      (∀ item ∈ batch.items, PathFilter.allows grant.sinkToHubPaths item.id = true) ∧
      (hub.withFiltering = true → ∀ item ∈ batch.items,
        ∃ path ∈ grant.sinkToHubPaths.texts, PathFilter.covers path item.id = true) ∧
      side.site.store.applyBatch h.sourceDatabaseId batch.items batch.lastEtag =
        .ok (cv, t.side.site.store)

section Plans

variable {h : Handshake} {hub : HubDefinition} {grant : HubAccessGrant} {thumbprint : String}
  {compression : Bool} {startEtag : Nat}

/-- What goes out under a grant. -/
theorem outbound_granted (a : Acceptor) {plan : OutboundPlan}
    (hplan : (a.sessionTerms ⟨h, h.grantedAdmission hub thumbprint grant, compression⟩
      startEtag).outbound = some plan) :
    h.requestedMode.contains Mode.hubToSink = true ∧
      plan.allowedPaths = if hub.withFiltering then grant.hubToSinkPaths else .empty := by
  simp only [Acceptor.sessionTerms] at hplan
  split at hplan
  · rename_i hsends
    cases hplan
    exact ⟨hsends, rfl⟩
  · cases hplan

/-- What is taken under a grant. -/
theorem inbound_granted (a : Acceptor) {plan : InboundPlan}
    (hplan : (a.sessionTerms ⟨h, h.grantedAdmission hub thumbprint grant, compression⟩
      startEtag).inbound = some plan) :
    h.requestedMode.contains Mode.sinkToHub = true ∧
      plan = ⟨h.sourceDatabaseId, grant.sinkToHubPaths⟩ := by
  simp only [Acceptor.sessionTerms] at hplan
  split at hplan
  · rename_i htakes
    cases hplan
    exact ⟨htakes, rfl⟩
  · cases hplan

end Plans

variable {h : Handshake} {r : DatabaseRecord} {wall : Instant} {hub : HubDefinition}
  {certificate : Certificate} {grant : HubAccessGrant}

/-- A turn within the plans of a grant that entitles a sink keeps to the grant. -/
theorem Entitled.bounds (hent : h.Entitled r wall hub certificate grant) (a : Acceptor)
    {compression : Bool} {startEtag : Nat} {side : LocalSide} {event : SessionEvent}
    {t : SessionTurn}
    (hwithin : Session.Within (a.sessionTerms
      ⟨h, h.grantedAdmission hub certificate.info.thumbprint grant, compression⟩ startEtag)
      side event t) :
    h.Bounds hub grant side event t := by
  constructor
  case shipped =>
    obtain ⟨said, hsent, hsaid⟩ := hwithin.said
    refine ⟨said, hsent, fun batch hbatch => ?_⟩
    obtain ⟨plan, hplan, hallowed⟩ := hsaid batch hbatch
    obtain ⟨hmode, hpaths⟩ := outbound_granted a hplan
    refine ⟨hmode, fun hfilter item hitem => ?_⟩
    rw [hpaths, if_pos hfilter] at hallowed
    exact PathFilter.exists_covers (hent.hubToSink_nonempty hfilter) (hallowed item hitem)
  case taken =>
    rcases hwithin.applied with hstore | ⟨batch, plan, cv, hevent, hplan, hallowed, happly⟩
    · exact .inl hstore
    · obtain ⟨hmode, rfl⟩ := inbound_granted a hplan
      refine .inr ⟨batch, cv, hevent, hmode, hallowed, fun hfilter item hitem => ?_, happly⟩
      exact PathFilter.exists_covers (hent.sinkToHub_nonempty hfilter hmode)
        (hallowed item hitem)

/-- For every record of a state there is, a secured server lets in exactly the sinks that are
entitled to the hub they ask for.  The sessions that then start, however long they last, send and
apply only what the grant of the sink allows. -/
theorem grant_bounds_sink {s : ClusterState} (hs : s.Reachable) {database : String}
    {r : DatabaseRecord} (hr : s.database? database = some r) (h : Handshake)
    (node : CertificateBundle) (wall : Instant) :
    ((∃ admission, h.authorizeSink (.secured node) r wall = .ok admission) ↔
      ∃ hub certificate grant, h.Entitled r wall hub certificate grant) ∧
    ∀ admission hub certificate grant,
      h.authorizeSink (.secured node) r wall = .ok admission →
      h.Entitled r wall hub certificate grant →
      ∀ (a : Acceptor) compression startEtag now announcements session session',
        Session.start? (a.sessionTerms ⟨h, admission, compression⟩ startEtag) now announcements =
          some session →
        session.Leads session' →
        ∀ side now wall event,
          h.Bounds hub grant side event (session'.handle side now wall event) := by
  have hsound := (hs.wellFormed.record hr).hubs
  constructor
  · constructor
    · rintro ⟨admission, hadmission⟩
      obtain ⟨hub, certificate, grant, hent, -⟩ :=
        (authorizeSink_secured_eq_ok_iff hsound).1 hadmission
      exact ⟨hub, certificate, grant, hent⟩
    · rintro ⟨hub, certificate, grant, hent⟩
      exact ⟨_, (authorizeSink_secured_eq_ok_iff hsound).2 ⟨hub, certificate, grant, hent, rfl⟩⟩
  · intro admission hub certificate grant hadmission hent a compression startEtag now announcements
      session session' hstart hleads side now' wall' event
    obtain ⟨hub', certificate', grant', hent', rfl⟩ :=
      (authorizeSink_secured_eq_ok_iff hsound).1 hadmission
    obtain ⟨rfl, rfl, rfl⟩ := hent.unique hsound hent'
    have hterms := hleads.terms_eq.trans (Session.terms_start hstart)
    have hwithin := Session.handle_within session' side now' wall' event
    rw [hterms] at hwithin
    exact hent.bounds a hwithin

/-! ### A reader of a filtered hub -/

/-- What a certificate stands for that is valid from the year 2000 to the year 2100. -/
def readerBody : List UInt8 :=
  ("\x7b\"subject\":\"s\",\"serial\":\"00000000000000000000000000000000\"," ++
    "\"not_before\":\"2000-01-01T00:00:00Z\",\"not_after\":\"2100-01-01T00:00:00Z\"," ++
    "\"public_key\":\"\"\x7d").toUTF8.toList

/-- The certificate. -/
def reader : Certificate where
  info := {
    subject := "s"
    thumbprint := thumbprint readerBody
    notBefore := ⟨946684800, 0⟩
    notAfter := ⟨4102444800, 0⟩
    publicKey := "" }
  encoded := Base64.encode readerBody

/-- A hub that filters. -/
def feed : HubDefinition := { HubDefinition.new "feed" .hubToSink with withFiltering := true }

/-- The hub under the identity that it is given. -/
def definedFeed : HubDefinition := { feed with taskId := ⟨3⟩ }

/-- A grant on the hub for the users. -/
def readerGrant : HubAccessGrant :=
  ⟨"feed", "reader", reader.info.thumbprint, reader.info, .ofTexts ["users/*"], .empty⟩

/-- The hub is defined. -/
def filteredFeed : List (Nat × ClusterCommand) :=
  [(1, .putClusterTopology ⟨[⟨⟨"A"⟩, "mem://a", true⟩]⟩),
    (2, .putDatabase "orders" ⟨[⟨"A"⟩]⟩),
    (3, .defineHub "orders" feed)]

/-- The hub is defined and the grant registered. -/
def grantedFeed : List (Nat × ClusterCommand) :=
  filteredFeed ++ [(4, .registerAccess "orders" readerGrant)]

/-- A sink asks for the hub. -/
def readerHandshake : Handshake where
  version := protocolVersion
  kind := .sink
  database := "orders"
  hub := some "FEED"
  requestedMode := .hubToSink
  sourceDatabase := "copy"
  sourceDatabaseId := "copy-id"
  sourceNode := none
  certificate := some reader.encoded
  compression := false

set_option maxRecDepth 10000 in
theorem trim_encode_readerBody :
    Text.trim (Base64.encode readerBody) = Base64.encode readerBody := by
  have hchars : Text.trimChars (Base64.encodeChars readerBody) = Base64.encodeChars readerBody := by
    decide +kernel
  rw [Text.trim, Base64.encode, String.toList_ofList, hchars]

set_option maxRecDepth 10000 in
theorem decode_encode_readerBody :
    Base64.decode? (Base64.encode readerBody) = some readerBody := by
  have hchars : Base64.decodeChars (Base64.encodeChars readerBody) = some readerBody := by
    decide +kernel
  rw [Base64.decode?, Base64.encode, String.toList_ofList, hchars]

theorem read_readerBody :
    ∃ body, (Json.ofBytes? readerBody).bind CertificateBody.ofJson? = some body ∧
      body.subject = "s" ∧ body.notBefore = ⟨946684800, 0⟩ ∧ body.notAfter = ⟨4102444800, 0⟩ ∧
      body.publicKey = "" := by
  have hread : ((Json.ofBytes? readerBody).bind CertificateBody.ofJson?).map
      (fun body => (body.subject, body.notBefore, body.notAfter, body.publicKey)) =
      some ("s", ⟨946684800, 0⟩, ⟨4102444800, 0⟩, "") := by decide +kernel
  obtain ⟨body, hbody, heq⟩ := Option.map_eq_some_iff.1 hread
  simp only [Prod.mk.injEq] at heq
  exact ⟨body, hbody, heq⟩

theorem parse_reader : Certificate.parse reader.encoded = .ok reader := by
  obtain ⟨body, hbody, hsubject, hnotBefore, hnotAfter, hpublicKey⟩ := read_readerBody
  have hwindow : ¬body.notAfter ≤ body.notBefore := by
    rw [hnotBefore, hnotAfter]
    decide
  have hencoded : reader.encoded = Base64.encode readerBody := rfl
  rw [hencoded, Certificate.parse, trim_encode_readerBody, decode_encode_readerBody]
  simp only [hbody, if_neg hwindow]
  rw [hsubject, hnotBefore, hnotAfter, hpublicKey]
  rfl

/-- The sink is entitled to the hub of a record that has the hub and the grant. -/
theorem entitled_reader (hhub : definedFeed ∈ r.hubs) (hgrant : readerGrant ∈ r.grants "feed") :
    readerHandshake.Entitled r ⟨1000000000, 0⟩ definedFeed reader readerGrant := by
  have hasks : readerHandshake.AsksFor r definedFeed :=
    ⟨hhub, ⟨"FEED", rfl, by decide⟩, rfl, by decide, by decide⟩
  have hholds : readerHandshake.HoldsGrant r definedFeed reader readerGrant :=
    ⟨⟨reader.encoded, rfl, parse_reader⟩, hgrant, sameThumbprint_eq_true_iff.2 rfl⟩
  exact ⟨hasks, hholds, by decide, by decide, by decide, by decide⟩

/-- An acceptor of a secured server. -/
def readerAcceptor : Acceptor :=
  ⟨⟨"A"⟩, .secured ⟨reader, [0]⟩, .default, "sink", .greeting 0⟩

/-- The sink is let in, a session starts, and whatever comes up in it, it keeps to the grant. -/
theorem grant_bounds_sink_reader :
    ∃ r admission session, (ClusterState.replay grantedFeed).database? "orders" = some r ∧
      readerHandshake.authorizeSink (.secured ⟨reader, [0]⟩) r ⟨1000000000, 0⟩ = .ok admission ∧
      Session.start? (readerAcceptor.sessionTerms ⟨readerHandshake, admission, false⟩ 0) 0 0 =
        some session ∧
      ∀ side now wall event, readerHandshake.Bounds definedFeed readerGrant side event
        (session.handle side now wall event) := by
  have hfeed : ((ClusterState.replay grantedFeed).database? "orders").map
      (fun r => (r.hubs, r.grants "feed")) =
      some ([definedFeed], [readerGrant]) := by rfl
  obtain ⟨r, hr, heq⟩ := Option.map_eq_some_iff.1 hfeed
  obtain ⟨hhubs, hgrants⟩ := Prod.mk.inj heq
  have hent : readerHandshake.Entitled r ⟨1000000000, 0⟩ definedFeed reader readerGrant :=
    entitled_reader (hhubs ▸ List.mem_singleton_self _) (hgrants ▸ List.mem_singleton_self _)
  have hs : (ClusterState.replay grantedFeed).Reachable :=
    ClusterState.reachable_replay (by decide) (by decide)
  obtain ⟨hadmits, hbounds⟩ :=
    grant_bounds_sink hs hr readerHandshake ⟨reader, [0]⟩ ⟨1000000000, 0⟩
  obtain ⟨admission, hadmission⟩ := hadmits.2 ⟨_, reader, readerGrant, hent⟩
  obtain ⟨session, hstart⟩ : ∃ session,
      Session.start? (readerAcceptor.sessionTerms ⟨readerHandshake, admission, false⟩ 0) 0 0 =
        some session := ⟨_, rfl⟩
  refine ⟨r, admission, session, hr, hadmission, hstart, fun side now wall event => ?_⟩
  exact hbounds admission _ reader readerGrant hadmission hent readerAcceptor false 0 0 0 session
    session hstart .start side now wall event

end Handshake

end HubReplication
