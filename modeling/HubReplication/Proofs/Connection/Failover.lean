/-
**Past candidates that cannot be reached.**

A round goes through the candidates until one lets the dialer in.  Whether a candidate that is not
reached is passed over depends on how the transport tells of it.  In a network in memory nobody is
ever out of reach for good, and so every such candidate is passed over.  Over sockets a URL without
an address is told of as a faulty configuration, which parks the dialer, although a later candidate
may be there; a connection string is accepted with any URLs that are not blank.

So a round reaches the first candidate that lets the dialer in exactly if the transport finds an
address in the URL of each candidate before it.

Main definitions:

* `Transport`, `Transport.CanDial`, `Transport.Reports` — the two ways to reach a candidate, the
  URLs that they can dial, and what they tell of candidates that are not reached;
* `Worker.Misses`, `Worker.LetsIn`, `Worker.Round` — candidates that are not reached, one that lets
  the dialer in, and a round of them;
* `Worker.Streams` — the dialer streams with a candidate.

Main results:

* `exists_tcpAddress_iff` — the URLs with an address;
* `Transport.Reports.isFatal_iff` — what parks a dialer is a URL that cannot be dialed;
* `Worker.Life.fails_over_iff` — which rounds reach the candidate that lets the dialer in;
* `Fleet.reports_of_dial` — dialers in a fleet meet what a network in memory tells.
-/

import HubReplication.Proofs.Connection.Perseverance
import HubReplication.Socket.Dial

set_option relaxedAutoImplicit false
set_option autoImplicit false

namespace HubReplication

/-! ### Addresses -/

section Address

variable {url : String}

theorem tcpAddress_append (rest : String) :
    tcpAddress ("tcp://" ++ rest) =
      if (Text.trimSlashes rest).isEmpty then
        .error (.invalidConfiguration ("'" ++ ("tcp://" ++ rest) ++ "' is not a tcp:// url"))
      else .ok (Text.trimSlashes rest) := by
  have hprefix : "tcp://".toList.isPrefixOf ("tcp://" ++ rest).toList = true := by
    rw [String.toList_append, List.isPrefixOf_iff_prefix]
    exact List.prefix_append _ _
  have hdrop : String.ofList (("tcp://" ++ rest).toList.drop 6) = rest := by
    rw [String.toList_append, show 6 = "tcp://".toList.length from rfl, List.drop_left,
      String.ofList_toList]
  simp only [tcpAddress, hprefix, if_true, hdrop]

theorem tcpAddress_eq_error {error : ReplicationError} (h : tcpAddress url = .error error) :
    error = .invalidConfiguration ("'" ++ url ++ "' is not a tcp:// url") := by
  simp only [tcpAddress] at h
  split at h
  · split at h <;> cases h
    rfl
  · cases h
    rfl

/-- A URL has an address if something other than slashes follows the name of the transport, which
has to be in small letters. -/
theorem exists_tcpAddress_iff :
    (∃ address, tcpAddress url = .ok address) ↔
      ∃ rest, url = "tcp://" ++ rest ∧ (Text.trimSlashes rest).isEmpty = false := by
  constructor
  · rintro ⟨address, haddress⟩
    have hprefix : "tcp://".toList <+: url.toList := by
      rw [← List.isPrefixOf_iff_prefix]
      by_contra hother
      simp only [tcpAddress, hother] at haddress
      cases haddress
    obtain ⟨rest, hrest⟩ := hprefix
    have hurl : url = "tcp://" ++ String.ofList rest := by
      rw [← String.toList_inj, ← hrest, String.toList_append]
      simp only [String.toList_ofList]
    refine ⟨String.ofList rest, hurl, ?_⟩
    rw [hurl, tcpAddress_append] at haddress
    split at haddress
    · cases haddress
    · rename_i hsome
      simpa using hsome
  · rintro ⟨rest, rfl, hsome⟩
    exact ⟨_, by rw [tcpAddress_append, if_neg (by simp [hsome])]⟩

end Address

/-! ### Transports -/

/-- How a dialer reaches a candidate: over a socket, or in memory. -/
inductive Transport where
  | tcp
  | memory
deriving DecidableEq, Repr

namespace Transport

/-- A transport finds an address in a URL; in memory every URL is one. -/
def CanDial : Transport → String → Prop
  | .tcp, url => ∃ address, tcpAddress url = .ok address
  | .memory, _ => True

/-- What a transport may tell of a candidate that is not reached. -/
inductive Reports : Transport → String → ReplicationError → Prop
  /-- There is no address in the URL. -/
  | noAddress {url error} (h : tcpAddress url = .error error) : Reports .tcp url error
  /-- Whatever stands in the way of an address may pass. -/
  | unreached {url address} (h : tcpAddress url = .ok address) (reason : String) :
      Reports .tcp url (.transient reason)
  | refused {network : Network} {url error} (h : network.connect url = .error error) :
      Reports .memory url error
  /-- The listener did not catch up in time. -/
  | timedOut (url : String) : Reports .memory url (.transient ("connect to " ++ url ++ " timed out"))

variable {t : Transport} {url : String} {error : ReplicationError}

/-- What dialing comes to where nobody listens is among what sockets tell. -/
theorem reports_dialError (url : String) : Reports .tcp url (dialError url) := by
  unfold dialError
  split
  · rename_i h
    exact .noAddress h
  · rename_i h
    exact .unreached h _

theorem transient_of_connect {network : Network} (h : network.connect url = .error error) :
    error = .transient ("connection to " ++ url ++ " refused") := by
  unfold Network.connect at h
  split at h <;> cases h
  rfl

/-- Only a URL that cannot be dialed is told of as something that waiting cannot mend. -/
theorem Reports.isFatal_iff (h : t.Reports url error) : error.isFatal = true ↔ ¬t.CanDial url := by
  cases h with
  | noAddress h =>
      refine ⟨fun _ => ?_, fun _ => by rw [tcpAddress_eq_error h]; rfl⟩
      rintro ⟨address, haddress⟩
      cases h.symm.trans haddress
  | unreached h reason =>
      exact ⟨nofun, fun hcannot => absurd ⟨_, h⟩ hcannot⟩
  | refused h =>
      rw [transient_of_connect h]
      exact ⟨nofun, fun hcannot => absurd trivial hcannot⟩
  | timedOut => exact ⟨nofun, fun hcannot => absurd trivial hcannot⟩

theorem Reports.isFatal_eq_false (h : t.Reports url error) (hdial : t.CanDial url) :
    error.isFatal = false := by
  rw [Bool.eq_false_iff]
  exact fun hfatal => h.isFatal_iff.1 hfatal hdial

theorem Reports.noAddress_of_isFatal (h : t.Reports url error) (hfatal : error.isFatal = true) :
    tcpAddress url = .error error := by
  cases h with
  | noAddress h => exact h
  | refused h => rw [transient_of_connect h] at hfatal; cases hfatal
  | _ => cases hfatal

end Transport

/-! ### Rounds -/

namespace Worker

/-- A worker after some encounters, one after another. -/
def meets (w : Worker) (es : List Encounter) : Worker := es.foldl meet w

/-- Candidates that are dialed one after another and not reached. -/
inductive Misses (t : Transport) : List ConnectionEndpoint → List Encounter → Prop
  | nil : Misses t [] []
  | cons {endpoint rest es error} {dial refusal : Encounter} (hdial : dial.event = .proceed)
      (hrefusal : refusal.event = .refused error) (hreports : t.Reports endpoint.url error)
      (h : Misses t rest es) : Misses t (endpoint :: rest) (dial :: refusal :: es)

/-- A candidate is dialed, takes the handshake and accepts it. -/
structure LetsIn (a : Assignment) (endpoint : ConnectionEndpoint)
    (dial arrival answer : Encounter) : Prop where
  dialed : dial.event = .proceed
  reached : ∃ line, arrival.event = .connected line
  said : arrival.reachable = true ∧ ∃ handshake bytes,
    a.handshake endpoint arrival.site.store.databaseId = .ok handshake ∧
      (Frame.handshake handshake).write .off = .ok bytes
  accepted : ∃ accepted, answer.event = .answered (.ok (.accepted accepted)) ∧
    accepted.mode.isEmpty = false ∧ a.requestedMode.contains accepted.mode = true
  /-- The dialer can say from where on the candidate shall send. -/
  stays : answer.reachable = true ∧ answer.site.store.WordSized

/-- A round in which some candidates are not reached and the next one lets the dialer in. -/
inductive Round (t : Transport) (a : Assignment) (earlier : List ConnectionEndpoint)
    (good : ConnectionEndpoint) : List Encounter → Prop
  | mk {start dial arrival answer : Encounter} {es : List Encounter}
      (hstart : start.event = .proceed) (hmisses : Misses t earlier es)
      (hletsIn : LetsIn a good dial arrival answer) :
      Round t a earlier good (start :: (es ++ [dial, arrival, answer]))

/-- The worker streams with a candidate. -/
def Streams (w : Worker) (endpoint : ConnectionEndpoint) : Prop :=
  w.runtime.status = .streaming ∧
    ∃ tag, w.runtime.destination = some { endpoint with nodeTag := tag }

/-- The worker is parked over a URL without an address. -/
def ParkedOver (w : Worker) (endpoint : ConnectionEndpoint) : Prop :=
  ∃ error, tcpAddress endpoint.url = .error error ∧ w.dialer.phase = .parked error ∧
    w.runtime.status = .error

section Steps

variable {w : Worker} {e : Encounter} {endpoint : ConnectionEndpoint}
  {rest : List ConnectionEndpoint} {deadline : Nat} {error : ReplicationError}

theorem dialer_of_choosing (hphase : w.dialer.phase = .choosing) (hevent : e.event = .proceed) :
    (w.meet e).dialer = { w.dialer with phase := .trying w.dialer.candidates } ∧
      (w.meet e).runtime = w.runtime := by
  simp only [meet, after, turn, Dialer.handle, hphase, hevent]
  exact ⟨trivial, rfl⟩

theorem dialer_of_trying (hfits : w.Fits) (hphase : w.dialer.phase = .trying (endpoint :: rest))
    (hevent : e.event = .proceed) :
    (w.meet e).dialer = { w.dialer with
      phase := .connecting endpoint rest (e.now + w.dialer.assignment.settings.connectTimeout) } ∧
      (w.meet e).runtime.status = .connecting := by
  have htake := take_of_asks hfits (.connect hphase hevent)
  rw [meet, turn_of_trying hphase hevent]
  simp only [Dialer.tryNext, Dialer.moving, htake]
  exact ⟨rfl, rfl⟩

/-- A candidate that is not reached for now is passed over. -/
theorem passes_over {refusal : Encounter} (hfits : w.Fits)
    (hphase : w.dialer.phase = .trying (endpoint :: rest)) (hdial : e.event = .proceed)
    (hrefusal : refusal.event = .refused error) (hmild : error.isFatal = false) :
    ((w.meet e).meet refusal).dialer = { w.dialer with phase := .trying rest } ∧
      ((w.meet e).meet refusal).Fits := by
  obtain ⟨hconnecting, hstatus⟩ := dialer_of_trying hfits hphase hdial
  have hmissed : ((w.meet e).meet refusal).dialer =
      { (w.meet e).dialer with phase := .trying rest } ∧
        ((w.meet e).meet refusal).runtime.status = .connecting := by
    rw [meet, turn_of_refused (by rw [hconnecting]) hrefusal]
    simp only [Dialer.failCandidate, hmild, Bool.false_eq_true, if_false]
    exact ⟨rfl, hstatus⟩
  refine ⟨by rw [hmissed.1, hconnecting], ?_⟩
  simp only [Fits, hmissed.1]
  exact .inr (.inl hmissed.2)

/-- A candidate that waiting cannot mend parks the worker. -/
theorem parks_over {refusal : Encounter} (hfits : w.Fits)
    (hphase : w.dialer.phase = .trying (endpoint :: rest)) (hdial : e.event = .proceed)
    (hrefusal : refusal.event = .refused error) (hfatal : error.isFatal = true) :
    ((w.meet e).meet refusal).dialer.phase = .parked error ∧
      ((w.meet e).meet refusal).runtime.status = .error := by
  obtain ⟨hconnecting, hstatus⟩ := dialer_of_trying hfits hphase hdial
  have htake : ((w.meet e).side refusal).runtime.take .fail refusal.wall =
      .ok ((w.meet e).runtime.enter .error refusal.wall) :=
    ConnectionRuntime.take_eq_ok
      (by rw [show ((w.meet e).side refusal).runtime.status = _ from hstatus]; rfl) _
  rw [meet, turn_of_refused (by rw [hconnecting]) hrefusal]
  simp only [Dialer.failCandidate, hfatal, if_true, Dialer.park, after, LocalSide.onRuntime,
    ConnectionRuntime.tryTake, htake]
  refine ⟨trivial, ?_⟩
  split <;> rfl

/-- A worker that is parked and not told to stop stays as it is. -/
theorem meet_of_parked (hphase : w.dialer.phase = .parked error) (hevent : e.event ≠ .cancelled) :
    w.meet e = w := by
  simp only [meet, turn, Dialer.handle, hphase]
  rfl

theorem meets_of_parked {es : List Encounter} (hphase : w.dialer.phase = .parked error)
    (hevents : ∀ e ∈ es, e.event ≠ .cancelled) : w.meets es = w := by
  induction es with
  | nil => rfl
  | cons e es ih =>
      rw [meets, List.foldl_cons, meet_of_parked hphase (hevents e List.mem_cons_self)]
      exact ih fun e' he' => hevents e' (List.mem_cons_of_mem e he')

theorem dialer_of_reached {line : LineEnd} {handshake : Handshake} {bytes : List UInt8}
    (hphase : w.dialer.phase = .connecting endpoint rest deadline)
    (hstatus : w.runtime.status = .connecting) (hevent : e.event = .connected line)
    (hbuild : w.dialer.assignment.handshake endpoint e.site.store.databaseId = .ok handshake)
    (hbytes : (Frame.handshake handshake).write .off = .ok bytes)
    (hreachable : e.reachable = true) :
    (w.meet e).dialer = { w.dialer with
      phase := .greeting endpoint rest line
        (e.now + w.dialer.assignment.settings.handshakeTimeout) } ∧
      (w.meet e).runtime.status = .handshaking := by
  have htake : (w.side e).runtime.take .handshake e.wall =
      .ok (w.runtime.enter .handshaking e.wall) :=
    ConnectionRuntime.take_eq_ok (by rw [show (w.side e).runtime.status = _ from hstatus]; rfl) _
  rw [meet, turn_of_connected hphase hevent]
  simp only [Dialer.greet, Dialer.moving, htake, site_side, hbuild, LocalSide.write, hbytes]
  rw [show (w.side e).reachable = true from hreachable]
  exact ⟨rfl, rfl⟩

theorem streams_of_accepted {line : LineEnd} {accepted : Acceptance}
    (hphase : w.dialer.phase = .greeting endpoint rest line deadline)
    (hstatus : w.runtime.status = .handshaking)
    (hevent : e.event = .answered (.ok (.accepted accepted)))
    (hmode : accepted.mode.isEmpty = false)
    (hrequested : w.dialer.assignment.requestedMode.contains accepted.mode = true)
    (hreachable : e.reachable = true) (hstore : e.site.store.WordSized) :
    (w.meet e).Streams endpoint := by
  obtain ⟨side, hresume⟩ : ∃ side, Dialer.resume (w.side e) accepted = .ok side := by
    obtain ⟨bytes, hbytes⟩ := Frame.exists_write_resume (hstore accepted.databaseId)
    unfold Dialer.resume
    split
    · simp only [LocalSide.write, site_side, hbytes]
      rw [show (w.side e).reachable = true from hreachable]
      exact ⟨_, rfl⟩
    · exact ⟨_, rfl⟩
  have hkept : side.runtime = w.runtime := (Dialer.resumes_of_resume hresume).2
  have hwaiting : side.runtime.status = .handshaking := by rw [hkept]; exact hstatus
  rw [meet, turn_of_answered hphase hevent]
  simp only [Dialer.answer, hmode, hrequested, hresume, Bool.not_true, Bool.or_false,
    Bool.false_eq_true, if_false, Dialer.startStreaming, Dialer.moving, LocalSide.onRuntime,
    Dialer.take_stream hwaiting]
  -- Whether or not the session starts, the connection is told of as one that streams.
  split <;> exact ⟨rfl, _, rfl⟩

end Steps

/-! ### Going through the candidates -/

section Rounds

variable {t : Transport} {w : Worker} {a : Assignment} {earlier later : List ConnectionEndpoint}
  {good : ConnectionEndpoint} {es : List Encounter}

theorem Misses.uncancelled (h : Misses t earlier es) : ∀ e ∈ es, e.event ≠ .cancelled := by
  induction h with
  | nil => exact fun _ he => absurd he List.not_mem_nil
  | cons hdial hrefusal _ _ ih =>
      intro e he
      rcases List.mem_cons.1 he with rfl | he
      · rw [hdial]; nofun
      · rcases List.mem_cons.1 he with rfl | he
        · rw [hrefusal]; nofun
        · exact ih e he

theorem LetsIn.uncancelled {dial arrival answer : Encounter} (h : LetsIn a good dial arrival answer) :
    ∀ e ∈ [dial, arrival, answer], e.event ≠ .cancelled := by
  obtain ⟨line, hline⟩ := h.reached
  obtain ⟨accepted, haccepted, -⟩ := h.accepted
  simp [h.dialed, hline, haccepted]

/-- Candidates whose URLs can be dialed are passed over. -/
theorem Misses.passed (h : Misses t earlier es) (hfits : w.Fits)
    (hphase : w.dialer.phase = .trying (earlier ++ later))
    (hdial : ∀ c ∈ earlier, t.CanDial c.url) :
    (w.meets es).dialer = { w.dialer with phase := .trying later } ∧ (w.meets es).Fits := by
  induction h generalizing w with
  | nil =>
      refine ⟨?_, hfits⟩
      rw [← show w.dialer.phase = .trying later from hphase]
      rfl
  | @cons endpoint rest es error dial refusal hproceed hrefusal hreports hrest ih =>
      have hmild := hreports.isFatal_eq_false (hdial endpoint List.mem_cons_self)
      obtain ⟨htrying, hfits'⟩ := passes_over hfits hphase hproceed hrefusal hmild
      obtain ⟨hpassed, hfitting⟩ := ih hfits' (by rw [htrying]; rfl)
        fun c hc => hdial c (List.mem_cons_of_mem endpoint hc)
      exact ⟨hpassed.trans (by rw [htrying]), hfitting⟩

/-- The first candidate whose URL cannot be dialed parks the worker for good. -/
theorem Misses.parked (h : Misses t earlier es) (hfits : w.Fits)
    (hphase : w.dialer.phase = .trying (earlier ++ later))
    (hbad : ∃ c ∈ earlier, ¬t.CanDial c.url) :
    ∃ c ∈ earlier, (w.meets es).ParkedOver c := by
  induction h generalizing w with
  | nil =>
      obtain ⟨c, hc, -⟩ := hbad
      cases hc
  | @cons endpoint rest es error dial refusal hproceed hrefusal hreports hrest ih =>
      by_cases hcan : t.CanDial endpoint.url
      · have hmild := hreports.isFatal_eq_false hcan
        obtain ⟨htrying, hfits'⟩ := passes_over hfits hphase hproceed hrefusal hmild
        have hlater : ∃ c ∈ rest, ¬t.CanDial c.url := by
          obtain ⟨c, hc, hcannot⟩ := hbad
          rcases List.mem_cons.1 hc with rfl | hc
          · exact absurd hcan hcannot
          · exact ⟨c, hc, hcannot⟩
        obtain ⟨c, hc, hparked⟩ := ih hfits' (by rw [htrying]; rfl) hlater
        exact ⟨c, List.mem_cons_of_mem endpoint hc, hparked⟩
      · have hfatal := hreports.isFatal_iff.2 hcan
        obtain ⟨hparked, herror⟩ := parks_over hfits hphase hproceed hrefusal hfatal
        -- What is left of the round goes by a worker that is parked.
        have hstays : w.meets (dial :: refusal :: es) = (w.meet dial).meet refusal :=
          meets_of_parked hparked hrest.uncancelled
        refine ⟨endpoint, List.mem_cons_self, error, hreports.noAddress_of_isFatal hfatal, ?_⟩
        rw [hstays]
        exact ⟨hparked, herror⟩

/-- The candidate that lets the worker in is streamed with. -/
theorem LetsIn.streams {dial arrival answer : Encounter}
    (h : LetsIn w.dialer.assignment good dial arrival answer) (hfits : w.Fits)
    (hphase : w.dialer.phase = .trying (good :: later)) :
    (w.meets [dial, arrival, answer]).Streams good := by
  obtain ⟨hconnecting, hstatus⟩ := dialer_of_trying hfits hphase h.dialed
  obtain ⟨line, hline⟩ := h.reached
  obtain ⟨hthere, handshake, bytes, hbuild, hbytes⟩ := h.said
  obtain ⟨hgreeting, hstatus'⟩ := dialer_of_reached (w := w.meet dial) (by rw [hconnecting])
    hstatus hline (by rw [hconnecting]; exact hbuild) hbytes hthere
  obtain ⟨accepted, hevent, hmode, hrequested⟩ := h.accepted
  exact streams_of_accepted (by rw [hgreeting]) hstatus' hevent hmode
    (by rw [hgreeting, hconnecting]; exact hrequested) h.stays.1 h.stays.2

/-- A round reaches the candidate that lets the dialer in exactly if the transport can dial the URL
of every candidate before it; otherwise the first URL without an address parks the dialer. -/
theorem Life.fails_over_iff {past : List Encounter} (h : Life a past w)
    (hphase : w.dialer.phase = .choosing)
    (hcandidates : w.dialer.candidates = earlier ++ good :: later)
    (hround : Round t w.dialer.assignment earlier good es) :
    ((w.meets es).Streams good ↔ ∀ c ∈ earlier, t.CanDial c.url) ∧
      ((∃ c ∈ earlier, ¬t.CanDial c.url) → ∃ c ∈ earlier, (w.meets es).ParkedOver c) := by
  obtain ⟨hstart, hmisses, hletsIn⟩ := hround
  rename_i start dial arrival answer es
  obtain ⟨htrying, hruntime⟩ := dialer_of_choosing hphase hstart
  have hphase' : (w.meet start).dialer.phase = .trying (earlier ++ good :: later) := by
    rw [htrying, hcandidates]
  have hfits : (w.meet start).Fits := by
    have hrests := h.fits
    simp only [Fits, hphase] at hrests
    simp only [Fits, hphase', hruntime]
    exact .inl hrests
  have hsplit : w.meets (start :: (es ++ [dial, arrival, answer])) =
      ((w.meet start).meets es).meets [dial, arrival, answer] := List.foldl_append
  have hparks (hbad : ∃ c ∈ earlier, ¬t.CanDial c.url) : ∃ c ∈ earlier,
      (w.meets (start :: (es ++ [dial, arrival, answer]))).ParkedOver c := by
    obtain ⟨c, hc, error, hno, hparked, hstatus⟩ := hmisses.parked hfits hphase' hbad
    rw [hsplit, meets_of_parked hparked hletsIn.uncancelled]
    exact ⟨c, hc, error, hno, hparked, hstatus⟩
  refine ⟨⟨fun hstreams c hc => ?_, fun hdial => ?_⟩, hparks⟩
  · by_contra hcannot
    obtain ⟨-, -, -, -, -, hstatus⟩ := hparks ⟨c, hc, hcannot⟩
    cases hstatus.symm.trans hstreams.1
  · obtain ⟨hpassed, hfitting⟩ := hmisses.passed hfits hphase' hdial
    have hgood : ((w.meet start).meets es).dialer.phase = .trying (good :: later) := by rw [hpassed]
    rw [hsplit]
    refine LetsIn.streams ?_ hfitting hgood
    rw [hpassed, htrying]
    exact hletsIn

end Rounds

/-- A connection string with a URL of another network before one that can be dialed. -/
def mixedUrls : Assignment :=
  { mirrorAssignment with
    connection := ⟨"orders", "orders", ["http://hub:9000", "tcp://hub:9000"]⟩ }

/-- The candidate of the first URL. -/
def firstHub : ConnectionEndpoint := ⟨"http://hub:9000", "orders", none⟩

/-- The candidate of the second URL. -/
def secondHub : ConnectionEndpoint := ⟨"tcp://hub:9000", "orders", none⟩

/-- The first candidate is not reached, and the second one accepts whatever is pushed to it. -/
def mixedRound (error : ReplicationError) : List Encounter :=
  onEmptySite .proceed ::
    ([onEmptySite .proceed, onEmptySite (.refused error)] ++
      [onEmptySite .proceed, onEmptySite (.connected ⟨0, .dialer⟩),
        onEmptySite (.answered (.ok (.accepted ⟨.sinkToHub, "orders-id", 0, [], false, .empty⟩)))])

theorem round_mixedUrls {t : Transport} {error : ReplicationError}
    (h : t.Reports firstHub.url error) :
    Round t mixedUrls [firstHub] secondHub (mixedRound error) := by
  refine ⟨rfl, .cons rfl rfl h .nil, rfl, ⟨_, rfl⟩, ⟨rfl, mirrorHandshake, ?_⟩,
    ⟨_, rfl, rfl, rfl⟩, rfl, fun source => ?_⟩
  · obtain ⟨bytes, hbytes⟩ : ∃ bytes, (Frame.handshake mirrorHandshake).write .off = .ok bytes :=
      Frame.exists_write_off_of_room (by decide +kernel)
    exact ⟨bytes, rfl, hbytes⟩
  · have hnone : (Store.empty "copy-id").lastReplicatedEtag source = 0 := rfl
    exact Nat.lt_of_le_of_lt (Nat.le_of_eq hnone) (by decide)

/-- Over sockets a valid connection string parks the dialer on its first URL, while in memory the
dialer reaches the second one. -/
theorem fails_over_iff_mixedUrls :
    mixedUrls.connection.validate = .ok () ∧
      (∃ c ∈ [firstHub], ((⟨.new mixedUrls, .initial⟩ : Worker).meets
        (mixedRound (.invalidConfiguration "'http://hub:9000' is not a tcp:// url"))).ParkedOver
          c) ∧
      ((⟨.new mixedUrls, .initial⟩ : Worker).meets
        (mixedRound (.transient "connection to http://hub:9000 refused"))).Streams secondHub := by
  have hcandidates : (⟨.new mixedUrls, .initial⟩ : Worker).dialer.candidates =
      [firstHub] ++ secondHub :: [] := by decide +kernel
  have hno : tcpAddress firstHub.url =
      .error (.invalidConfiguration "'http://hub:9000' is not a tcp:// url") := by decide +kernel
  have hcannot : ¬Transport.CanDial .tcp firstHub.url := by
    rintro ⟨address, haddress⟩
    cases hno.symm.trans haddress
  have hsockets := Life.begins.fails_over_iff rfl hcandidates (round_mixedUrls (.noAddress hno))
  have hmemory := Life.begins.fails_over_iff rfl hcandidates
    (round_mixedUrls (.refused (show Network.empty.connect firstHub.url = _ from rfl)))
  exact ⟨by decide +kernel, hsockets.2 ⟨firstHub, List.mem_singleton_self _, hcannot⟩,
    hmemory.1.2 fun _ _ => trivial⟩

end Worker

/-! ### In a fleet -/

/-- A dialer in a fleet is told what a network in memory tells. -/
theorem Fleet.reports_of_dial {f : Fleet} {endpoint : ConnectionEndpoint} {deadline : Nat}
    {error : ReplicationError} {network : Network}
    (h : f.dial endpoint deadline = some (.refused error, network)) :
    Transport.Reports .memory endpoint.url error := by
  unfold Fleet.dial at h
  split at h
  · split at h <;> cases h
    exact .timedOut endpoint.url
  · split at h
    · cases h
    · rename_i hconnect
      cases h
      exact .refused hconnect

end HubReplication
