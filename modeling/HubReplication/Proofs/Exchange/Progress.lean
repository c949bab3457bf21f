/-
**A link makes progress.**

A new link between two stores hands over the next batch: the session on the side of the source finds
it due as soon as it takes a turn, and the session on the side of the target applies it when it
arrives.  The batch must be one that can be written and applied, and nothing may be amiss meanwhile.

Main definitions:

* `Exchange.sends`, `Exchange.takes` — the terms of a link from the source to the target;
* `Moment.calm` — a moment at which nothing is amiss;
* `Exchange.offer` — a new link, and a turn of the session on the side of the source;
* `Exchange.handOver` — a new link, and a turn of the session on either side.

Main results:

* `Exchange.exists_offer_eq` — what is on its way then;
* `Exchange.handOver_eq` — the target once it was handed over;
* `Exchange.reached_handOver` — and how far it reached.
-/

import HubReplication.Proofs.Exchange.Basic

set_option relaxedAutoImplicit false
set_option autoImplicit false

namespace HubReplication

/-- A moment at which nothing is amiss. -/
def Moment.calm (wall : Instant) (arrival : Arrival) : Moment :=
  { now := 0, wall, cancelled := false, delivery := .passed, arrival
    site :=
      { store := .empty "", failures := .empty 1, activity := .empty, metrics := default
        share := 0, entries := [] }
    runtime := .initial, reachable := true }

namespace Session

/-- A batch that is due and can be written is written. -/
theorem side_send {s : Session} {side : LocalSide} {now : Nat} {wall : Instant}
    {chosen : Selection} {bytes : List UInt8} (plan : OutboundPlan)
    (hplan : s.terms.outbound = some plan)
    (hselect : plan.select wall s.cursor
      (side.site.store.changesAfter s.cursor s.terms.maxBatchSize) = some chosen)
    (hne : chosen.lastEtag ≠ s.cursor)
    (hwrite : (Frame.batch ⟨chosen.items, chosen.lastEtag⟩).write s.terms.compression =
      .ok bytes) (hreachable : side.reachable = true) :
    (s.send side now wall).side =
      { side with
        sent := side.sent ++ [⟨.batch ⟨chosen.items, chosen.lastEtag⟩, bytes⟩] } := by
  simp only [send, hplan, hselect]
  cases chosen.readyIn <;> simp [LocalSide.write, hwrite, hreachable, hne]

/-- A batch that may be applied is applied, whether or not it can be acknowledged. -/
theorem store_take {s : Session} {side : LocalSide} {batch : Batch} {plan : InboundPlan}
    {cv : ChangeVector} {store : Store} (hcheck : s.checkBatch batch = .ok plan)
    (happly : side.site.store.applyBatch plan.sourceDatabaseId batch.items batch.lastEtag =
      .ok (cv, store)) : (s.take side batch).side.site.store = store := by
  simp only [take, hcheck, happly]
  split
  · rfl
  · rename_i hwrite
    obtain ⟨bytes, -, rfl⟩ := LocalSide.write_eq_ok hwrite
    rfl

end Session

namespace Exchange

/-- The terms on the side of the source of a link that sends for some paths. -/
def sends (paths : TextSet) (delay size : Nat) : SessionTerms :=
  { peer := "", compression := .off, heartbeat := 1, maxBatchSize := size
    outbound := some ⟨0, paths, delay⟩, inbound := none }

/-- The terms on the side of the target of a link that takes whatever comes. -/
def takes : SessionTerms :=
  { peer := "", compression := .off, heartbeat := 1, maxBatchSize := 1
    outbound := none, inbound := some ⟨"", .empty⟩ }

/-- A session that has just started between two stores. -/
def fresh (own peer : Store) (terms : SessionTerms) : Session :=
  { terms := agree own peer terms
    cursor :=
      match terms.outbound with
      | some _ => peer.lastReplicatedEtag own.databaseId
      | none => 0
    inFlight := none, wakeAt := none, scan := terms.outbound.isSome, lastSeen := 0, nextBeat := 1
    seen := own.announcements, drainUntil := none, writing := none }

theorem checkBatch_takes (own peer : Store) (batch : Batch) :
    (fresh own peer takes).checkBatch batch = .ok ⟨peer.databaseId, .empty⟩ := by
  have hplan : (fresh own peer takes).terms.inbound = some ⟨peer.databaseId, .empty⟩ := rfl
  have hall : (batch.items.find? fun item => !PathFilter.allows .empty item.id) = none :=
    List.find?_eq_none.2 fun _ _ h => by cases h
  simp only [Session.checkBatch, hplan, hall]

/-- A new link, and a turn of the session on the side of the source. -/
def offer (e : Exchange) (paths : TextSet) (delay size : Nat) (wall : Instant) : Exchange :=
  (e.step (.connect (sends paths delay size) takes 0)).step
    (.near e.links.length (.calm wall .nothing))

/-- A new link, and a turn of the session on either side. -/
def handOver (e : Exchange) (paths : TextSet) (delay size : Nat) (wall : Instant) : Exchange :=
  ((e.step (.connect (sends paths delay size) takes 0)).step
    (.near e.links.length (.calm wall .nothing))).step
    (.far e.links.length (.calm wall .frame))

variable {e : Exchange} {paths : TextSet} {delay size : Nat} {wall : Instant} {chosen : Selection}
  {bytes : List UInt8} {cv : ChangeVector} {target : Store}

/-- On a new link the next batch is on its way, and the stores are as they were. -/
theorem exists_offer_eq
    (hselect : (⟨e.reached, paths, delay⟩ : OutboundPlan).select wall e.reached
      (e.source.changesAfter e.reached size) = some chosen)
    (hne : chosen.lastEtag ≠ e.reached)
    (hwrite : (Frame.batch ⟨chosen.items, chosen.lastEtag⟩).write .off = .ok bytes) :
    ∃ link : Link, e.offer paths delay size wall = { e with links := e.links ++ [link] } ∧
      link.far = some (fresh e.target e.source takes) ∧
      link.out = [⟨.batch ⟨chosen.items, chosen.lastEtag⟩, e.reached, paths⟩] := by
  let s := fresh e.source e.target (sends paths delay size)
  let batch : Batch := ⟨chosen.items, chosen.lastEtag⟩
  let link : Link := ⟨some s, some (fresh e.target e.source takes), [], []⟩
  let joined : Exchange := { e with links := e.links ++ [link] }
  let sent := s.send ((Moment.calm wall .nothing).side e.source) 0 wall
  -- The session on the side of the source finds the batch due.
  have hsend : sent.side =
      { (Moment.calm wall .nothing).side e.source with sent := [⟨.batch batch, bytes⟩] } :=
    Session.side_send ⟨e.reached, paths, delay⟩ rfl hselect hne hwrite rfl
  have hnear : e.offer paths delay size wall =
      joined.afterNear e.links.length link s .scan sent :=
    nearTurn_eq (e := joined) (by simp [joined]) rfl rfl
  let coming : Link :=
    { link with near := sent.session?, out := [⟨.batch batch, e.reached, paths⟩] }
  have hlinks : (e.links ++ [link]).set e.links.length coming = e.links ++ [coming] := by
    simp
  refine ⟨coming, ?_, rfl, rfl⟩
  simp only [hnear, afterNear, hsend, joined]
  exact congrArg (fun links => ({ e with links } : Exchange)) hlinks

/-- A new link hands over the next batch. -/
theorem handOver_eq
    (hselect : (⟨e.reached, paths, delay⟩ : OutboundPlan).select wall e.reached
      (e.source.changesAfter e.reached size) = some chosen)
    (hne : chosen.lastEtag ≠ e.reached)
    (hwrite : (Frame.batch ⟨chosen.items, chosen.lastEtag⟩).write .off = .ok bytes)
    (happly : e.target.applyBatch e.source.databaseId chosen.items chosen.lastEtag =
      .ok (cv, target)) :
    (e.handOver paths delay size wall).source = e.source ∧
      (e.handOver paths delay size wall).target = target := by
  let t := fresh e.target e.source takes
  let batch : Batch := ⟨chosen.items, chosen.lastEtag⟩
  obtain ⟨link, hoffer, hfar, hout⟩ := exists_offer_eq hselect hne hwrite
  -- The session on the side of the target takes what is next on its way.
  let heard : Session := { t with lastSeen := 0 }
  have hcheck : heard.checkBatch batch = .ok ⟨e.source.databaseId, .empty⟩ :=
    checkBatch_takes _ _ _
  have htake : (heard.take ((Moment.calm wall .frame).side e.target) batch).side.site.store =
      target := Session.store_take hcheck happly
  have hlast : ({ e with links := e.links ++ [link] } : Exchange).links[e.links.length]? =
      some link := by
    simp
  have hturn : (Moment.calm wall .frame).turn t e.target (link.out.map (·.frame)) =
      some (.arrived (.batch batch),
        heard.take ((Moment.calm wall .frame).side e.target) batch) := by
    rw [hout]
    rfl
  have hall : e.handOver paths delay size wall =
      (e.offer paths delay size wall).farTurn e.links.length (.calm wall .frame) := rfl
  rw [hall, hoffer, farTurn_eq hlast hfar hturn]
  exact ⟨rfl, htake⟩

/-- The target reached what the batch covers. -/
theorem reached_handOver
    (hselect : (⟨e.reached, paths, delay⟩ : OutboundPlan).select wall e.reached
      (e.source.changesAfter e.reached size) = some chosen)
    (hne : chosen.lastEtag ≠ e.reached)
    (hwrite : (Frame.batch ⟨chosen.items, chosen.lastEtag⟩).write .off = .ok bytes)
    (happly : e.target.applyBatch e.source.databaseId chosen.items chosen.lastEtag =
      .ok (cv, target)) :
    (e.handOver paths delay size wall).reached = max e.reached chosen.lastEtag := by
  obtain ⟨hsource, htarget⟩ := handOver_eq hselect hne hwrite happly
  rw [reached, hsource, htarget, Store.lastReplicatedEtag_applyBatch happly, if_pos rfl]
  rfl

section Runs

variable {s : Exchange} {fits : Exchange → Action → Prop}

theorem Reached.offer (h : Reached s fits e)
    (hconnect : fits e (.connect (sends paths delay size) takes 0))
    (hnear : ∀ e i m, fits e (.near i m)) : Reached s fits (e.offer paths delay size wall) :=
  (h.step _ hconnect).step _ (hnear _ _ _)

theorem Reached.handOver (h : Reached s fits e)
    (hconnect : fits e (.connect (sends paths delay size) takes 0))
    (hnear : ∀ e i m, fits e (.near i m)) (hfar : ∀ e i m, fits e (.far i m)) :
    Reached s fits (e.handOver paths delay size wall) :=
  (h.offer hconnect hnear).step _ (hfar _ _ _)

end Runs

/-! ### One document -/

/-- A document without content. -/
def note (id : String) : Item :=
  { id, kind := .document, collection := none, etag := 0, changeVector := .empty
    lastModified := default, deleted := false, body := none }

/-- The document as the first version that a database keeps. -/
def firstNote (databaseId id : String) : Item :=
  { note id with etag := 1, changeVector := .single databaseId 1 }

theorem written_note {databaseId id : String} (hid : Text.isBlankText id = false) :
    written (.empty databaseId) (note id) =
      ((Store.empty databaseId).keep (note id) (.single databaseId 1)).announce := by
  have hname : Text.isBlankText (note id).id = false := hid
  simp only [written, Store.writeLocal, hname]
  rfl

theorem get?_written_note {databaseId id : String} (hid : Text.isBlankText id = false)
    (k : ItemKey) :
    (written (.empty databaseId) (note id)).items.get? k =
      if k = (note id).key then some (firstNote databaseId id) else none := by
  rw [written_note hid]
  exact Store.get?_keep _ _ _ k

theorem changesAfter_written_note {databaseId id : String} (hid : Text.isBlankText id = false) :
    (written (.empty databaseId) (note id)).changesAfter 0 1 = [firstNote databaseId id] := by
  have hget : ((Store.empty databaseId).keep (note id) (.single databaseId 1)).items.get?
      (note id).key = some (firstNote databaseId id) := by
    rw [Store.get?_keep, if_pos rfl]
    rfl
  rw [written_note hid]
  change ([(1, (note id).key)].filterMap fun e =>
    ((Store.empty databaseId).keep (note id) (.single databaseId 1)).items.get? e.2) = _
  simp [hget]

/-- What is sent of the document for some paths. -/
def notesFor (databaseId id : String) (paths : TextSet) : List Item :=
  if PathFilter.allows paths id then [firstNote databaseId id] else []

theorem named_of_mem_notesFor {databaseId id : String} {paths : TextSet}
    (hid : Text.isBlankText id = false) :
    ∀ item ∈ notesFor databaseId id paths, Text.isBlankText item.id = false := by
  intro item hitem
  unfold notesFor at hitem
  split at hitem
  · rw [List.mem_singleton.1 hitem]
    exact hid
  · cases hitem

/-- The document is due at once, and its etag is covered even where its id is left out. -/
theorem select_firstNote (databaseId id : String) (paths : TextSet) (startEtag etag : Nat) :
    (⟨startEtag, paths, 0⟩ : OutboundPlan).select default etag [firstNote databaseId id] =
      some ⟨notesFor databaseId id paths, 1, none⟩ := by
  have hold : ∀ item : Item, item.lastModified = default →
      item.isOlderThan? default 0 = some true := by
    intro item h
    simp only [Item.isOlderThan?, h]
    decide
  have hid : (firstNote databaseId id).id = id := rfl
  simp only [OutboundPlan.select, hold (firstNote databaseId id) rfl, Option.map_some,
    Option.some.injEq, hid, notesFor]
  split <;> rfl

/-- The source writes a document, and a new link that sends for some paths hands over what is
due. -/
def noteHandedOver (source target id : String) (paths : TextSet) : Exchange :=
  ((start source target).step (.write (note id))).handOver paths 0 1 default

/-- What the target takes over of it, and how far it reached. -/
theorem noteHandedOver_eq {source id : String} {paths : TextSet} {bytes : List UInt8}
    (target : String) (hid : Text.isBlankText id = false)
    (hwrite : (Frame.batch ⟨notesFor source id paths, 1⟩).write .off = .ok bytes) :
    (noteHandedOver source target id paths).source = written (.empty source) (note id) ∧
      (noteHandedOver source target id paths).reached = 1 ∧
      ∃ cv, (Store.empty target).applyBatch source (notesFor source id paths) 1 =
        .ok (cv, (noteHandedOver source target id paths).target) := by
  let e := (start source target).step (.write (note id))
  have hdatabase : e.source.databaseId = source := (written_later _ _).databaseId_eq
  have hreached : e.reached = 0 := rfl
  obtain ⟨cv, t, happly⟩ :=
    Store.exists_applyBatch_eq_ok (.empty target) source 1 (named_of_mem_notesFor hid)
  have hselect : (⟨e.reached, paths, 0⟩ : OutboundPlan).select default e.reached
      (e.source.changesAfter e.reached 1) = some ⟨notesFor source id paths, 1, none⟩ := by
    have hchanges : e.source.changesAfter 0 1 = [firstNote source id] :=
      changesAfter_written_note hid
    rw [hreached, hchanges]
    exact select_firstNote source id paths 0 0
  have hsent : e.target.applyBatch e.source.databaseId (notesFor source id paths) 1 =
      .ok (cv, t) := by
    rw [hdatabase]
    exact happly
  obtain ⟨hsource, htarget⟩ := handOver_eq hselect Nat.one_ne_zero hwrite hsent
  have hmax := reached_handOver hselect Nat.one_ne_zero hwrite hsent
  rw [hreached] at hmax
  refine ⟨hsource, hmax, cv, ?_⟩
  rw [noteHandedOver, htarget]
  exact happly

end Exchange

end HubReplication
