/-
**The candidates of a dialer.**

A dialer is offered the nodes that its destination announced and then the URLs of its connection
string.  Ordering them offers every announced node and every URL that is not blank once.  The node
that is preferred carries a tag, so it is one of those announced; what the connection string alone
knows comes after them all.

Main definitions:

* `Destination.Offered` — what a dialer is offered.

Main results:

* `Destination.exists_order_append` — what is ordered of two lists, one after the other;
* `Destination.candidates_ordered` — how nodes are ordered, and what every dialer is offered.
-/

import HubReplication.Proofs.Destination.Order

set_option relaxedAutoImplicit false
set_option autoImplicit false

namespace HubReplication.Destination

variable {connection : ReplicationConnectionString} {discovered : List TopologyNode}
  {preferred : Option NodeTag} {n : CandidateNode}

/-! ### Announced nodes and the connection string -/

/-- The nodes that the destination announced. -/
def announcedNodes (discovered : List TopologyNode) : List CandidateNode :=
  discovered.map fun n => ⟨some n.tag, n.url, true⟩

/-- The URLs of the connection string that are not blank, as nodes without a tag. -/
def listedNodes (connection : ReplicationConnectionString) : List CandidateNode :=
  (connection.discoveryUrls.filter fun u => !Text.isBlankText u).map fun u =>
    ⟨none, Text.trim u, true⟩

theorem known_eq : known connection discovered =
    announcedNodes discovered ++ listedNodes connection := rfl

theorem mem_announcedNodes :
    n ∈ announcedNodes discovered ↔ ∃ node ∈ discovered, n = ⟨some node.tag, node.url, true⟩ := by
  simp only [announcedNodes, List.mem_map, @eq_comm _ n]

theorem mem_listedNodes :
    n ∈ listedNodes connection ↔
      ∃ u ∈ connection.discoveryUrls,
        Text.isBlankText u = false ∧ n = ⟨none, Text.trim u, true⟩ := by
  simp only [listedNodes, List.mem_map, List.mem_filter, Bool.not_eq_true', and_assoc,
    @eq_comm _ n]

/-- The preferred node is one of those announced. -/
theorem mem_announcedNodes_of_promoted?
    (h : promoted? (known connection discovered) preferred = some n) :
    n ∈ announcedNodes discovered := by
  obtain ⟨hn, -, tag, -, htag⟩ := promoted?_eq_some h
  rw [known_eq] at hn
  rcases List.mem_append.1 hn with hn | hn
  · exact hn
  · obtain ⟨u, -, -, rfl⟩ := mem_listedNodes.1 hn
    cases htag

/-- The first announced node with the preferred tag is promoted. -/
theorem promoted?_known {tag : NodeTag} {node : TopologyNode}
    (h : discovered.find? (fun n => n.tag == tag) = some node) :
    promoted? (known connection discovered) (some tag) = some ⟨some node.tag, node.url, true⟩ := by
  have hannounced : (announcedNodes discovered).find? (fun n => n.alive && n.tag == some tag) =
      some ⟨some node.tag, node.url, true⟩ := by
    rw [announcedNodes, List.find?_map]
    exact congrArg (Option.map _) h
  rw [promoted?, Option.bind_some, known_eq, List.find?_append, hannounced, Option.some_or]

/-! ### What is offered -/

/-- Announced nodes are chosen first, and then URLs that no announced node has. -/
theorem exists_order_append (connection : ReplicationConnectionString)
    (discovered : List TopologyNode) (preferred : Option NodeTag) :
    ∃ announced listed, order (known connection discovered) preferred = announced ++ listed ∧
      (∀ n ∈ announced, n ∈ announcedNodes discovered) ∧
      ∀ n ∈ listed, n ∈ listedNodes connection ∧
        ∀ m ∈ announcedNodes discovered, sameUrl m.url n.url = false := by
  have hannounced := (Chosen.promoted (known connection discovered) preferred).foldl
    (announcedNodes discovered)
  have hlisted := (Chosen.start hannounced.distinct).foldl (listedNodes connection)
  rw [← List.foldl_append, ← known_eq, ← order_eq] at hlisted
  obtain ⟨rest, heq, hrest⟩ := hannounced.rest
  obtain ⟨listed, hall, hfirsts⟩ := hlisted.rest
  refine ⟨_, listed, hall, fun n hn => ?_, fun n hn => ⟨?_, fun m hm => ?_⟩⟩
  · rw [heq] at hn
    rcases List.mem_append.1 hn with hn | hn
    · exact mem_announcedNodes_of_promoted? (Option.mem_toList.1 hn)
    · obtain ⟨i, hplace, -⟩ := hrest.exists_place hn
      exact List.mem_of_getElem? hplace
  · obtain ⟨i, hplace, -⟩ := hfirsts.exists_place hn
    exact List.mem_of_getElem? hplace
  · -- Some chosen node has the URL of the announced one, and `n` has another than that.
    have hlive : m.alive = true := by
      obtain ⟨node, -, rfl⟩ := mem_announcedNodes.1 hm
      rfl
    obtain ⟨o, ho, hsame⟩ := hannounced.covers m hm hlive
    have hother := (List.pairwise_append.1 (hall ▸ hlisted.distinct)).2.2 o ho n hn
    rw [Bool.eq_false_iff]
    intro hmn
    rw [sameUrl_equivalence.trans hsame hmn] at hother
    cases hother

/-- What a dialer is offered, from what was announced and from its connection string. -/
structure Offered (connection : ReplicationConnectionString) (discovered : List TopologyNode)
    (preferred : Option NodeTag) (endpoints : List ConnectionEndpoint) : Prop where
  discovered_once : ∀ n ∈ discovered, endpoints.countP (fun e => sameUrl e.url n.url) = 1
  listed_once : ∀ u ∈ connection.discoveryUrls, Text.isBlankText u = false →
    endpoints.countP (fun e => sameUrl e.url (Text.trim u)) = 1
  /-- Announced nodes come before what the connection string alone knows. -/
  discovered_first : ∃ announced listed, endpoints = announced ++ listed ∧
    (∀ e ∈ announced, ∃ n ∈ discovered, e = ⟨n.url, connection.database, some n.tag⟩) ∧
    ∀ e ∈ listed, (∃ u ∈ connection.discoveryUrls, Text.isBlankText u = false ∧
      e = ⟨Text.trim u, connection.database, none⟩) ∧
      ∀ n ∈ discovered, sameUrl n.url e.url = false
  /-- The first announced node with the preferred tag is offered first. -/
  front : ∀ tag n, preferred = some tag → discovered.find? (fun n => n.tag == tag) = some n →
    endpoints.head? = some ⟨n.url, connection.database, some n.tag⟩

/-- What every dialer is offered. -/
theorem offered_candidates (connection : ReplicationConnectionString)
    (discovered : List TopologyNode) (preferred : Option NodeTag) :
    Offered connection discovered preferred (candidates connection discovered preferred) := by
  have hordered := ordered_order (known connection discovered) preferred
  have honce (n : CandidateNode) (hn : n ∈ known connection discovered) (hlive : n.alive = true) :
      (candidates connection discovered preferred).countP (fun e => sameUrl e.url n.url) = 1 := by
    rw [candidates, List.countP_map]
    exact hordered.once n hn hlive
  refine ⟨fun n hn => ?_, fun u hu hblank => ?_, ?_, fun tag n htag hn => ?_⟩
  · have hmem := mem_announcedNodes.2 ⟨n, hn, rfl⟩
    exact honce ⟨some n.tag, n.url, true⟩ (List.mem_append_left _ hmem) rfl
  · have hmem := mem_listedNodes.2 ⟨u, hu, hblank, rfl⟩
    exact honce ⟨none, Text.trim u, true⟩ (List.mem_append_right _ hmem) rfl
  · obtain ⟨announced, listed, heq, hannounced, hlisted⟩ :=
      exists_order_append connection discovered preferred
    refine ⟨_, _, by rw [candidates, heq, List.map_append], fun e he => ?_, fun e he => ?_⟩
    · obtain ⟨n, hn, rfl⟩ := List.mem_map.1 he
      obtain ⟨node, hnode, rfl⟩ := mem_announcedNodes.1 (hannounced n hn)
      exact ⟨node, hnode, rfl⟩
    · obtain ⟨n, hn, rfl⟩ := List.mem_map.1 he
      obtain ⟨hmem, hother⟩ := hlisted n hn
      obtain ⟨u, hu, hblank, rfl⟩ := mem_listedNodes.1 hmem
      exact ⟨⟨u, hu, hblank, rfl⟩, fun node hnode =>
        hother ⟨some node.tag, node.url, true⟩ (mem_announcedNodes.2 ⟨node, hnode, rfl⟩)⟩
  · subst htag
    rw [candidates, List.head?_map, hordered.front _ (promoted?_known hn)]
    rfl

/-- Nodes are ordered with the preferred one in front and each URL once, and so a dialer is offered
every announced node and every URL of its connection string once, announced nodes first. -/
theorem candidates_ordered :
    (Equivalence fun a b => sameUrl a b = true) ∧
    (∀ a b, sameUrl a b = true ↔
      ∃ core k l, (Text.asciiLower a).toList = core ++ List.replicate k '/' ∧
        (Text.asciiLower b).toList = core ++ List.replicate l '/') ∧
    (∀ nodes preferred, Ordered nodes preferred (order nodes preferred)) ∧
    ∀ connection discovered preferred,
      Offered connection discovered preferred (candidates connection discovered preferred) :=
  ⟨sameUrl_equivalence, fun _ _ => sameUrl_iff_exists, ordered_order, offered_candidates⟩

end HubReplication.Destination
