/-
**The order of candidates.**

Two URLs are the same where they differ in the case of letters and in the slashes at their ends
alone.  Ordering puts the first live node with the preferred tag in front and adds the live nodes
one after the other, unless one with the same URL is there.  So the nodes after the one in front are
in the order of the list, and each is the first live node of its URL, at whatever place it stands.

Main definitions:

* `Destination.promoted?` — the node that is put in front;
* `Destination.FirstOfUrl`, `Destination.FirstsInOrder` — the first live node of a URL, and some of
  them in the order of the list;
* `Destination.Chosen` — what has been chosen once some of the nodes are gone through;
* `Destination.Ordered` — what ordering makes of a list of nodes.

Main results:

* `sameUrl_equivalence`, `sameUrl_iff_exists` — which URLs are the same;
* `Destination.Chosen.visit` — what one more node changes;
* `Destination.ordered_order` — what ordering makes of every list.
-/

import Mathlib.Data.List.Forall2
import HubReplication.Destination
import HubReplication.Proofs.Text.Case

set_option relaxedAutoImplicit false
set_option autoImplicit false

namespace HubReplication

/-! ### URLs -/

namespace Text

theorem toList_trimSlashes (s : String) :
    (trimSlashes s).toList = (s.toList.reverse.dropWhile (· == '/')).reverse :=
  String.toList_ofList

/-- What is trimmed are slashes. -/
theorem exists_eq_trimSlashes_append (s : String) :
    ∃ k, s.toList = (trimSlashes s).toList ++ List.replicate k '/' := by
  have hslashes : ∀ c ∈ s.toList.reverse.takeWhile (· == '/'), c = '/' := fun c hc =>
    beq_iff_eq.1 (List.all_eq_true.1 List.all_takeWhile c hc)
  refine ⟨(s.toList.reverse.takeWhile (· == '/')).length, ?_⟩
  rw [toList_trimSlashes, ← List.reverse_replicate, ← List.reverse_append,
    ← List.eq_replicate_of_mem hslashes, List.takeWhile_append_dropWhile, List.reverse_reverse]

/-- Slashes at the end are trimmed. -/
theorem trimSlashes_append_replicate {s : String} {core : List Char} {k : Nat}
    (h : s.toList = core ++ List.replicate k '/') :
    (trimSlashes s).toList = (core.reverse.dropWhile (· == '/')).reverse := by
  rw [toList_trimSlashes, h, List.reverse_append, List.reverse_replicate,
    List.dropWhile_append_of_pos fun c hc => beq_iff_eq.2 (List.eq_of_mem_replicate hc)]

/-- Folding the case and trimming slashes do not get in each other's way. -/
theorem trimSlashes_asciiLower (s : String) :
    trimSlashes (asciiLower s) = asciiLower (trimSlashes s) := by
  have hslash : ((· == '/') ∘ Char.toLower) = (· == '/') := funext fun c => by
    rw [Function.comp_apply, Bool.eq_iff_iff, beq_iff_eq, beq_iff_eq]
    exact toLower_eq_iff rfl
  rw [← String.toList_inj, toList_trimSlashes, toList_asciiLower, toList_asciiLower,
    toList_trimSlashes, ← List.map_reverse, List.dropWhile_map, hslash, List.map_reverse]

end Text

theorem sameUrl_iff {a b : String} :
    sameUrl a b = true ↔
      Text.asciiLower (Text.trimSlashes a) = Text.asciiLower (Text.trimSlashes b) :=
  Text.sameName_eq_true_iff

/-- Having the same URL is an equivalence. -/
theorem sameUrl_equivalence : Equivalence fun a b => sameUrl a b = true where
  refl _ := sameUrl_iff.2 rfl
  symm h := sameUrl_iff.2 (sameUrl_iff.1 h).symm
  trans h h' := sameUrl_iff.2 ((sameUrl_iff.1 h).trans (sameUrl_iff.1 h'))

/-- Two URLs are the same where nothing but slashes at the end and the case of letters tells them
apart. -/
theorem sameUrl_iff_exists {a b : String} :
    sameUrl a b = true ↔
      ∃ core k l, (Text.asciiLower a).toList = core ++ List.replicate k '/' ∧
        (Text.asciiLower b).toList = core ++ List.replicate l '/' := by
  rw [sameUrl_iff, ← Text.trimSlashes_asciiLower, ← Text.trimSlashes_asciiLower]
  constructor
  · intro h
    obtain ⟨k, ha⟩ := Text.exists_eq_trimSlashes_append (Text.asciiLower a)
    obtain ⟨l, hb⟩ := Text.exists_eq_trimSlashes_append (Text.asciiLower b)
    rw [← h] at hb
    exact ⟨_, k, l, ha, hb⟩
  · rintro ⟨core, k, l, ha, hb⟩
    rw [← String.toList_inj, Text.trimSlashes_append_replicate ha,
      Text.trimSlashes_append_replicate hb]

namespace Destination

variable {nodes first done chosen rest : List CandidateNode} {n : CandidateNode} {i : Nat}

/-! ### The first live node of a URL -/

/-- The node at a place is live, and no live node before it has its URL. -/
def FirstOfUrl (nodes : List CandidateNode) (i : Nat) (n : CandidateNode) : Prop :=
  nodes[i]? = some n ∧ n.alive = true ∧
    ∀ j < i, ∀ m, nodes[j]? = some m → m.alive = true → sameUrl m.url n.url = false

/-- Nodes of a list in its order, each the first live one of its URL. -/
def FirstsInOrder (nodes rest : List CandidateNode) : Prop :=
  ∃ places : List Nat, places.Pairwise (· < ·) ∧ List.Forall₂ (FirstOfUrl nodes) places rest

theorem FirstOfUrl.lt (h : FirstOfUrl nodes i n) : i < nodes.length :=
  (List.getElem?_eq_some_iff.1 h.1).1

theorem FirstOfUrl.append (h : FirstOfUrl nodes i n) (more : List CandidateNode) :
    FirstOfUrl (nodes ++ more) i n := by
  refine ⟨(List.getElem?_append_left h.lt).trans h.1, h.2.1, fun j hj m hm => ?_⟩
  rw [List.getElem?_append_left (Nat.lt_trans hj h.lt)] at hm
  exact h.2.2 j hj m hm

theorem FirstsInOrder.append (h : FirstsInOrder nodes rest) (more : List CandidateNode) :
    FirstsInOrder (nodes ++ more) rest := by
  obtain ⟨places, hplaces, hfirsts⟩ := h
  exact ⟨places, hplaces, hfirsts.imp fun _ _ hfirst => hfirst.append more⟩

theorem FirstsInOrder.exists_place (h : FirstsInOrder nodes rest) (hn : n ∈ rest) :
    ∃ i, FirstOfUrl nodes i n := by
  obtain ⟨places, -, hfirsts⟩ := h
  obtain ⟨j, hj, rfl⟩ := List.getElem_of_mem hn
  exact ⟨_, hfirsts.get (by rw [hfirsts.length_eq]; exact hj) hj⟩

/-! ### Choosing -/

/-- Go on to the next node: add it if it is live and its URL is not there yet. -/
def visit (chosen : List CandidateNode) (n : CandidateNode) : List CandidateNode :=
  if n.alive = true then addNew chosen n else chosen

/-- What has been chosen after some nodes that came first, once others are gone through. -/
structure Chosen (first done chosen : List CandidateNode) : Prop where
  /-- What is chosen beside the nodes that came first. -/
  rest : ∃ rest, chosen = first ++ rest ∧ FirstsInOrder done rest
  distinct : chosen.Pairwise fun a b => sameUrl a.url b.url = false
  covers : ∀ n ∈ done, n.alive = true → ∃ o ∈ chosen, sameUrl o.url n.url = true

/-- At the start there is what came first. -/
theorem Chosen.start (h : first.Pairwise fun a b => sameUrl a.url b.url = false) :
    Chosen first [] first where
  rest := ⟨[], (List.append_nil first).symm, [], .nil, .nil⟩
  distinct := h
  covers _ hn := absurd hn List.not_mem_nil

/-- A node that is not added leaves what is chosen, if it need not be there. -/
theorem Chosen.skip (h : Chosen first done chosen)
    (hn : n.alive = true → ∃ o ∈ chosen, sameUrl o.url n.url = true) :
    Chosen first (done ++ [n]) chosen where
  rest := by
    obtain ⟨rest, heq, hrest⟩ := h.rest
    exact ⟨rest, heq, hrest.append [n]⟩
  distinct := h.distinct
  covers m hm := by
    rcases List.mem_append.1 hm with hm | hm
    · exact h.covers m hm
    · rw [List.mem_singleton.1 hm]
      exact hn

/-- A live node with a new URL is the first of its URL, for every live node before it has the URL of
some node that is chosen. -/
theorem Chosen.add (h : Chosen first done chosen) (halive : n.alive = true)
    (hnew : ∀ o ∈ chosen, sameUrl o.url n.url = false) :
    Chosen first (done ++ [n]) (chosen ++ [n]) where
  rest := by
    obtain ⟨rest, rfl, places, hplaces, hfirsts⟩ := h.rest
    have hfirst : FirstOfUrl (done ++ [n]) done.length n := by
      refine ⟨List.getElem?_concat_length, halive, fun j hj m hm hlive => ?_⟩
      rw [List.getElem?_append_left hj] at hm
      obtain ⟨o, ho, hsame⟩ := h.covers m (List.mem_of_getElem? hm) hlive
      rw [Bool.eq_false_iff]
      intro hmn
      have hon := sameUrl_equivalence.trans hsame hmn
      rw [hnew o ho] at hon
      cases hon
    have hbefore : ∀ i ∈ places, i < done.length := fun i hi => by
      obtain ⟨j, hj, rfl⟩ := List.getElem_of_mem hi
      exact (hfirsts.get hj (by rw [← hfirsts.length_eq]; exact hj)).lt
    refine ⟨rest ++ [n], List.append_assoc _ _ _, places ++ [done.length], ?_, ?_⟩
    · rw [List.pairwise_append]
      exact ⟨hplaces, List.pairwise_singleton _ _, fun i hi j hj =>
        List.mem_singleton.1 hj ▸ hbefore i hi⟩
    · exact List.rel_append (hfirsts.imp fun _ _ hfirst => hfirst.append [n])
        (.cons hfirst .nil)
  distinct := by
    rw [List.pairwise_append]
    exact ⟨h.distinct, List.pairwise_singleton _ _, fun o ho m hm =>
      List.mem_singleton.1 hm ▸ hnew o ho⟩
  covers m hm hlive := by
    rcases List.mem_append.1 hm with hm | hm
    · obtain ⟨o, ho, hsame⟩ := h.covers m hm hlive
      exact ⟨o, List.mem_append_left _ ho, hsame⟩
    · rw [List.mem_singleton.1 hm]
      exact ⟨n, List.mem_append_right _ (List.mem_singleton_self n),
        sameUrl_equivalence.refl n.url⟩

/-- One more node is added or left out. -/
theorem Chosen.visit (h : Chosen first done chosen) (n : CandidateNode) :
    Chosen first (done ++ [n]) (visit chosen n) := by
  unfold Destination.visit addNew
  split
  · rename_i halive
    split
    · rename_i hthere
      exact h.skip fun _ => by simpa using hthere
    · rename_i hnew
      exact h.add halive (by simpa using hnew)
  · rename_i hdead
    exact h.skip fun halive => absurd halive hdead

/-- All nodes are gone through one after the other. -/
theorem Chosen.foldl (h : Chosen first done chosen) (todo : List CandidateNode) :
    Chosen first (done ++ todo) (todo.foldl Destination.visit chosen) := by
  induction todo generalizing done chosen with
  | nil => rwa [List.append_nil]
  | cons n todo ih =>
      have hnext := ih (h.visit n)
      rwa [List.append_assoc] at hnext

/-! ### The order -/

/-- The first live node with the preferred tag. -/
def promoted? (nodes : List CandidateNode) (preferred : Option NodeTag) : Option CandidateNode :=
  preferred.bind fun tag => nodes.find? fun n => n.alive && n.tag == some tag

/-- What ordering makes of a list of nodes. -/
structure Ordered (nodes : List CandidateNode) (preferred : Option NodeTag)
    (result : List CandidateNode) : Prop where
  live : ∀ n ∈ result, n ∈ nodes ∧ n.alive = true
  distinct : result.Pairwise fun a b => sameUrl a.url b.url = false
  /-- Every live node has its URL in the result, and only once. -/
  once : ∀ n ∈ nodes, n.alive = true → result.countP (fun o => sameUrl o.url n.url) = 1
  /-- The first live node with the preferred tag is the first of all. -/
  front : ∀ n, promoted? nodes preferred = some n → result.head? = some n
  /-- The others are in the order of the list, each the first live node of its URL. -/
  others : ∃ rest, result = (promoted? nodes preferred).toList ++ rest ∧ FirstsInOrder nodes rest

theorem promoted?_eq_some {preferred : Option NodeTag} (h : promoted? nodes preferred = some n) :
    n ∈ nodes ∧ n.alive = true ∧ ∃ tag, preferred = some tag ∧ n.tag = some tag := by
  obtain ⟨tag, htag, hfind⟩ := Option.bind_eq_some_iff.1 h
  have hn := List.find?_some hfind
  rw [Bool.and_eq_true, beq_iff_eq] at hn
  exact ⟨List.mem_of_find?_eq_some hfind, hn.1, tag, htag, hn.2⟩

/-- Ordering goes through the nodes one after the other, starting from the one that is promoted. -/
theorem order_eq (nodes : List CandidateNode) (preferred : Option NodeTag) :
    order nodes preferred = nodes.foldl visit (promoted? nodes preferred).toList := by
  unfold order
  cases preferred with
  | none => exact List.foldl_filter
  | some tag =>
      have hfind : (nodes.filter (·.alive)).find? (fun n => n.tag == some tag) =
          promoted? nodes (some tag) := by
        rw [List.find?_filter, promoted?, Option.bind_some]
        exact congrArg (nodes.find? ·) (funext fun n => by
          rw [Bool.decide_and, Bool.decide_eq_true, Bool.decide_eq_true])
      rw [← hfind]
      exact List.foldl_filter

theorem Chosen.promoted (nodes : List CandidateNode) (preferred : Option NodeTag) :
    Chosen (promoted? nodes preferred).toList [] (promoted? nodes preferred).toList := by
  refine Chosen.start ?_
  cases promoted? nodes preferred with
  | none => exact .nil
  | some n => exact List.pairwise_singleton _ _

theorem chosen_order (nodes : List CandidateNode) (preferred : Option NodeTag) :
    Chosen (promoted? nodes preferred).toList nodes (order nodes preferred) := by
  rw [order_eq]
  exact (Chosen.promoted nodes preferred).foldl nodes

/-- Among nodes with different URLs a URL that is there is there once. -/
theorem countP_eq_one {url : String} {result : List CandidateNode}
    (hdistinct : result.Pairwise fun a b => sameUrl a.url b.url = false)
    (hthere : ∃ o ∈ result, sameUrl o.url url = true) :
    result.countP (fun o => sameUrl o.url url) = 1 := by
  induction result with
  | nil =>
      obtain ⟨o, ho, -⟩ := hthere
      cases ho
  | cons a rest ih =>
      obtain ⟨ha, hrest⟩ := List.pairwise_cons.1 hdistinct
      by_cases hsame : sameUrl a.url url = true
      · have hnone : rest.countP (fun o => sameUrl o.url url) = 0 := by
          rw [List.countP_eq_zero]
          intro o ho hurl
          have hao := sameUrl_equivalence.trans hsame (sameUrl_equivalence.symm hurl)
          rw [ha o ho] at hao
          cases hao
        rw [List.countP_cons, hnone, if_pos hsame]
      · obtain ⟨o, ho, hurl⟩ := hthere
        rcases List.mem_cons.1 ho with rfl | ho
        · exact absurd hurl hsame
        · rw [List.countP_cons, ih hrest ⟨o, ho, hurl⟩, if_neg hsame]

/-- What ordering makes of every list. -/
theorem ordered_order (nodes : List CandidateNode) (preferred : Option NodeTag) :
    Ordered nodes preferred (order nodes preferred) := by
  have hchosen := chosen_order nodes preferred
  obtain ⟨rest, heq, hrest⟩ := hchosen.rest
  refine ⟨fun n hn => ?_, hchosen.distinct, fun n hn hlive =>
    countP_eq_one hchosen.distinct (hchosen.covers n hn hlive), fun n hn => ?_, rest, heq, hrest⟩
  · rw [heq] at hn
    rcases List.mem_append.1 hn with hn | hn
    · obtain ⟨hmem, hlive, -⟩ := promoted?_eq_some (Option.mem_toList.1 hn)
      exact ⟨hmem, hlive⟩
    · obtain ⟨i, hplace, hlive, -⟩ := hrest.exists_place hn
      exact ⟨List.mem_of_getElem? hplace, hlive⟩
  · rw [heq, hn]
    rfl

/-- A node that is put in front takes its URL from the nodes before it. -/
example :
    order [⟨some ⟨"A"⟩, "mem://a", true⟩, ⟨some ⟨"C"⟩, "mem://c", true⟩,
        ⟨some ⟨"B"⟩, "MEM://A/", true⟩] (some ⟨"B"⟩) =
      [⟨some ⟨"B"⟩, "MEM://A/", true⟩, ⟨some ⟨"C"⟩, "mem://c", true⟩] := by
  decide +kernel

end Destination

end HubReplication
