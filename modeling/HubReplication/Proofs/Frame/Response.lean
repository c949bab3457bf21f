/-
**Answers read back from their text.**

The answer that lets a dialer in says the directions that were agreed on, the nodes that host the
database, and the paths that are taken.  Each of them reads back, whatever it is: directions by
their names and the flags that have none, nodes and paths as plain texts.  So the answer reads back
as long as its etag is a word of 64 bits.

Main results:

* `Mode.parse?_text` — a set of directions is read back from its text;
* `TextSet.ofJson?_toJson` — so is a set of texts;
* `Frame.readsBack_accepted` — and the answer that lets a dialer in.
-/

import HubReplication.Proofs.Bindings
import HubReplication.Proofs.Frame.Text
import HubReplication.Proofs.Text.Parts
import Mathlib.Data.List.Forall2

set_option relaxedAutoImplicit false
set_option autoImplicit false

namespace HubReplication

open Json

/-! ### Directions -/

namespace Mode

open Text (trimChars splitAt isBlank isBlankText)

/-- What the names of a set of directions stand for, each by itself. -/
def parts (m : Mode) : List Mode :=
  (if m.contains hubToSink then [hubToSink] else []) ++
  (if m.contains sinkToHub then [sinkToHub] else []) ++
  (if m.flags &&& 0xFC == 0 then [] else [⟨m.flags &&& 0xFC⟩])

theorem foldl_parts (m : Mode) : m.parts.foldl union none = m := by
  have hall : ∀ n : Fin 256, (Mode.mk ⟨⟨n⟩⟩).parts.foldl union none = ⟨⟨⟨n⟩⟩⟩ := by
    decide +kernel
  exact hall m.flags.toBitVec.toFin

/-- The name of a part can be told from what surrounds it. -/
structure Named (name : String) (part : Mode) : Prop where
  ne_nil : name.toList ≠ []
  noBar : '|' ∉ name.toList
  trimmed : trimChars name.toList = name.toList
  parsed : parsePart? name.toList = some part

theorem named_hubToSink : Named "HUB_TO_SINK" hubToSink := by constructor <;> decide +kernel

theorem named_sinkToHub : Named "SINK_TO_HUB" sinkToHub := by constructor <;> decide +kernel

theorem named_hexText (flags : UInt8) : Named (hexText flags.toNat) ⟨flags⟩ := by
  have hdigits : ∀ n < 256, '|' ∉ Nat.toDigits 16 n ∧
      trimChars ('0' :: 'x' :: Nat.toDigits 16 n) = '0' :: 'x' :: Nat.toDigits 16 n ∧
      parseHex? 256 (Nat.toDigits 16 n) = some n := by decide +kernel
  obtain ⟨hbar, htrim, hparse⟩ := hdigits flags.toNat flags.toNat_lt
  have hchars : (hexText flags.toNat).toList = '0' :: 'x' :: Nat.toDigits 16 flags.toNat := by
    simp [hexText]
  refine ⟨?_, ?_, ?_, ?_⟩ <;> rw [hchars]
  · exact List.cons_ne_nil _ _
  · simpa using hbar
  · exact htrim
  · simp [parsePart?, hparse]

theorem named_parts (m : Mode) : List.Forall₂ Named m.names m.parts := by
  have hone {name : String} {part : Mode} (c : Bool) (h : Named name part) :
      List.Forall₂ Named (if c then [name] else []) (if c then [part] else []) := by
    cases c with
    | true => exact .cons h .nil
    | false => exact .nil
  unfold names parts
  refine List.rel_append (List.rel_append (hone _ named_hubToSink) (hone _ named_sinkToHub)) ?_
  split
  · exact .nil
  · exact .cons (named_hexText _) .nil

theorem named_of_mem {names : List String} {parts : List Mode}
    (h : List.Forall₂ Named names parts) {name : String} (hname : name ∈ names) :
    ∃ part, Named name part := by
  induction h with
  | nil => cases hname
  | cons hfirst _ ih =>
      rcases List.mem_cons.1 hname with rfl | hrest
      · exact ⟨_, hfirst⟩
      · exact ih hrest

theorem mapM_parsePart? {names : List String} {parts : List Mode}
    (h : List.Forall₂ Named names parts) :
    (names.map String.toList).mapM parsePart? = some parts := by
  induction h with
  | nil => rfl
  | cons hname _ ih =>
      rw [List.map_cons, List.mapM_cons, hname.parsed, ih]
      rfl

theorem toList_text (m : Mode) :
    m.text.toList = [' ', '|', ' '].intercalate (m.names.map String.toList) :=
  String.toList_intercalate

/-- Directions that have names are not blank. -/
theorem isBlankText_text {m : Mode} (h : m.names ≠ []) : isBlankText m.text = false := by
  obtain ⟨name, names, hnames⟩ := List.exists_cons_of_ne_nil h
  obtain ⟨part, hname⟩ := named_of_mem m.named_parts (hnames ▸ List.mem_cons_self)
  obtain ⟨c, cs, hchars⟩ := List.exists_cons_of_ne_nil hname.ne_nil
  have hc : isBlank c = false :=
    (Text.trimChars_eq_self_iff.1 hname.trimmed).1 c (by rw [hchars]; rfl)
  have hmem : c ∈ m.text.toList := by
    rw [toList_text, hnames, List.map_cons, hchars]
    cases names <;> simp [List.intercalate]
  rw [isBlankText, List.all_eq_false]
  exact ⟨c, hmem, by simp [hc]⟩

/-- A set of directions is read back from its text. -/
theorem parse?_text (m : Mode) : parse? m.text = some m := by
  have hnamed := m.named_parts
  by_cases hnames : m.names = []
  · have hparts : m.parts = [] := List.forall₂_nil_left_iff.1 (hnames ▸ hnamed)
    have hnone : m = none := by rw [← m.foldl_parts, hparts, List.foldl_nil]
    rw [hnone]
    decide +kernel
  · have hsplit : (splitAt '|' m.text.toList).map trimChars = m.names.map String.toList := by
      rw [toList_text]
      refine Text.trimChars_splitAt_intercalate (by decide) (by decide) (by simpa using hnames) ?_
      intro part hpart
      obtain ⟨name, hname, rfl⟩ := List.mem_map.1 hpart
      obtain ⟨_, hp⟩ := named_of_mem hnamed hname
      exact ⟨hp.ne_nil, hp.noBar, hp.trimmed⟩
    rw [parse?, isBlankText_text hnames, hsplit, mapM_parsePart? hnamed]
    simp [foldl_parts]

theorem ofJson?_toJson (m : Mode) : ofJson? m.toJson = some m := parse?_text m

end Mode

/-! ### Paths and nodes -/

section Elements

variable {α : Type} {f : α → Json}

/-- Elements are read back if each is. -/
theorem Json.mapM_map {g : Json → Option α} (h : ∀ a, g (f a) = some a) (l : List α) :
    (l.map f).mapM g = some l := by
  induction l with
  | nil => rfl
  | cons a rest ih =>
      rw [List.map_cons, List.mapM_cons, h, ih]
      rfl

theorem Json.areWhole_map (h : ∀ a, (f a).isWhole = true) (l : List α) :
    areWhole (l.map f) = true := by
  induction l with
  | nil => rfl
  | cons a rest ih => rw [List.map_cons, areWhole, h, ih, Bool.and_self]

end Elements

/-- A set of texts is read back. -/
theorem TextSet.ofJson?_toJson (s : TextSet) : TextSet.ofJson? s.toJson = some s := by
  have hpairs : s.keys.map (fun k => (k, ())) = s.toList := by
    rw [SortedMap.keys, List.map_map]
    exact List.map_id s.toList
  have htexts : (s.texts.map .string).mapM asText = some s.texts :=
    mapM_map (f := .string) (fun _ => rfl) _
  rw [TextSet.ofJson?, TextSet.toJson, asListOf, htexts, Option.map_some, TextSet.ofTexts,
    TextSet.texts, hpairs, SortedMap.ofList_toList]

/-! ### Answers -/

namespace HandshakeResponse

/-- What an answer says once its outcome is known. -/
def terms (a : Acceptance) : Json :=
  .object [
    ("Mode", a.mode.toJson),
    ("DatabaseId", .string a.databaseId),
    ("LastAcceptedEtag", nat a.lastAcceptedEtag),
    ("Topology", .array (a.topology.map (·.toJson))),
    ("Compression", .bool a.compression),
    ("AllowedPaths", a.allowedPaths.toJson)]

theorem tagged?_accepted (a : Acceptance) :
    (accepted a).toJson.tagged? .direct "Outcome" ["Accepted", "Rejected"] =
      some ("Accepted", terms a) := by
  have hwhole : (accepted a).toJson.isWhole = true := by
    have hnodes : areWhole (a.topology.map (·.toJson)) = true := areWhole_map (fun _ => rfl) _
    have hpaths : areWhole (a.allowedPaths.texts.map .string) = true :=
      areWhole_map (fun _ => rfl) _
    simp only [toJson, isWhole, membersWhole, Mode.toJson, nat, TextSet.toJson, hnodes, hpaths,
      Bool.and_self]
  unfold tagged?
  rw [if_neg (by simp [hwhole])]
  rfl

theorem record?_terms (a : Acceptance) :
    (terms a).record? ["Mode", "DatabaseId", "LastAcceptedEtag", "Topology", "Compression",
      "AllowedPaths"] = some [some a.mode.toJson, some (.string a.databaseId),
        some (nat a.lastAcceptedEtag), some (.array (a.topology.map (·.toJson))),
        some (.bool a.compression), some a.allowedPaths.toJson] := rfl

theorem ofJson?_accepted {a : Acceptance} (h : a.lastAcceptedEtag < UInt64.size) :
    ofJson? .direct (accepted a).toJson = some (accepted a) := by
  have hnodes : (a.topology.map (·.toJson)).mapM TopologyNode.ofJson? = some a.topology :=
    mapM_map (f := TopologyNode.toJson) (fun _ => rfl) _
  simp only [ofJson?, tagged?_accepted, record?_terms, Option.bind_eq_bind, Option.bind_some,
    required, defaulted, asText, asBool, asListOf, Mode.ofJson?_toJson, TextSet.ofJson?_toJson,
    hnodes, asWord_nat h]
  rfl

end HandshakeResponse

/-- An answer that lets a dialer in reads back, whatever else it says. -/
theorem Frame.readsBack_accepted {a : Acceptance} (h : a.lastAcceptedEtag < UInt64.size) :
    (Frame.response (.accepted a)).ReadsBack := by
  refine (readsBack_iff (legible_toJson fun body hbody => ?_)).2 ?_
  · obtain rfl := Option.some.inj hbody
    exact ⟨by decide, trivial, trivial, trivial, legible_nat h,
      ⟨by decide, legibleElements_map fun _ _ => ⟨by decide, trivial, trivial, trivial⟩⟩, trivial,
      ⟨by decide, legibleElements_map fun _ _ => trivial⟩, trivial⟩
  · simp only [ofJson?, adjacent?_toJson, name, body?, Option.map_some, Option.bind_eq_bind,
      Option.bind_some, HandshakeResponse.ofJson?_accepted h]
    rfl

end HubReplication
