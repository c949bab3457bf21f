/-
**Change vectors read back from their text.**

The text of a vector is its entries with commas between them, an id, a colon and digits each, and
reading drops the blanks around an entry and cuts it at its last colon.  So an id may hold colons
and blanks, but no comma, no blank at its start, and it may not be empty: a vector whose ids are
like that is read back from its text, and every vector that was read is one.

Main definitions:

* `ChangeVector.LegibleId` — ids that may stand before an etag;
* `ChangeVector.Legible` — vectors of such ids;
* `ChangeVector.Entry` — a part holds a pair;
* `ChangeVector.ReadsBack` — the text of a vector is read as that vector.

Main results:

* `ChangeVector.parseEntry_eq_ok_iff` — a part is read as the pair that it holds;
* `ChangeVector.parse_text` — legible vectors are read back;
* `ChangeVector.legible_of_parse` — vectors that were read are legible;
* `ChangeVector.readsBack_iff` — which vectors read back.
-/

import HubReplication.ChangeVector.Text
import HubReplication.Proofs.ChangeVector.Order
import HubReplication.Proofs.Json.Digits
import HubReplication.Proofs.Text.Parts

set_option relaxedAutoImplicit false
set_option autoImplicit false

namespace HubReplication

/-! ### Numbers -/

namespace Text

theorem lt_of_parseNat? {bound n : Nat} {cs : List Char} (h : parseNat? bound cs = some n) :
    n < bound := by
  unfold parseNat? at h
  simp only at h
  repeat' split at h
  all_goals first
    | exact Option.some.inj h ▸ ‹decimalValue _ < bound›
    | exact nomatch h

theorem isBlank_of_isDecimal {c : Char} (h : isDecimal c = true) : isBlank c = false := by
  rw [isDecimal, Bool.and_eq_true, decide_eq_true_eq, decide_eq_true_eq] at h
  have hlow : 48 ≤ c.toNat := h.1
  have hhigh : c.toNat ≤ 57 := h.2
  simp only [isBlank, Bool.or_eq_false_iff, Bool.and_eq_false_iff, decide_eq_false_iff_not,
    beq_eq_false_iff_ne]
  omega

end Text

namespace ChangeVector

open Text

/-- An id that may stand before an etag. -/
structure LegibleId (id : String) : Prop where
  nonempty : id ≠ ""
  noComma : ',' ∉ id.toList
  start : ∀ c ∈ id.toList.head?, isBlank c = false

/-- Every id of a vector may stand before an etag, and its etags have 64 bits. -/
def Legible (cv : ChangeVector) : Prop := cv.All fun id etag => LegibleId id ∧ etag < etagBound

/-- The text of a vector is read as that vector. -/
def ReadsBack (cv : ChangeVector) : Prop := parse cv.text = .ok cv

variable {cv : ChangeVector} {id : String} {n : Nat} {part : List Char}

/-! ### One entry -/

/-- A part holds a pair: the id, a colon, and the etag, in which no colon is left. -/
def Entry (part : List Char) (id : String) (n : Nat) : Prop :=
  id ≠ "" ∧ ∃ etag, part = id.toList ++ ':' :: etag ∧ ':' ∉ etag ∧ parseNat? etagBound etag = some n

/-- A part is read as the pair that it holds. -/
theorem parseEntry_eq_ok_iff : parseEntry part = .ok (id, n) ↔ Entry part id n := by
  constructor
  · intro h
    unfold parseEntry at h
    split at h
    · cases h
    · rename_i before etag hcut
      obtain ⟨hpart, hcolon⟩ := splitLast_eq_some_iff.1 hcut
      split at h
      · cases h
      · rename_i m hetag
        split at h
        · cases h
        · rename_i hnonempty
          cases h
          refine ⟨fun hempty => hnonempty ?_, etag, ?_, hcolon, hetag⟩
          · rw [String.ofList_eq_empty_iff.1 hempty, List.isEmpty_nil]
          · rw [String.toList_ofList, hpart]
  · rintro ⟨hid, etag, hpart, hcolon, hetag⟩
    have hnonempty : id.toList.isEmpty = false := by
      rw [List.isEmpty_eq_false_iff]
      exact fun hnil => hid (String.toList_eq_nil_iff.1 hnil)
    rw [parseEntry, splitLast_eq_some_iff.2 ⟨hpart, hcolon⟩]
    simp only [hetag, hnonempty, Bool.false_eq_true, if_false, String.ofList_toList]

theorem noComma_entryChars (h : LegibleId id) : ',' ∉ entryChars (id, n) := by
  intro hmem
  rw [entryChars, List.mem_append, List.mem_cons] at hmem
  rcases hmem with hmem | hmem | hmem
  · exact h.noComma hmem
  · exact absurd hmem (by decide)
  · exact absurd (isDecimal_of_mem_toDigits hmem) (by decide)

theorem trimChars_entryChars (h : LegibleId id) :
    trimChars (entryChars (id, n)) = entryChars (id, n) := by
  refine trimChars_eq_self ?_ ?_
  · intro c hc
    refine h.start c ?_
    obtain ⟨d, rest, hd⟩ := List.exists_cons_of_ne_nil fun hnil =>
      h.nonempty (String.toList_eq_nil_iff.1 hnil)
    rw [entryChars, hd] at hc
    rw [hd]
    exact hc
  · intro c hc
    have hlast : (entryChars (id, n)).getLast? = (Nat.toDigits 10 n).getLast? := by
      obtain ⟨d, rest, hd⟩ := List.exists_cons_of_ne_nil (Nat.toDigits_ne_nil (n := n) (b := 10))
      simp only [entryChars, hd, List.getLast?_append, List.getLast?_cons, Option.some_or,
        Option.getD_some]
    rw [hlast] at hc
    exact isBlank_of_isDecimal (isDecimal_of_mem_toDigits (List.mem_of_getLast? hc))

theorem parseEntry_entryChars (h : LegibleId id) (hn : n < etagBound) :
    parseEntry (entryChars (id, n)) = .ok (id, n) := by
  have hcolon : ':' ∉ Nat.toDigits 10 n := fun hmem =>
    absurd (isDecimal_of_mem_toDigits hmem) (by decide)
  exact parseEntry_eq_ok_iff.2 ⟨h.nonempty, _, rfl, hcolon, parseNat?_toDigits hn⟩

/-- What an entry is read from gives a legible id and an etag of 64 bits. -/
theorem legible_of_parseEntry (hcomma : ',' ∉ part)
    (hstart : ∀ c ∈ part.head?, isBlank c = false) (h : parseEntry part = .ok (id, n)) :
    LegibleId id ∧ n < etagBound := by
  obtain ⟨hid, etag, rfl, -, hetag⟩ := parseEntry_eq_ok_iff.1 h
  refine ⟨⟨hid, fun hmem => hcomma (List.mem_append_left _ hmem), fun c hc => hstart c ?_⟩,
    lt_of_parseNat? hetag⟩
  rw [List.head?_append, Option.mem_def.1 hc]
  rfl

/-! ### All entries -/

/-- Reading part after part keeps a vector legible. -/
theorem legible_of_parseParts {ps : List (List Char)} {start : ChangeVector}
    (hps : ∀ p ∈ ps, ',' ∉ p ∧ ∀ c ∈ p.head?, isBlank c = false) (hstart : start.Legible)
    (h : parseParts ps start = .ok cv) : cv.Legible := by
  induction ps generalizing start with
  | nil =>
      cases h
      exact hstart
  | cons p rest ih =>
      obtain ⟨⟨hcomma, hfirst⟩, hrest⟩ := List.forall_mem_cons.1 hps
      rw [parseParts] at h
      split at h
      · cases h
      · rename_i id etag hentry
        obtain ⟨hid, hetag⟩ := legible_of_parseEntry hcomma hfirst hentry
        exact ih hrest (hstart.raise ⟨hid, hetag⟩) h

/-- A vector that was read is legible. -/
theorem legible_of_parse {s : String} (h : parse s = .ok cv) : cv.Legible := by
  refine legible_of_parseParts (fun p hp => ?_) all_empty h
  obtain ⟨hp, -⟩ := List.mem_filter.1 hp
  obtain ⟨q, hq, rfl⟩ := List.mem_map.1 hp
  exact ⟨fun hmem => not_mem_of_mem_splitAt hq (mem_of_mem_trimChars hmem),
    fun c hc => head?_trimChars hc⟩

/-- The parts of the text of a legible vector are its entries. -/
theorem parts_chars (h : cv.Legible) : parts cv.chars = cv.entries.toList.map entryChars := by
  have htrim : (cv.entries.toList.map entryChars).map trimChars =
      cv.entries.toList.map entryChars := by
    rw [List.map_map]
    exact List.map_congr_left fun e he => trimChars_entryChars (h e he).1
  have hfilter : (cv.entries.toList.map entryChars).filter (fun p => !p.isEmpty) =
      cv.entries.toList.map entryChars := by
    rw [List.filter_eq_self]
    intro p hp
    obtain ⟨e, -, rfl⟩ := List.mem_map.1 hp
    simp [entryChars]
  cases hempty : cv.entries.toList with
  | nil => simp [parts, chars, hempty, splitAt, trimChars, List.intercalate]
  | cons e rest =>
      have hcomma : ∀ part ∈ cv.entries.toList.map entryChars, ',' ∉ part := by
        intro part hpart
        obtain ⟨e, he, rfl⟩ := List.mem_map.1 hpart
        exact noComma_entryChars (h e he).1
      have hne : cv.entries.toList.map entryChars ≠ [] := by
        rw [hempty]
        exact List.cons_ne_nil _ _
      rw [parts, chars, splitAt_intercalate hne hcomma, htrim, hfilter, hempty]

theorem parseParts_map (l : List (String × Nat)) (h : ∀ e ∈ l, LegibleId e.1 ∧ e.2 < etagBound)
    (start : ChangeVector) :
    parseParts (l.map entryChars) start = .ok (l.foldl (fun cv e => cv.raise e.1 e.2) start) := by
  induction l generalizing start with
  | nil => rfl
  | cons e rest ih =>
      obtain ⟨⟨hid, hetag⟩, hrest⟩ := List.forall_mem_cons.1 h
      simp only [List.map_cons, parseParts, parseEntry_entryChars hid hetag, ih hrest,
        List.foldl_cons]

/-- Raising entry after entry of an empty vector gives the vector of those entries. -/
theorem foldl_raise_empty (cv : ChangeVector) :
    cv.entries.toList.foldl (fun cv e => cv.raise e.1 e.2) empty = cv := by
  refine ext_get? fun d => ?_
  rw [get?_foldl_raise cv.entries.ordered, ← SortedMap.get?]
  cases cv.entries.get? d with
  | none => rfl
  | some m => simp

/-- A legible vector is read back from its text. -/
theorem parse_text (h : cv.Legible) : parse cv.text = .ok cv := by
  rw [parse, text, String.toList_ofList, parts_chars h, parseParts_map _ h, foldl_raise_empty]

/-- The vectors that read back are the legible ones. -/
theorem readsBack_iff : cv.ReadsBack ↔ cv.Legible := ⟨legible_of_parse, parse_text⟩

end ChangeVector

end HubReplication
