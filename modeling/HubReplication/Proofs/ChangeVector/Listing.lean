/-
**What the text of a change vector lists.**

A text lists pairs of a database and an etag, one in each of its parts: the id is what stands before
the last colon of a part, the etag what stands after it.  A text is read exactly if each of its
parts holds a pair, and the vector that is read binds each database of the text to the largest etag
that the text lists for it.

The text of a vector is therefore read, but not always as that vector: a part may lose blanks at its
start, or an id may fall apart at a comma, and what is left may be the text of another vector.

Main definitions:

* `ChangeVector.Lists` — a text lists a pair;
* `ChangeVector.Fits` — every etag has 64 bits.

Main results:

* `ChangeVector.get?_foldl_raise_eq_max?` — raising entry after entry keeps the largest etags;
* `ChangeVector.parse_eq_ok_iff` — which texts are read, and as what;
* `ChangeVector.text_codec` — which vectors are read back, and what is read is read back.
-/

import HubReplication.Proofs.ChangeVector.Lattice
import HubReplication.Proofs.ChangeVector.Text

set_option relaxedAutoImplicit false
set_option autoImplicit false

namespace HubReplication.ChangeVector

open Text

variable {cv : ChangeVector} {d : String} {n : Nat}

/-! ### Pairs of a text -/

/-- A part of a text holds a pair. -/
def Lists (s : String) (d : String) (n : Nat) : Prop := ∃ part ∈ parts s.toList, Entry part d n

/-- Every etag has 64 bits. -/
def Fits (cv : ChangeVector) : Prop := cv.All fun _ n => n < etagBound

/-! ### Raising entry after entry -/

/-- The etags that a list of pairs has for a database. -/
def etagsOf (d : String) (es : List (String × Nat)) : List Nat :=
  (es.filter fun e => e.1 = d).map (·.2)

/-- Raising entry after entry keeps the largest etag of each database. -/
theorem get?_foldl_raise_eq_max? (es : List (String × Nat)) (cv : ChangeVector) (d : String) :
    (es.foldl (fun cv e => cv.raise e.1 e.2) cv).entries.get? d =
      (cv.entries.get? d).merge max (etagsOf d es).max? := by
  induction es generalizing cv with
  | nil => cases h : cv.entries.get? d <;> simp [etagsOf, h]
  | cons e rest ih =>
      rw [List.foldl_cons, ih, get?_raise]
      by_cases hd : e.1 = d
      · have hetags : etagsOf d (e :: rest) = e.2 :: etagsOf d rest := by simp [etagsOf, hd]
        have hmax : (e.2 :: etagsOf d rest).max? =
            (some e.2).merge max (etagsOf d rest).max? := by
          rw [List.max?_cons]
          cases (etagsOf d rest).max? <;> rfl
        rw [if_pos hd, hetags, hmax]
        exact Std.Associative.assoc _ _ _
      · have hetags : etagsOf d (e :: rest) = etagsOf d rest := by simp [etagsOf, hd]
        rw [if_neg hd, hetags]

/-! ### Reading -/

/-- The pairs that parts hold. -/
def pairs (ps : List (List Char)) : List (String × Nat) :=
  ps.filterMap fun p => (parseEntry p).toOption

/-- Parts are read exactly if each of them holds a pair, and raised one after the other. -/
theorem parseParts_eq_ok_iff {ps : List (List Char)} {start : ChangeVector} :
    parseParts ps start = .ok cv ↔
      (∀ p ∈ ps, ∃ d n, Entry p d n) ∧
        (pairs ps).foldl (fun cv e => cv.raise e.1 e.2) start = cv := by
  induction ps generalizing start with
  | nil => simp [parseParts, pairs]
  | cons p rest ih =>
      rw [parseParts, List.forall_mem_cons]
      cases hp : parseEntry p with
      | error e =>
          have hnone : ¬∃ d n, Entry p d n := by
            rintro ⟨d, n, hentry⟩
            rw [parseEntry_eq_ok_iff.2 hentry] at hp
            cases hp
          simp [hnone]
      | ok e =>
          have hsome : ∃ d n, Entry p d n := ⟨e.1, e.2, parseEntry_eq_ok_iff.1 hp⟩
          have hpairs : pairs (p :: rest) = e :: pairs rest := by
            simp [pairs, hp, Except.toOption]
          simp only [ih, hsome, true_and, hpairs, List.foldl_cons]

theorem mem_etagsOf_pairs {s : String} : n ∈ etagsOf d (pairs (parts s.toList)) ↔ Lists s d n := by
  have hread (p : List Char) : (parseEntry p).toOption = some (d, n) ↔ Entry p d n := by
    rw [← parseEntry_eq_ok_iff]
    cases parseEntry p <;> simp [Except.toOption]
  simp [etagsOf, pairs, Lists, hread]

/-- A text is read exactly if each of its parts holds a pair, and then as the vector that binds each
database to the largest etag that the text lists for it. -/
theorem parse_eq_ok_iff {s : String} :
    parse s = .ok cv ↔
      (∀ p ∈ parts s.toList, ∃ d n, Entry p d n) ∧
        ∀ d n, cv.entries.get? d = some n ↔ Lists s d n ∧ ∀ m, Lists s d m → m ≤ n := by
  have hlargest (d : String) (n : Nat) :
      ((pairs (parts s.toList)).foldl (fun cv e => cv.raise e.1 e.2) empty).entries.get? d =
        some n ↔ Lists s d n ∧ ∀ m, Lists s d m → m ≤ n := by
    rw [get?_foldl_raise_eq_max?, show empty.entries.get? d = none from rfl,
      Option.merge_none_left, List.max?_eq_some_iff]
    simp only [mem_etagsOf_pairs]
  rw [parse, parseParts_eq_ok_iff]
  refine and_congr_right fun _ => ⟨?_, fun h => ?_⟩
  · rintro rfl
    exact hlargest
  · refine ext_get? fun d => Option.ext fun n => ?_
    rw [hlargest, h]

/-- Blanks before an id are lost, so the text of one vector may be read as another one. -/
example : parse (single " A" 5).text = .ok (single "A" 5) := by rfl

/-- An id with a comma falls apart, which may give ids and etags of its own. -/
example : parse (single "A:7,B" 5).text = .ok ((single "A" 7).raise "B" 5) := by rfl

/-! ### Texts and vectors -/

theorem legible_iff : cv.Legible ↔ cv.Fits ∧ ∀ d ∈ cv.entries.keys, LegibleId d := by
  unfold Legible Fits All SortedMap.keys
  rw [List.forall_mem_map]
  exact ⟨fun h => ⟨fun e he => (h e he).2, fun e he => (h e he).1⟩,
    fun h e he => ⟨h.2 e he, h.1 e he⟩⟩

/-- A vector is read back from its text exactly if no id is empty, holds a comma, or starts with a
blank.  What is read from any text is such a vector, with the largest of the etags that the text
lists for each database, and so it is read back. -/
theorem text_codec :
    (∀ cv : ChangeVector, cv.Fits →
      (parse cv.text = .ok cv ↔ ∀ d ∈ cv.entries.keys, LegibleId d)) ∧
    ∀ s cv, parse s = .ok cv →
      cv.Fits ∧ (∀ d ∈ cv.entries.keys, LegibleId d) ∧ parse cv.text = .ok cv ∧
        ∀ d n, cv.entries.get? d = some n ↔ Lists s d n ∧ ∀ m, Lists s d m → m ≤ n := by
  constructor
  · intro cv hfits
    exact readsBack_iff.trans (legible_iff.trans (and_iff_right hfits))
  · intro s cv hread
    have hlegible := legible_of_parse hread
    obtain ⟨hfits, hids⟩ := legible_iff.1 hlegible
    exact ⟨hfits, hids, parse_text hlegible, (parse_eq_ok_iff.1 hread).2⟩

/-- Ids with colons, with blanks inside and after them, and an entry of zero. -/
def oddIds : ChangeVector := ((single "A:1" 12).raise "B " 7).raise "C D" 0

/-- A text with an id listed twice, blanks and an empty part is read with the larger etag. -/
theorem text_codec_oddIds :
    oddIds.Fits ∧ (∀ d ∈ oddIds.entries.keys, LegibleId d) ∧ parse oddIds.text = .ok oddIds ∧
      parse " A:1:3 ,B :07,, C D:0,A:1:+12" = .ok oddIds ∧
      Lists " A:1:3 ,B :07,, C D:0,A:1:+12" "A:1" 12 := by
  have hfits : oddIds.Fits := by
    unfold Fits All
    decide +kernel
  have hread : parse " A:1:3 ,B :07,, C D:0,A:1:+12" = .ok oddIds := by rfl
  obtain ⟨-, hids, -, hlists⟩ := text_codec.2 _ _ hread
  exact ⟨hfits, hids, (text_codec.1 oddIds hfits).2 hids, hread,
    ((hlists "A:1" 12).1 (by decide +kernel)).1⟩

end HubReplication.ChangeVector
