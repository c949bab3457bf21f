/-
**Values read back from their text.**

The text of a value is read as that value where its numbers are and it is not nested too deep.  The
scan follows the printer: what it finds after an element or a member is a comma or the closing
bracket, and it never works longer than twice the length of the text.

Main definitions:

* `Json.LegibleNumber` — a number that is read back;
* `Json.Legible` — a value that is read back, with so much depth allowed.

Main results:

* `Json.legibleNumber_nat` — numbers of 64 bits are read back;
* `Json.scanValue_compact` — a value is scanned from its text, and what follows it is left;
* `Json.ofBytes?_compact` — a value is read back from the bytes of its text.
-/

import HubReplication.Proofs.Json.Digits
import HubReplication.Proofs.Json.Quote

set_option relaxedAutoImplicit false
set_option autoImplicit false

namespace HubReplication.Json

/-! ### Values that are read back -/

/-- What may follow a value inside another one, or nothing at all. -/
def Closes (rest : List Char) : Prop := ∀ c ∈ rest.head?, c = ',' ∨ c = ']' ∨ c = '\x7d'

/-- The text of a number is read as that number. -/
structure LegibleNumber (n : JsonNumber) : Prop where
  starts : ∃ c cs, bytesOf n.text.toList = c :: cs ∧ (JsonNumber.isDigit c = true ∨ c = '-')
  scans : ∀ rest, Closes rest →
    JsonNumber.scan (bytesOf n.text.toList ++ rest) = some (some n, rest)

mutual

/-- A value whose numbers are read back, and which is not deeper than so much. -/
def Legible : Nat → Json → Prop
  | _, .null => True
  | _, .bool _ => True
  | _, .number n => LegibleNumber n
  | _, .string _ => True
  | depth, .array elements => 1 < depth ∧ LegibleElements (depth - 1) elements
  | depth, .object members => 1 < depth ∧ LegibleMembers (depth - 1) members
  | _, .unreadable => False

/-- Elements of which each is read back. -/
def LegibleElements : Nat → List Json → Prop
  | _, [] => True
  | depth, e :: rest => Legible depth e ∧ LegibleElements depth rest

/-- Members of which each is read back. -/
def LegibleMembers : Nat → List (String × Json) → Prop
  | _, [] => True
  | depth, (_, value) :: rest => Legible depth value ∧ LegibleMembers depth rest

end

theorem legibleElements_map {α : Type} {depth : Nat} {f : α → Json} {l : List α}
    (h : ∀ a ∈ l, Legible depth (f a)) : LegibleElements depth (l.map f) := by
  induction l with
  | nil => trivial
  | cons a rest ih =>
      obtain ⟨ha, hrest⟩ := List.forall_mem_cons.1 h
      exact ⟨ha, ih hrest⟩

/-- A number of 64 bits is read back. -/
theorem legibleNumber_nat {n : Nat} (h : n < UInt64.size) : LegibleNumber (.nat n) := by
  have hdigit : ∀ c ∈ Nat.toDigits 10 n, JsonNumber.isDigit c = true := fun c hc =>
    Text.isDecimal_of_mem_toDigits hc
  have hascii : (Nat.toDigits 10 n).all (·.toNat < 128) = true := by
    rw [List.all_eq_true]
    intro c hc
    have hle := hdigit c hc
    rw [JsonNumber.isDigit, Bool.and_eq_true, decide_eq_true_eq, decide_eq_true_eq] at hle
    have hnine : c.toNat ≤ '9'.toNat := hle.2
    exact decide_eq_true (Nat.lt_of_le_of_lt hnine (by decide))
  have htext : bytesOf (JsonNumber.nat n).text.toList = Nat.toDigits 10 n := by
    rw [JsonNumber.text, Nat.toString_eq_ofList_toDigits, String.toList_ofList,
      bytesOf_ascii hascii]
  refine ⟨?_, ?_⟩
  · obtain ⟨c, cs, hcs⟩ := List.exists_cons_of_ne_nil (Nat.toDigits_ne_nil (n := n) (b := 10))
    exact ⟨c, cs, htext.trans hcs, .inl (hdigit c (hcs ▸ List.mem_cons_self))⟩
  · intro rest hrest
    rw [htext]
    refine JsonNumber.scan_toDigits h ?_
    intro c hc
    obtain rfl | rfl | rfl := hrest c hc <;> decide

theorem legible_nat {n depth : Nat} (h : n < UInt64.size) : (nat n).Legible depth :=
  legibleNumber_nat h

/-! ### The parts of a text -/

/-- The text of elements, with commas between them. -/
def elementsText : List Json → String
  | [] => ""
  | e :: rest => compact e ++ compactElements rest

/-- The text of members, with commas between them. -/
def membersText : List (String × Json) → String
  | [] => ""
  | (name, value) :: rest => quote name ++ ":" ++ compact value ++ compactMembers rest

theorem compact_array (elements : List Json) :
    compact (.array elements) = "[" ++ elementsText elements ++ "]" := by
  cases elements with
  | nil => rfl
  | cons e rest => simp only [compact, elementsText, String.append_assoc]

theorem compact_object (members : List (String × Json)) :
    compact (.object members) = "\x7b" ++ membersText members ++ "\x7d" := by
  cases members with
  | nil => rfl
  | cons m rest => simp only [compact, membersText, String.append_assoc]

theorem compactElements_cons (e : Json) (rest : List Json) :
    compactElements (e :: rest) = "," ++ elementsText (e :: rest) := by
  simp only [compactElements, elementsText, String.append_assoc]

theorem compactMembers_cons (m : String × Json) (rest : List (String × Json)) :
    compactMembers (m :: rest) = "," ++ membersText (m :: rest) := by
  simp only [compactMembers, membersText, String.append_assoc]

theorem bytesOf_array (elements : List Json) :
    bytesOf (compact (.array elements)).toList =
      '[' :: (bytesOf (elementsText elements).toList ++ [']']) := by
  rw [compact_array, String.toList_append, String.toList_append, bytesOf_append, bytesOf_append]
  rfl

theorem bytesOf_object (members : List (String × Json)) :
    bytesOf (compact (.object members)).toList =
      '\x7b' :: (bytesOf (membersText members).toList ++ ['\x7d']) := by
  rw [compact_object, String.toList_append, String.toList_append, bytesOf_append, bytesOf_append]
  rfl

theorem bytesOf_elements (e : Json) (rest : List Json) :
    bytesOf (elementsText (e :: rest)).toList =
      bytesOf e.compact.toList ++ bytesOf (compactElements rest).toList := by
  rw [elementsText, String.toList_append, bytesOf_append]

theorem bytesOf_members (name : String) (value : Json) (rest : List (String × Json)) :
    bytesOf (membersText ((name, value) :: rest)).toList =
      bytesOf (quote name).toList ++ ':' :: (bytesOf value.compact.toList ++
        bytesOf (compactMembers rest).toList) := by
  simp only [membersText, String.toList_append, bytesOf_append, List.append_assoc]
  rfl

theorem skipSpace_cons {c : Char} (h : isSpace c = false) (cs : List Char) :
    skipSpace (c :: cs) = c :: cs := by
  rw [skipSpace, List.dropWhile_cons_of_neg (by rw [h]; exact Bool.false_ne_true)]

/-- What a number starts with is neither a blank nor the start of anything else. -/
theorem ne_of_starts {c : Char} (h : JsonNumber.isDigit c = true ∨ c = '-') {d : Char}
    (hd : JsonNumber.isDigit d = false ∧ d ≠ '-') : c ≠ d := by
  rintro rfl
  rcases h with h | h
  · rw [h] at hd
    exact Bool.noConfusion hd.1
  · exact hd.2 h

/-- The text of a value starts with no blank and does not close an array. -/
theorem exists_cons_bytesOf {depth : Nat} {j : Json} (h : j.Legible depth) :
    ∃ c cs, bytesOf j.compact.toList = c :: cs ∧ isSpace c = false ∧ c ≠ ']' := by
  cases j with
  | null => exact ⟨'n', _, rfl, by decide, by decide⟩
  | bool b => cases b <;> exact ⟨_, _, rfl, by decide, by decide⟩
  | number n =>
      obtain ⟨c, cs, hcs, hc⟩ := h.starts
      refine ⟨c, cs, hcs, ?_, ne_of_starts hc (by decide)⟩
      simp only [isSpace, Bool.or_eq_false_iff, beq_eq_false_iff_ne]
      exact ⟨⟨⟨ne_of_starts hc (by decide), ne_of_starts hc (by decide)⟩,
        ne_of_starts hc (by decide)⟩, ne_of_starts hc (by decide)⟩
  | string s =>
      rw [compact, toList_quote, bytesOf_cons, bytesOf_singleton (by decide)]
      exact ⟨'"', _, rfl, by decide, by decide⟩
  | array elements =>
      rw [bytesOf_array]
      exact ⟨'[', _, rfl, by decide, by decide⟩
  | object members =>
      rw [bytesOf_object]
      exact ⟨'\x7b', _, rfl, by decide, by decide⟩
  | unreadable => exact h.elim

/-- A number is scanned as such. -/
theorem scanValue_number {n : JsonNumber} (h : LegibleNumber n) (fuel depth : Nat)
    {rest : List Char} (hrest : Closes rest) :
    scanValue (fuel + 1) depth (bytesOf n.text.toList ++ rest) = some (.number n, rest) := by
  obtain ⟨c, cs, hcs, hc⟩ := h.starts
  have hscan := h.scans rest hrest
  have hspace : isSpace c = false := by
    simp only [isSpace, Bool.or_eq_false_iff, beq_eq_false_iff_ne]
    exact ⟨⟨⟨ne_of_starts hc (by decide), ne_of_starts hc (by decide)⟩,
      ne_of_starts hc (by decide)⟩, ne_of_starts hc (by decide)⟩
  rw [hcs, List.cons_append] at hscan ⊢
  rw [scanValue, skipSpace_cons hspace]
  split
  · rename_i heq
    exact absurd (List.cons.inj heq).1 (ne_of_starts hc (by decide))
  · rename_i heq
    exact absurd (List.cons.inj heq).1 (ne_of_starts hc (by decide))
  · unfold scanPlain
    split
    · rename_i heq
      exact absurd (List.cons.inj heq).1 (ne_of_starts hc (by decide))
    · rename_i heq
      exact absurd (List.cons.inj heq).1 (ne_of_starts hc (by decide))
    · rename_i heq
      exact absurd (List.cons.inj heq).1 (ne_of_starts hc (by decide))
    · rename_i heq
      exact absurd (List.cons.inj heq).1 (ne_of_starts hc (by decide))
    · rw [hscan]
      rfl

/-- A text is scanned as such. -/
theorem scanValue_string (s : String) (fuel depth : Nat) (rest : List Char) :
    scanValue (fuel + 1) depth (bytesOf (quote s).toList ++ rest) = some (.string s, rest) := by
  obtain ⟨inner, hinner, hscan⟩ := scanString_quote s rest
  rw [hinner]
  change (scanString (some []) inner).map
    (fun r => ((r.1.elim .unreadable .string : Json), r.2)) = _
  rw [hscan]
  rfl

/-! ### One step of a scan -/

section Steps

variable {fuel depth : Nat} {cs after inner text : List Char}

theorem scanValue_bracket (hdepth : 1 < depth) {c : Char} (hspace : isSpace c = false)
    (hc : c ≠ ']') :
    scanValue (fuel + 1) depth ('[' :: c :: cs) =
      (scanElements fuel (depth - 1) [] (c :: cs)).map fun r => (.array r.1, r.2) := by
  rw [scanValue, skipSpace_cons (by decide : isSpace '[' = false)]
  simp only
  rw [if_neg (by omega), skipSpace_cons hspace]
  split
  · rename_i heq
    exact absurd (List.cons.inj heq).1 hc
  · rfl

theorem scanValue_brace (hdepth : 1 < depth) :
    scanValue (fuel + 1) depth ('\x7b' :: '"' :: cs) =
      (scanMembers fuel (depth - 1) [] ('"' :: cs)).map fun r => (ofMembers r.1, r.2) := by
  rw [scanValue, skipSpace_cons (by decide : isSpace '\x7b' = false)]
  simp only
  rw [if_neg (by omega), skipSpace_cons (by decide : isSpace '"' = false)]
  rfl

theorem scanElements_last {e : Json} (read : List Json)
    (h : scanValue fuel depth cs = some (e, ']' :: after)) :
    scanElements (fuel + 1) depth read cs = some ((e :: read).reverse, after) := by
  rw [scanElements, h]
  rfl

theorem scanElements_more {e : Json} (read : List Json)
    (h : scanValue fuel depth cs = some (e, ',' :: after)) :
    scanElements (fuel + 1) depth read cs = scanElements fuel depth (e :: read) after := by
  rw [scanElements, h]
  rfl

theorem scanMembers_last {name : Option String} {value : Json}
    (read : List (Option String × Json))
    (hname : scanString (some []) inner = some (name, ':' :: text))
    (h : scanValue fuel depth text = some (value, '\x7d' :: after)) :
    scanMembers (fuel + 1) depth read ('"' :: inner) =
      some (((name, value) :: read).reverse, after) := by
  rw [scanMembers, skipSpace_cons (by decide : isSpace '"' = false)]
  simp only [hname, skipSpace_cons (by decide : isSpace ':' = false), h,
    skipSpace_cons (by decide : isSpace '\x7d' = false)]

theorem scanMembers_more {name : Option String} {value : Json}
    (read : List (Option String × Json))
    (hname : scanString (some []) inner = some (name, ':' :: text))
    (h : scanValue fuel depth text = some (value, ',' :: after)) :
    scanMembers (fuel + 1) depth read ('"' :: inner) =
      scanMembers fuel depth ((name, value) :: read) after := by
  rw [scanMembers, skipSpace_cons (by decide : isSpace '"' = false)]
  simp only [hname, skipSpace_cons (by decide : isSpace ':' = false), h,
    skipSpace_cons (by decide : isSpace ',' = false)]

end Steps

theorem ofMembers_some (members : List (String × Json)) :
    ofMembers (members.map fun m => (some m.1, m.2)) = .object members := by
  have hread : (members.map fun m => (some m.1, m.2)).mapM
      (fun (m : Option String × Json) => m.1.map (·, m.2)) = some members := by
    induction members with
    | nil => rfl
    | cons m rest ih => simp [ih]
  rw [ofMembers, hread]

/-! ### Reading back -/

theorem closes_cons {c : Char} (h : c = ',' ∨ c = ']' ∨ c = '\x7d') (rest : List Char) :
    Closes (c :: rest) := by
  intro d hd
  obtain rfl : c = d := Option.some.inj hd
  exact h

mutual

/-- A value is scanned from its text, and what follows it is left. -/
theorem scanValue_compact (j : Json) {depth fuel : Nat} {rest : List Char}
    (h : j.Legible depth) (hfuel : 2 * (bytesOf j.compact.toList).length ≤ fuel)
    (hrest : Closes rest) :
    scanValue fuel depth (bytesOf j.compact.toList ++ rest) = some (j, rest) := by
  obtain ⟨c, cs, hcs, -, -⟩ := exists_cons_bytesOf h
  obtain ⟨fuel, rfl⟩ : ∃ n, fuel = n + 1 := by
    rw [hcs, List.length_cons] at hfuel
    exact ⟨fuel - 1, by omega⟩
  cases j with
  | null => rfl
  | bool b => cases b <;> rfl
  | number n => exact scanValue_number h fuel depth hrest
  | string s => exact scanValue_string s fuel depth rest
  | array elements =>
      obtain ⟨hdepth, helements⟩ := h
      rw [bytesOf_array, List.length_cons, List.length_append, List.length_singleton] at hfuel
      rw [bytesOf_array, List.cons_append, List.append_assoc, List.singleton_append]
      cases elements with
      | nil =>
          change (if depth ≤ 1 then _ else some (array [], rest)) = _
          rw [if_neg (by omega)]
      | cons e others =>
          have hread := scanElements_compact (e :: others) (List.cons_ne_nil _ _) helements
            (by omega : _ ≤ fuel) rest []
          obtain ⟨d, ds, hds, hspace, hclose⟩ := exists_cons_bytesOf helements.1
          rw [bytesOf_elements, hds, List.cons_append, List.cons_append] at hread ⊢
          rw [scanValue_bracket hdepth hspace hclose, hread]
          rfl
  | object members =>
      obtain ⟨hdepth, hmembers⟩ := h
      rw [bytesOf_object, List.length_cons, List.length_append, List.length_singleton] at hfuel
      rw [bytesOf_object, List.cons_append, List.append_assoc, List.singleton_append]
      cases members with
      | nil =>
          change (if depth ≤ 1 then _ else some (object [], rest)) = _
          rw [if_neg (by omega)]
      | cons m others =>
          have hread := scanMembers_compact (m :: others) (List.cons_ne_nil _ _) hmembers
            (by omega : _ ≤ fuel) rest []
          obtain ⟨inner, hinner, -⟩ := scanString_quote m.1 []
          rw [List.append_nil] at hinner
          rw [bytesOf_members, hinner, List.cons_append, List.cons_append] at hread ⊢
          rw [scanValue_brace hdepth, hread]
          simp only [Option.map_some, List.reverse_nil, List.nil_append, ofMembers_some]
  | unreadable => exact h.elim

/-- Elements are scanned up to the closing bracket. -/
theorem scanElements_compact (elements : List Json) {depth fuel : Nat} (hne : elements ≠ [])
    (h : LegibleElements depth elements)
    (hfuel : 2 * (bytesOf (elementsText elements).toList).length + 1 ≤ fuel) (after : List Char)
    (read : List Json) :
    scanElements fuel depth read (bytesOf (elementsText elements).toList ++ ']' :: after) =
      some (read.reverse ++ elements, after) := by
  obtain ⟨fuel, rfl⟩ : ∃ n, fuel = n + 1 := ⟨fuel - 1, by omega⟩
  cases elements with
  | nil => exact absurd rfl hne
  | cons e others =>
      rw [bytesOf_elements, List.length_append] at hfuel
      rw [bytesOf_elements, List.append_assoc]
      cases others with
      | nil =>
          have hvalue := scanValue_compact e h.1 (by omega : _ ≤ fuel)
            (closes_cons (.inr (.inl rfl)) after)
          refine (scanElements_last read hvalue).trans ?_
          rw [List.reverse_cons]
      | cons next others =>
          rw [compactElements_cons, String.toList_append, bytesOf_append] at hfuel ⊢
          rw [List.length_append] at hfuel
          have hvalue := scanValue_compact e h.1 (by omega : _ ≤ fuel)
            (closes_cons (.inl rfl)
              (bytesOf (elementsText (next :: others)).toList ++ ']' :: after))
          have hcomma : (bytesOf ",".toList).length = 1 := rfl
          have hrest := scanElements_compact (next :: others) (List.cons_ne_nil _ _) h.2
            (by omega : _ ≤ fuel) after (e :: read)
          refine (scanElements_more read hvalue).trans (hrest.trans ?_)
          rw [List.reverse_cons, List.append_assoc, List.singleton_append]

/-- Members are scanned up to the closing brace. -/
theorem scanMembers_compact (members : List (String × Json)) {depth fuel : Nat}
    (hne : members ≠ []) (h : LegibleMembers depth members)
    (hfuel : 2 * (bytesOf (membersText members).toList).length + 1 ≤ fuel) (after : List Char)
    (read : List (Option String × Json)) :
    scanMembers fuel depth read (bytesOf (membersText members).toList ++ '\x7d' :: after) =
      some (read.reverse ++ members.map fun m => (some m.1, m.2), after) := by
  obtain ⟨fuel, rfl⟩ : ∃ n, fuel = n + 1 := ⟨fuel - 1, by omega⟩
  cases members with
  | nil => exact absurd rfl hne
  | cons m others =>
      obtain ⟨name, value⟩ := m
      rw [bytesOf_members, List.length_append, List.length_cons, List.length_append] at hfuel
      rw [bytesOf_members, List.append_assoc, List.cons_append, List.append_assoc]
      obtain ⟨inner, hinner, hname⟩ := scanString_quote name
        (':' :: (bytesOf value.compact.toList ++
          (bytesOf (compactMembers others).toList ++ '\x7d' :: after)))
      rw [hinner]
      cases others with
      | nil =>
          have hvalue := scanValue_compact value h.1 (by omega : _ ≤ fuel)
            (closes_cons (.inr (.inr rfl)) after)
          refine (scanMembers_last read hname hvalue).trans ?_
          rw [List.reverse_cons]
          rfl
      | cons next others =>
          rw [compactMembers_cons, String.toList_append, bytesOf_append] at hfuel hname
          rw [List.length_append] at hfuel
          have hvalue := scanValue_compact value h.1 (by omega : _ ≤ fuel)
            (closes_cons (.inl rfl)
              (bytesOf (membersText (next :: others)).toList ++ '\x7d' :: after))
          have hcomma : (bytesOf ",".toList).length = 1 := rfl
          have hrest := scanMembers_compact (next :: others) (List.cons_ne_nil _ _) h.2
            (by omega : _ ≤ fuel) after ((some name, value) :: read)
          refine (scanMembers_more read hname hvalue).trans (hrest.trans ?_)
          rw [List.reverse_cons, List.append_assoc, List.singleton_append]
          rfl

end

/-- A value is read back from the bytes of its text. -/
theorem ofBytes?_compact {j : Json} (h : j.Legible depthLimit) :
    ofBytes? j.compact.toUTF8.toList = some j := by
  have hbytes : (j.compact.toUTF8.toList.map fun b => Char.ofNat b.toNat) =
      bytesOf j.compact.toList := by
    rw [Text.toList_toUTF8]
    rfl
  have hcloses : Closes [] := fun c hc => by cases hc
  have hscan := scanValue_compact j h (Nat.le_add_right _ 2) hcloses
  rw [List.append_nil] at hscan
  simp only [ofBytes?, scan?, hbytes, hscan]
  rfl

end HubReplication.Json
