/-
**The size of a frame.**

A frame that is not deflated can be written exactly when its text fits into the longest body.  How
long a text can get is bounded by what is in the value: a character stands inside quotes as at most
six, and all else as itself.  Nor can it get shorter than what is in it, so one item can make a
batch too long to be written.

Main definitions:

* `Json.room` — a bound for the text of a value.

Main results:

* `Json.utf8ByteSize_compact_le` — the text of a value fits into its room;
* `Wire.length_bodyBytes` — the body has as many bytes as the text;
* `Frame.exists_write_iff`, `Frame.exists_write_of_room` — when a frame can be written;
* `Frame.write_batch_eq_error`, `Frame.kind_of_write_eq_error` — when it cannot, and what that
  counts as.
-/

import HubReplication.Frame.Wire
import HubReplication.Proofs.Text.Utf8

set_option relaxedAutoImplicit false
set_option autoImplicit false

namespace HubReplication

namespace Json

/-! ### The size of a text -/

theorem utf8ByteSize_ofList_cons (c : Char) (rest : List Char) :
    (String.ofList (c :: rest)).utf8ByteSize = c.utf8Size + (String.ofList rest).utf8ByteSize := by
  rw [← List.singleton_append, String.ofList_append, String.utf8ByteSize_append,
    ← String.singleton_eq_ofList, String.utf8ByteSize_singleton]

/-- An ASCII character takes one byte each time. -/
theorem utf8ByteSize_replicate {c : Char} (h : c.utf8Size = 1) (n : Nat) :
    (String.ofList (List.replicate n c)).utf8ByteSize = n := by
  induction n with
  | zero => rfl
  | succ n ih =>
      rw [List.replicate_succ, utf8ByteSize_ofList_cons, h, ih]
      omega

theorem utf8Size_hexDigit : ∀ n < 16, (hexDigit n).utf8Size = 1 := by decide

/-- A character stands inside quotes as at most six of its kind. -/
theorem utf8ByteSize_escapeChar (c : Char) :
    (String.ofList (escapeChar c)).utf8ByteSize ≤ 6 * c.utf8Size := by
  have hpos := c.utf8Size_pos
  have htwo (d : Char) (hd : d.utf8Size = 1) :
      (String.ofList ['\\', d]).utf8ByteSize ≤ 6 * c.utf8Size := by
    simp only [utf8ByteSize_ofList_cons, hd, String.ofList_nil, String.utf8ByteSize_empty]
    change 1 + (1 + 0) ≤ _
    omega
  unfold escapeChar
  repeat' split
  case isFalse.isFalse.isFalse.isFalse.isFalse.isFalse.isFalse.isTrue h =>
    have hhigh := utf8Size_hexDigit (c.toNat / 16) (by omega)
    have hlow := utf8Size_hexDigit (c.toNat % 16) (Nat.mod_lt _ (by decide))
    simp only [utf8ByteSize_ofList_cons, hhigh, hlow, String.ofList_nil, String.utf8ByteSize_empty]
    change 1 + (1 + (1 + (1 + (1 + (1 + 0))))) ≤ _
    omega
  case isFalse.isFalse.isFalse.isFalse.isFalse.isFalse.isFalse.isFalse =>
    rw [utf8ByteSize_ofList_cons, String.ofList_nil, String.utf8ByteSize_empty]
    omega
  all_goals exact htwo _ rfl

theorem utf8ByteSize_flatMap_escapeChar (l : List Char) :
    (String.ofList (l.flatMap escapeChar)).utf8ByteSize ≤ 6 * (String.ofList l).utf8ByteSize := by
  induction l with
  | nil => exact Nat.zero_le _
  | cons c rest ih =>
      have hc := utf8ByteSize_escapeChar c
      rw [List.flatMap_cons, String.ofList_append, String.utf8ByteSize_append,
        utf8ByteSize_ofList_cons]
      omega

theorem utf8ByteSize_quote_le (s : String) : (quote s).utf8ByteSize ≤ 6 * s.utf8ByteSize + 2 := by
  have hquote : "\"".utf8ByteSize = 1 := by decide
  unfold quote
  split
  · simp only [String.utf8ByteSize_append, hquote]
    omega
  · have h := utf8ByteSize_flatMap_escapeChar s.toList
    rw [String.ofList_toList] at h
    simp only [String.utf8ByteSize_append, hquote]
    omega

/-- A number of 64 bits has at most twenty digits, and a digit takes no more than four bytes. -/
theorem utf8ByteSize_nat_le {n : Nat} (hn : n < UInt64.size) :
    (JsonNumber.nat n).text.utf8ByteSize ≤ 80 := by
  have hbytes (l : List Char) : (String.ofList l).utf8ByteSize ≤ 4 * l.length := by
    induction l with
    | nil => exact Nat.le_refl _
    | cons c rest ih =>
        have hc := c.utf8Size_le_four
        rw [utf8ByteSize_ofList_cons, List.length_cons]
        omega
  have hlength := (Nat.length_toDigits_le_iff (b := 10) (k := 20) (by decide) (by decide)).2
    (Nat.lt_trans hn (by decide))
  have htext := hbytes (Nat.toDigits 10 n)
  change (String.ofList (Nat.toDigits 10 n)).utf8ByteSize ≤ _
  omega

/-! ### The size of a value -/

mutual

/-- Room for the text of a value. -/
def room : Json → Nat
  | .null | .unreadable => 4
  | .bool _ => 5
  | .number n => n.text.utf8ByteSize
  | .string s => 6 * s.utf8ByteSize + 2
  | .array elements => roomElements elements + 2
  | .object members => roomMembers members + 2

/-- Room for elements with a comma each. -/
def roomElements : List Json → Nat
  | [] => 0
  | e :: rest => e.room + roomElements rest + 1

/-- Room for members with a comma each. -/
def roomMembers : List (String × Json) → Nat
  | [] => 0
  | (name, value) :: rest => 6 * name.utf8ByteSize + value.room + roomMembers rest + 4

end

mutual

/-- The text of a value fits into its room. -/
theorem utf8ByteSize_compact_le (j : Json) : j.compact.utf8ByteSize ≤ j.room := by
  cases j with
  | null => decide +kernel
  | unreadable => decide +kernel
  | bool b => cases b <;> decide +kernel
  | number n => exact Nat.le_refl _
  | string s => exact utf8ByteSize_quote_le s
  | array elements =>
      cases elements with
      | nil => decide +kernel
      | cons e rest =>
          have he := utf8ByteSize_compact_le e
          have hrest := utf8ByteSize_compactElements_le rest
          simp only [compact, room, roomElements, String.utf8ByteSize_append]
          change 1 + _ + _ + 1 ≤ _
          omega
  | object members =>
      cases members with
      | nil => decide +kernel
      | cons m rest =>
          have hname := utf8ByteSize_quote_le m.1
          have hvalue := utf8ByteSize_compact_le m.2
          have hrest := utf8ByteSize_compactMembers_le rest
          simp only [compact, room, roomMembers, String.utf8ByteSize_append]
          change 1 + _ + 1 + _ + _ + 1 ≤ _
          omega

theorem utf8ByteSize_compactElements_le (elements : List Json) :
    (compactElements elements).utf8ByteSize ≤ roomElements elements := by
  cases elements with
  | nil => exact Nat.le_refl _
  | cons e rest =>
      have he := utf8ByteSize_compact_le e
      have hrest := utf8ByteSize_compactElements_le rest
      simp only [compactElements, roomElements, String.utf8ByteSize_append]
      change 1 + _ + _ ≤ _
      omega

theorem utf8ByteSize_compactMembers_le (members : List (String × Json)) :
    (compactMembers members).utf8ByteSize ≤ roomMembers members := by
  cases members with
  | nil => exact Nat.le_refl _
  | cons m rest =>
      have hname := utf8ByteSize_quote_le m.1
      have hvalue := utf8ByteSize_compact_le m.2
      have hrest := utf8ByteSize_compactMembers_le rest
      simp only [compactMembers, roomMembers, String.utf8ByteSize_append]
      change 1 + _ + 1 + _ + _ ≤ _
      omega

end

/-! ### What is in a text -/

/-- A character stands inside quotes as no less than itself. -/
theorem utf8Size_le_escapeChar (c : Char) :
    c.utf8Size ≤ (String.ofList (escapeChar c)).utf8ByteSize := by
  have hstarts (d : Char) (rest : List Char) (h : c.toNat < 128) :
      c.utf8Size ≤ (String.ofList (d :: rest)).utf8ByteSize := by
    have hone : c.utf8Size = 1 :=
      Char.utf8Size_eq_one_iff.2 (UInt32.le_iff_toNat_le.2 (Nat.le_of_lt_succ h))
    have hpos := d.utf8Size_pos
    rw [hone, utf8ByteSize_ofList_cons]
    omega
  unfold escapeChar
  repeat' split
  case isFalse.isFalse.isFalse.isFalse.isFalse.isFalse.isFalse.isFalse =>
    rw [utf8ByteSize_ofList_cons]
    exact Nat.le_add_right _ _
  all_goals
    subst_vars
    exact hstarts _ _ (by first | decide | omega)

theorem utf8ByteSize_le_flatMap_escapeChar (l : List Char) :
    (String.ofList l).utf8ByteSize ≤ (String.ofList (l.flatMap escapeChar)).utf8ByteSize := by
  induction l with
  | nil => exact Nat.zero_le _
  | cons c rest ih =>
      have hc := utf8Size_le_escapeChar c
      rw [List.flatMap_cons, String.ofList_append, String.utf8ByteSize_append,
        utf8ByteSize_ofList_cons]
      omega

theorem utf8ByteSize_lt_quote (s : String) : s.utf8ByteSize < (quote s).utf8ByteSize := by
  have hquote : "\"".utf8ByteSize = 1 := by decide
  unfold quote
  split
  · simp only [String.utf8ByteSize_append, hquote]
    omega
  · have h := utf8ByteSize_le_flatMap_escapeChar s.toList
    rw [String.ofList_toList] at h
    simp only [String.utf8ByteSize_append, hquote]
    omega

theorem utf8ByteSize_le_compactElements {e : Json} {elements : List Json} (h : e ∈ elements) :
    e.compact.utf8ByteSize ≤ (compactElements elements).utf8ByteSize := by
  induction elements with
  | nil => cases h
  | cons first rest ih =>
      simp only [compactElements, String.utf8ByteSize_append]
      rcases List.mem_cons.1 h with rfl | h
      · omega
      · have hrest := ih h
        omega

theorem utf8ByteSize_le_compactMembers {name : String} {value : Json}
    {members : List (String × Json)} (h : (name, value) ∈ members) :
    value.compact.utf8ByteSize ≤ (compactMembers members).utf8ByteSize := by
  induction members with
  | nil => cases h
  | cons first rest ih =>
      simp only [compactMembers, String.utf8ByteSize_append]
      rcases List.mem_cons.1 h with rfl | h
      · simp only
        omega
      · have hrest := ih h
        omega

/-- The text of an element is in the text of the array. -/
theorem utf8ByteSize_le_array {e : Json} {elements : List Json} (h : e ∈ elements) :
    e.compact.utf8ByteSize ≤ (array elements).compact.utf8ByteSize := by
  cases elements with
  | nil => cases h
  | cons first rest =>
      simp only [compact, String.utf8ByteSize_append]
      rcases List.mem_cons.1 h with rfl | h
      · omega
      · have hrest := utf8ByteSize_le_compactElements h
        omega

/-- The text of a member is in the text of the object. -/
theorem utf8ByteSize_le_object {name : String} {value : Json} {members : List (String × Json)}
    (h : (name, value) ∈ members) :
    value.compact.utf8ByteSize ≤ (object members).compact.utf8ByteSize := by
  cases members with
  | nil => cases h
  | cons first rest =>
      simp only [compact, String.utf8ByteSize_append]
      rcases List.mem_cons.1 h with rfl | h
      · simp only
        omega
      · have hrest := utf8ByteSize_le_compactMembers h
        omega

end Json

namespace Wire

/-- The body of a frame that is not deflated has as many bytes as its text. -/
theorem length_bodyBytes (f : Frame) :
    (bodyBytes f).length = f.toJson.compact.utf8ByteSize := by
  rw [bodyBytes, Text.toList_eq]
  rfl

end Wire

/-- What fits into one stored block takes five bytes more. -/
theorem Deflate.length_store_of_le {bytes : List UInt8} (h : bytes.length ≤ storedBound) :
    (store bytes).length = bytes.length + 5 := by
  rw [store, if_pos h]
  simp only [storedBlock, twoBytes, List.length_append, List.length_cons, List.length_nil]
  omega

namespace Frame

/-- A frame that is not deflated can be written exactly when its text is not too long. -/
theorem exists_write_iff {compression : FrameCompression} (h : compression.enabled = false)
    (f : Frame) :
    (∃ bytes, f.write compression = .ok bytes) ↔
      f.toJson.compact.utf8ByteSize ≤ Wire.maxBytes := by
  have hplain : compression.applies (Wire.bodyBytes f).length = false := by
    rw [FrameCompression.applies, h, Bool.false_and]
  rw [← Wire.length_bodyBytes]
  simp only [Frame.write, BodyCodec.write, BodyCodec.encode, hplain, Bool.false_eq_true, if_false]
  split
  · rename_i hlong
    refine ⟨?_, fun h => absurd hlong (Nat.not_lt.2 h)⟩
    rintro ⟨_, h⟩
    cases h
  · rename_i hshort
    exact ⟨fun _ => Nat.not_lt.1 hshort, fun _ => ⟨_, rfl⟩⟩

theorem exists_write_off_of_room {f : Frame} (h : f.toJson.room ≤ Wire.maxBytes) :
    ∃ bytes, f.write .off = .ok bytes :=
  (exists_write_iff rfl f).2 (Nat.le_trans (Json.utf8ByteSize_compact_le _) h)

/-- What is too long to be written is no frame of this protocol. -/
theorem kind_of_write_eq_error {f : Frame} {compression : FrameCompression} {e : ReplicationError}
    (h : f.write compression = .error e) : e.kind = .protocolMismatch := by
  simp only [Frame.write, BodyCodec.write] at h
  split at h <;> cases h
  rfl

/-- The id of an item is in the text of a batch. -/
theorem utf8ByteSize_id_lt {batch : Batch} {item : Item} (hitem : item ∈ batch.items) :
    item.id.utf8ByteSize < (Frame.batch batch).toJson.compact.utf8ByteSize :=
  calc item.id.utf8ByteSize
      < (Json.string item.id).compact.utf8ByteSize := Json.utf8ByteSize_lt_quote item.id
    _ ≤ item.toJson.compact.utf8ByteSize := Json.utf8ByteSize_le_object List.mem_cons_self
    _ ≤ (Json.array (batch.items.map (·.toJson))).compact.utf8ByteSize :=
      Json.utf8ByteSize_le_array (List.mem_map_of_mem hitem)
    _ ≤ batch.toJson.compact.utf8ByteSize := Json.utf8ByteSize_le_object List.mem_cons_self
    _ ≤ (Frame.batch batch).toJson.compact.utf8ByteSize :=
      Json.utf8ByteSize_le_object (List.mem_cons_of_mem _ List.mem_cons_self)

/-- A batch with an item of a very long id cannot be written. -/
theorem write_batch_eq_error {compression : FrameCompression} (h : compression.enabled = false)
    {batch : Batch} {item : Item} (hitem : item ∈ batch.items)
    (hlong : Wire.maxBytes ≤ item.id.utf8ByteSize) :
    ∃ e, (Frame.batch batch).write compression = .error e := by
  have htext := utf8ByteSize_id_lt hitem
  cases hwrite : (Frame.batch batch).write compression with
  | error e => exact ⟨e, rfl⟩
  | ok bytes =>
      have hfits := (exists_write_iff h _).1 ⟨bytes, hwrite⟩
      omega

/-- A resumption after an etag of 64 bits is never too long. -/
theorem exists_write_resume {etag : Nat} (h : etag < UInt64.size) :
    ∃ bytes, (Frame.resume etag).write .off = .ok bytes := by
  have hdigits := Json.utf8ByteSize_nat_le h
  have hnames : "Type".utf8ByteSize = 4 ∧ "Resume".utf8ByteSize = 6 ∧ "Body".utf8ByteSize = 4 ∧
      "last_etag".utf8ByteSize = 9 := by decide
  have hmax : 1000 ≤ Wire.maxBytes := by decide
  refine exists_write_off_of_room ?_
  simp only [toJson, body?, name, Json.room, Json.roomMembers, Json.nat]
  omega

/-- A frame whose text fits into one stored block can be written, deflated or not. -/
theorem exists_write_of_room {f : Frame} (h : f.toJson.room ≤ Deflate.storedBound)
    (compression : FrameCompression) : ∃ bytes, f.write compression = .ok bytes := by
  have hbody : (Wire.bodyBytes f).length ≤ Deflate.storedBound := by
    rw [Wire.length_bodyBytes]
    exact Nat.le_trans (Json.utf8ByteSize_compact_le _) h
  have hencoded : (BodyCodec.stored.encode f compression).2.length ≤ Wire.maxBytes := by
    have hmax : Deflate.storedBound + 5 ≤ Wire.maxBytes := by decide
    simp only [BodyCodec.encode]
    split
    · change (Deflate.store (Wire.bodyBytes f)).length ≤ _
      rw [Deflate.length_store_of_le hbody]
      omega
    · change (Wire.bodyBytes f).length ≤ _
      omega
  simp only [Frame.write, BodyCodec.write, if_neg (Nat.not_lt.2 hencoded)]
  exact ⟨_, rfl⟩

end Frame

end HubReplication
