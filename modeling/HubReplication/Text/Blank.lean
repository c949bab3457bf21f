/-
**Blank characters.**

A character is blank when Unicode gives it the property White_Space.  Names and paths are trimmed
of blanks, and a text of blanks alone counts as missing.

Main definitions:

* `Text.isBlank` — the property;
* `Text.trim` — a text without the blanks around it;
* `Text.isBlankText` — whether a text holds nothing but blanks.
-/

set_option relaxedAutoImplicit false
set_option autoImplicit false

namespace HubReplication.Text

/-- The characters with the property White_Space. -/
def isBlank (c : Char) : Bool :=
  let n := c.toNat
  (0x9 ≤ n && n ≤ 0xD) || n == 0x20 || n == 0x85 || n == 0xA0 || n == 0x1680 ||
    (0x2000 ≤ n && n ≤ 0x200A) || n == 0x2028 || n == 0x2029 || n == 0x202F || n == 0x205F ||
    n == 0x3000

/-- A list of characters without the blanks at either end. -/
def trimChars (cs : List Char) : List Char :=
  ((cs.dropWhile isBlank).reverse.dropWhile isBlank).reverse

/-- A text without the blanks at either end. -/
def trim (s : String) : String := String.ofList (trimChars s.toList)

/-- Whether a text holds nothing but blanks. -/
def isBlankText (s : String) : Bool := s.toList.all isBlank

end HubReplication.Text
