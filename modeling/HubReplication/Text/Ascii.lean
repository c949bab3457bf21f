/-
**Case of ASCII letters.**

Names, tags, paths and URLs are compared without regard to the case of ASCII letters; every other
character counts as it stands.

Main definitions:

* `Text.asciiLower`, `Text.asciiUpper` — fold the ASCII letters of a text;
* `Text.sameName` — equality up to the case of ASCII letters;
* `Text.startsWithName` — prefix up to the case of ASCII letters;
* `Text.trimSlashes` — a text without its trailing slashes.
-/

set_option relaxedAutoImplicit false
set_option autoImplicit false

namespace HubReplication.Text

/-- The text with its ASCII capitals made small. -/
def asciiLower (s : String) : String := String.ofList (s.toList.map Char.toLower)

/-- The text with its small ASCII letters made capital. -/
def asciiUpper (s : String) : String := String.ofList (s.toList.map Char.toUpper)

/-- Equality up to the case of ASCII letters. -/
def sameName (a b : String) : Bool := asciiLower a == asciiLower b

/-- Whether a text starts with another one, up to the case of ASCII letters. -/
def startsWithName (start s : String) : Bool :=
  (asciiLower start).toList.isPrefixOf (asciiLower s).toList

/-- The text without the slashes at its end. -/
def trimSlashes (s : String) : String :=
  String.ofList (s.toList.reverse.dropWhile (· == '/')).reverse

@[simp] theorem toList_asciiLower (s : String) :
    (asciiLower s).toList = s.toList.map Char.toLower := by
  simp [asciiLower]

@[simp] theorem sameName_self (s : String) : sameName s s = true := by simp [sameName]

theorem sameName_eq_true_iff {a b : String} :
    sameName a b = true ↔ asciiLower a = asciiLower b := by simp [sameName]

theorem sameName_comm (a b : String) : sameName a b = sameName b a := by
  simp only [sameName]; exact BEq.comm

end HubReplication.Text
