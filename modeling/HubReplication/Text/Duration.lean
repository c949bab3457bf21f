/-
**Durations as text.**

A duration of whole milliseconds is written in the largest unit that gives it a whole part: seconds
with as many decimals as it needs, milliseconds, and nothing at all in nanoseconds.

Main definitions:

* `durationText` — the text of a duration.
-/

set_option relaxedAutoImplicit false
set_option autoImplicit false

namespace HubReplication.Text

/-- Three decimals without the zeros at their end. -/
def decimals (thousandths : Nat) : List Char :=
  let digit (n : Nat) : Char := Char.ofNat ('0'.toNat + n % 10)
  let all := [digit (thousandths / 100), digit (thousandths / 10), digit thousandths]
  (all.reverse.dropWhile (· = '0')).reverse

/-- A duration in milliseconds as text. -/
def durationText (ms : Nat) : String :=
  if ms = 0 then "0ns"
  else if ms < 1000 then toString ms ++ "ms"
  else
    match decimals (ms % 1000) with
    | [] => toString (ms / 1000) ++ "s"
    | ds => toString (ms / 1000) ++ "." ++ String.ofList ds ++ "s"

example : [0, 7, 999, 1000, 1500, 61050].map durationText =
    ["0ns", "7ms", "999ms", "1s", "1.5s", "61.05s"] := by decide +kernel

end HubReplication.Text
