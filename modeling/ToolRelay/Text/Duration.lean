import ToolRelay.Decimal.Shortest

/-!
# Durations in words

A duration of whole milliseconds is written in seconds from one second on, with at most three
decimal places and no trailing zero, and in milliseconds below that.
-/

namespace ToolRelay.Text

/-- The decimal places of a number of thousandths, without trailing zeros. -/
def thousandths (ms : Nat) : String :=
  let digits := [ms / 100 % 10, ms / 10 % 10, ms % 10]
  let kept := (digits.reverse.dropWhile (· == 0)).reverse
  if kept.isEmpty then "" else "." ++ String.join (kept.map toString)

/-- The text of a duration in milliseconds. -/
def durationText (ms : Nat) : String :=
  if ms = 0 then "0ns"
  else if ms < 1000 then toString ms ++ "ms"
  else toString (ms / 1000) ++ thousandths (ms % 1000) ++ "s"

end ToolRelay.Text
