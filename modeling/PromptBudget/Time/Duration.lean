import PromptBudget.Number.Power

/-!
# PromptBudget — moments and durations

A moment is a number of nanoseconds on the clock of a request, a duration is a number of
nanoseconds between two moments. A duration is written in the largest unit of which it has at least
one, with the rest as a fraction without trailing zeros.
-/

namespace PromptBudget

/-- Nanoseconds on the clock of a request. -/
abbrev Moment := Nat

/-- Nanoseconds between two moments. -/
abbrev Duration := Nat

namespace Duration

/-- A duration of whole seconds. -/
def ofSecs (n : Nat) : Duration := n * 1000000000

/-- A duration of whole milliseconds. -/
def ofMillis (n : Nat) : Duration := n * 1000000

/-- The whole seconds of a duration. -/
def secs (d : Duration) : Nat := d / 1000000000

/-- The nanoseconds past the whole seconds of a duration. -/
def subsecNanos (d : Duration) : Nat := d % 1000000000

/-- The whole milliseconds of a duration. -/
def millis (d : Duration) : Nat := d / 1000000

/-- The digits of a fraction with so many places, without the trailing zeros. -/
def fractionDigits (places fraction : Nat) : List Char :=
  let digits := Nat.toDigits 10 fraction
  let padded := List.replicate (places - digits.length) '0' ++ digits
  (padded.reverse.dropWhile (· == '0')).reverse

/-- A duration counted in a unit of `10 ^ places` nanoseconds. -/
def inUnit (places : Nat) (unit : String) (d : Duration) : String :=
  let fraction := fractionDigits places (d % tenPow places)
  let point := if fraction.isEmpty then [] else ['.']
  toString (d / tenPow places) ++ String.ofList (point ++ fraction) ++ unit

/-- The text of a duration, in the largest unit of which it has at least one. -/
def text (d : Duration) : String :=
  if tenPow 9 ≤ d then inUnit 9 "s" d
  else if tenPow 6 ≤ d then inUnit 6 "ms" d
  else if tenPow 3 ≤ d then inUnit 3 "µs" d
  else inUnit 0 "ns" d

end Duration

end PromptBudget
