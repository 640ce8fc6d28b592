import DocSentences.Text.Rounding

/-!
# Times of a run

How long a run took is shown in seconds with one decimal; how long it waited is shown in the largest
unit that leaves a whole part, with as many decimals as it needs.
-/

namespace DocSentences.Run

open Rounding

/-- Seconds with one decimal. The milliseconds are divided in numbers of 64 bits, and the exact
value of the quotient is rounded. -/
def elapsedText (milliseconds : Nat) : String :=
  if milliseconds = 0 then "0.0s"
  else
    let (num, den) := (Precision.double.nearest milliseconds 1).fraction
    let (num, den) := (Precision.double.nearest num (1000 * den)).fraction
    let tenths := roundDiv (10 * num) den
    s!"{tenths / 10}.{tenths % 10}s"

/-- A number of smaller parts behind the point, `digits` of which make a whole; none of them for
nothing. -/
def decimals (digits part : Nat) : List Char :=
  let text := Nat.toDigits 10 part
  let padded := List.replicate (digits - text.length) '0' ++ text
  let shown := (padded.reverse.dropWhile (· = '0')).reverse
  if shown.isEmpty then [] else '.' :: shown

/-- The nanoseconds of a microsecond. -/
def microsecond : Nat := 1000

/-- The nanoseconds of a millisecond. -/
def millisecond : Nat := 1000000

/-- The nanoseconds of a second. -/
def second : Nat := 1000000000

/-- A duration in the largest unit that leaves a whole part. -/
def durationText (nanoseconds : Nat) : String :=
  let amount (digits whole : Nat) (unit : String) : String :=
    toString (nanoseconds / whole) ++ String.ofList (decimals digits (nanoseconds % whole)) ++ unit
  if second ≤ nanoseconds then amount 9 second "s"
  else if millisecond ≤ nanoseconds then amount 6 millisecond "ms"
  else if microsecond ≤ nanoseconds then amount 3 microsecond "µs"
  else amount 0 1 "ns"

end DocSentences.Run
