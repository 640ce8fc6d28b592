import DocSentences.Text.Rounding

/-!
# Numbers in single precision

A decimal number is rounded to the nearest number with 24 binary digits, and written by the fewest
decimal digits that lead back to it, without an exponent. Everything is exact arithmetic on
fractions.
-/

namespace DocSentences.SinglePrecision

open Rounding

/-- The number in single precision that is nearest to a positive fraction. -/
def nearest (num den : Nat) : Binary := Precision.single.nearest num den

/-- Compares two fractions. -/
def compareFractions (a b : Nat × Nat) : Ordering :=
  compare (a.1 * b.2) (b.1 * a.2)

/-- Whether a fraction is rounded to the given number. -/
def roundsTo (value : Nat × Nat) (x : Binary) : Bool :=
  value.1 ≠ 0 && nearest value.1 value.2 = x

/-- The distance between two fractions. -/
def distance (a b : Nat × Nat) : Nat × Nat :=
  (Int.natAbs ((a.1 * b.2 : Nat) - (b.1 * a.2 : Nat) : Int), a.2 * b.2)

/-- The integer part of the decimal logarithm of a positive fraction, looked for downwards. -/
def log10Fraction (num den : Nat) : Nat → Int → Int
  | 0, guess => guess
  | steps + 1, guess =>
      let (power, one) := scaled 10 1 guess
      if power * den ≤ num * one then guess else log10Fraction num den steps (guess - 1)

/-- The decimal numbers with the fewest digits among those that round to `x`: digits and exponent.
`digits` counts the digits tried so far. -/
def shortestFrom (x : Binary) (value : Nat × Nat) (top : Int) : Nat → Nat → Nat × Int
  | 0, digits => (0, digits)
  | steps + 1, digits =>
      let exponent := top - digits
      let (up, down) := scaled 10 1 (-exponent)
      let below := value.1 * up / (value.2 * down)
      let candidates := [below, below + 1].filter fun n => roundsTo (scaled 10 n exponent) x
      match candidates with
      | [] => shortestFrom x value top steps (digits + 1)
      | [n] => (n, exponent)
      | n :: m :: _ =>
          let far (k : Nat) := distance (scaled 10 k exponent) value
          (if (compareFractions (far m) (far n)).isLT then m else n, exponent)

/-- Decimal digits times a power of ten, without an exponent. -/
def positional (digits : Nat) (exponent : Int) : List Char :=
  let text := Nat.toDigits 10 digits
  match exponent with
  | .ofNat zeros => text ++ List.replicate zeros '0'
  | .negSucc places =>
      let places := places + 1
      let padded := List.replicate (places + 1 - text.length) '0' ++ text
      let cut := padded.length - places
      let fraction := ((padded.drop cut).reverse.dropWhile (· = '0')).reverse
      if fraction.isEmpty then padded.take cut else padded.take cut ++ '.' :: fraction

/-- The text of the number in single precision that is nearest to `n * 10 ^ e`. -/
def text (n : Nat) (e : Int) : List Char :=
  let length : Int := (Nat.toDigits 10 n).length
  if n = 0 || length + e < -60 then ['0']
  else if 60 < length + e then "inf".toList
  else
    let value := scaled 10 n e
    let x := nearest value.1 value.2
    if x.significand = 0 then ['0']
    else if 128 < x.exponent + Precision.single.digits then "inf".toList
    else
      let exact := scaled 2 x.significand x.exponent
      let top := log10Fraction exact.1 exact.2 200 (length + e + 1)
      let (digits, exponent) := shortestFrom x exact top 12 0
      positional digits exponent

end DocSentences.SinglePrecision
