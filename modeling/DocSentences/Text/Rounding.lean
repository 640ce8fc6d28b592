/-!
# Rounding

Fractions are rounded to integers, and to numbers with a fixed count of binary digits; a number half
way between two neighbours goes to the even one.
-/

namespace DocSentences.Rounding

/-- The positive number `significand * 2 ^ exponent`. -/
structure Binary where
  significand : Nat
  exponent : Int
  deriving DecidableEq, Repr

/-- How many binary digits a number has, and the least exponent it may have. -/
structure Precision where
  digits : Nat
  leastExponent : Int
  deriving DecidableEq, Repr

/-- Numbers of 32 bits. -/
def Precision.single : Precision := ⟨24, -149⟩

/-- Numbers of 64 bits. -/
def Precision.double : Precision := ⟨53, -1074⟩

/-- The quotient rounded to the nearest integer, a half to the even neighbour. -/
def roundDiv (num den : Nat) : Nat :=
  let quotient := num / den
  let twice := 2 * (num % den)
  if twice < den then quotient
  else if den < twice then quotient + 1
  else if quotient % 2 = 0 then quotient else quotient + 1

/-- The fraction `n * base ^ e` as a numerator and a denominator. -/
def scaled (base n : Nat) : Int → Nat × Nat
  | .ofNat e => (n * Nat.pow base e, 1)
  | .negSucc e => (n, Nat.pow base (e + 1))

/-- The value of a number as a numerator and a denominator. -/
def Binary.fraction (x : Binary) : Nat × Nat := scaled 2 x.significand x.exponent

/-- The integer part of the binary logarithm of a positive fraction. -/
def log2Fraction (num den : Nat) : Int :=
  let guess : Int := (Nat.log2 num : Int) - (Nat.log2 den : Int)
  let (power, one) := scaled 2 1 guess
  if power * den ≤ num * one then guess else guess - 1

/-- The number of the given precision that is nearest to a positive fraction. -/
def Precision.nearest (p : Precision) (num den : Nat) : Binary :=
  let exponent := max (log2Fraction num den - (p.digits - 1 : Nat)) p.leastExponent
  let (up, down) := scaled 2 1 (-exponent)
  let significand := roundDiv (num * up) (den * down)
  if significand = Nat.pow 2 p.digits then ⟨Nat.pow 2 (p.digits - 1), exponent + 1⟩
  else ⟨significand, exponent⟩

end DocSentences.Rounding
