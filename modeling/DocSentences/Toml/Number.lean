import DocSentences.Toml.Quoted

/-!
# Numbers and dates of a configuration file

Whether the characters of a value spell an integer, a float, or a moment. Integers have 64 bits with
a sign; a float only has to be finite, and a moment to exist in the calendar.
-/

namespace DocSentences.Toml

/-- The digits of a number, in which single underscores may stand between two of them. -/
def groupedDigits? (isDigit : Char → Bool) (s : List Char) : Option (List Char) :=
  let groups := s.splitOnP (· == '_')
  if groups.all fun group => !group.isEmpty && group.all isDigit then some groups.flatten else none

/-- The number that digits spell in a base of at most sixteen. -/
def ofDigits (base : Nat) (digits : List Char) : Nat :=
  digits.foldl (fun n c => base * n + (hexDigit? c).getD 0) 0

/-- Whether a character is a digit of a base of at most sixteen. -/
def isDigitOf (base : Nat) (c : Char) : Bool :=
  match hexDigit? c with
  | some value => value < base
  | none => false

/-- Digits to base ten, without needless zeros at the start. -/
def decimalDigits? (s : List Char) : Option (List Char) := do
  let digits ← groupedDigits? Char.isDigit s
  if digits.head? = some '0' && s.length ≠ 1 then none else some digits

/-- Splits off a sign, and tells whether it was a minus. -/
def splitSign : List Char → Bool × List Char
  | '-' :: rest => (true, rest)
  | '+' :: rest => (false, rest)
  | s => (false, s)

/-- The value of an integer of any size. -/
def anyInteger? (s : List Char) : Option Int :=
  let based (base : Nat) (digits : List Char) : Option Int :=
    (groupedDigits? (isDigitOf base) digits).map fun digits => (ofDigits base digits : Int)
  match s with
  | '0' :: 'x' :: digits => based 16 digits
  | '0' :: 'o' :: digits => based 8 digits
  | '0' :: 'b' :: digits => based 2 digits
  | _ =>
      let (isNegative, unsigned) := splitSign s
      (decimalDigits? unsigned).map fun digits =>
        if isNegative then -(ofDigits 10 digits : Int) else ofDigits 10 digits

/-- The value of an integer, if 64 bits with a sign hold it. -/
def integer? (s : List Char) : Option Int := do
  let n ← anyInteger? s
  if -9223372036854775808 ≤ n ∧ n ≤ 9223372036854775807 then some n else none

/-- Whether `digits * 10 ^ exponent` rounds to no finite number of 64 bits. -/
def isTooLarge (digits : Nat) (exponent : Int) : Bool :=
  let size : Int := (Nat.toDigits 10 digits).length + exponent
  if digits = 0 || size < 300 then false
  else if 310 < size then true
  else if 0 ≤ exponent then least ≤ digits * Nat.pow 10 exponent.toNat
  else least * Nat.pow 10 (-exponent).toNat ≤ digits
where
  /-- Half way from the largest finite number to the power of two above it. -/
  least : Nat := Nat.pow 2 1024 - Nat.pow 2 970

/-- Reads a part of a float that begins with one of the given characters; none of them, no part. -/
def floatPart? (isStart isInside : Char → Bool) (s : List Char) :
    Option (List Char) × List Char :=
  match s with
  | c :: rest =>
      if isStart c then (some (rest.takeWhile isInside), rest.dropWhile isInside) else (none, s)
  | [] => (none, s)

/-- Whether some characters spell a float. -/
def isFloat (s : List Char) : Bool :=
  let (isNegative, unsigned) := splitSign s
  let isDigitOrBar (c : Char) := c.isDigit || c = '_'
  if unsigned = ['i', 'n', 'f'] || unsigned = ['n', 'a', 'n'] then true
  else
    let whole := unsigned.takeWhile isDigitOrBar
    let (fraction, rest) := floatPart? (· == '.') isDigitOrBar (unsigned.dropWhile isDigitOrBar)
    let (exponent, rest) := floatPart? (fun c => c = 'e' || c = 'E')
      (fun c => isDigitOrBar c || c = '+' || c = '-') rest
    if (fraction.isNone && exponent.isNone) || !rest.isEmpty then false
    else
      let shifted := splitSign (exponent.getD ['0'])
      match decimalDigits? whole, groupedDigits? Char.isDigit (fraction.getD ['0']),
          groupedDigits? Char.isDigit shifted.2 with
      | some w, some f, some e =>
          let shift : Int := ofDigits 10 e
          let exponent := (if shifted.1 then -shift else shift) - f.length
          isNegative || !isTooLarge (ofDigits 10 (w ++ f)) exponent
      | _, _, _ => false

/-- The number that two digits spell. -/
def twoDigits? (a b : Char) : Option Nat :=
  if a.isDigit && b.isDigit then some (ofDigits 10 [a, b]) else none

/-- The number of days in a month. -/
def daysInMonth (year month : Nat) : Nat :=
  if month = 2 then
    if (year % 4 = 0 && year % 100 ≠ 0) || year % 400 = 0 then 29 else 28
  else if month = 4 || month = 6 || month = 9 || month = 11 then 30
  else 31

/-- What follows a date. -/
def afterDate? : List Char → Option (List Char)
  | y :: y' :: y'' :: y''' :: '-' :: m :: m' :: '-' :: d :: d' :: rest => do
      let century ← twoDigits? y y'
      let year ← twoDigits? y'' y'''
      let month ← twoDigits? m m'
      let day ← twoDigits? d d'
      if 1 ≤ month && month ≤ 12 && 1 ≤ day && day ≤ daysInMonth (100 * century + year) month then
        some rest
      else none
  | _ => none

/-- What follows a time of day. -/
def afterTime? : List Char → Option (List Char)
  | h :: h' :: ':' :: m :: m' :: ':' :: s :: s' :: rest => do
      let hour ← twoDigits? h h'
      let minute ← twoDigits? m m'
      let second ← twoDigits? s s'
      if hour ≤ 23 && minute ≤ 59 && second ≤ 60 then
        match rest with
        | '.' :: c :: more => if c.isDigit then some (more.dropWhile Char.isDigit) else some rest
        | _ => some rest
      else none
  | _ => none

/-- Whether some characters are nothing, or the distance of a time zone. -/
def isZone : List Char → Bool
  | [] | ['Z'] | ['z'] => true
  | [sign, h, h', ':', m, m'] =>
      (sign = '+' || sign = '-') &&
        match twoDigits? h h', twoDigits? m m' with
        | some hour, some minute => hour ≤ 23 && minute ≤ 59
        | _, _ => false
  | _ => false

/-- Whether some characters spell a time of day, perhaps with a time zone. -/
def isZonedTime (s : List Char) : Bool :=
  match afterTime? s with
  | some rest => isZone rest
  | none => false

/-- Whether some characters spell a date, a time of day, or both. -/
def isMoment (s : List Char) : Bool :=
  match afterDate? s with
  | some [] => true
  | some (c :: rest) => (c = 'T' || c = 't' || c = ' ') && isZonedTime rest
  | none => afterTime? s = some []

end DocSentences.Toml
