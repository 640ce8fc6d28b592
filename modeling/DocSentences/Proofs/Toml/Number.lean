import DocSentences.Toml.Reading
import DocSentences.Toml.Writing
import Mathlib.Data.List.Basic

/-!
# Integers and truth values are read back as they were written

They stand in a file without quotes or brackets, up to the end of the line. An integer is written
with its digits to base ten, which no other kind of value can be mistaken for.
-/

namespace DocSentences.Toml

theorem takeWhile_dropWhile_append {p : Char → Bool} {s : List Char} {c : Char}
    (hs : ∀ d ∈ s, p d = true) (hc : p c = false) (rest : List Char) :
    (s ++ c :: rest).takeWhile p = s ∧ (s ++ c :: rest).dropWhile p = c :: rest := by
  constructor
  · rw [List.takeWhile_append_of_pos hs, List.takeWhile_cons_of_neg (by simp [hc]),
      List.append_nil]
  · rw [List.dropWhile_append_of_pos hs, List.dropWhile_cons_of_neg (by simp [hc])]

/-! ## Digits -/

section Digits

variable {s : List Char}

/-- Digits after the first character leave no room for the marks in a date or a time. -/
theorem isMoment_of_tail (h : ∀ c ∈ s.tail, c.isDigit = true) : isMoment s = false := by
  have hdate : afterDate? s = none := by
    unfold afterDate?
    split
    · exact absurd (h '-' (by simp)) (by decide)
    · rfl
  have htime : afterTime? s = none := by
    unfold afterTime?
    split
    · exact absurd (h ':' (by simp)) (by decide)
    · rfl
  simp [isMoment, hdate, htime]

/-- A word of digits, with a sign or without, has no base of its own and is read to base ten. -/
theorem anyInteger?_of_tail (h : ∀ c ∈ s.tail, c.isDigit = true) :
    anyInteger? s = (decimalDigits? (splitSign s).2).map fun digits =>
      if (splitSign s).1 then -(ofDigits 10 digits : Int) else ofDigits 10 digits := by
  unfold anyInteger?
  split
  · exact absurd (h 'x' (by simp)) (by decide)
  · exact absurd (h 'o' (by simp)) (by decide)
  · exact absurd (h 'b' (by simp)) (by decide)
  · rfl

theorem groupedDigits?_eq_self (hne : s ≠ []) (h : ∀ c ∈ s, c.isDigit = true) :
    groupedDigits? Char.isDigit s = some s := by
  have hgroups : s.splitOnP (· == '_') = [s] := by
    apply List.splitOnP_eq_singleton
    intro c hc
    have hdigit := h c hc
    rw [beq_eq_false_iff_ne]
    rintro rfl
    exact absurd hdigit (by decide)
  simpa [groupedDigits?, hgroups, hne] using h

end Digits

/-! ## Numbers to base ten -/

variable (n : Nat)

theorem isDigit_of_mem {c : Char} (h : c ∈ Nat.toDigits 10 n) : c.isDigit = true :=
  Nat.isDigit_of_mem_toDigits (by decide) (by decide) h

/-- Only the number zero is written with a leading zero. -/
theorem eq_zero_of_head?_toDigits (h : (Nat.toDigits 10 n).head? = some '0') : n = 0 := by
  induction n using Nat.strongRecOn with
  | _ n ih =>
    rw [Nat.toDigits_eq_if (by decide)] at h
    split at h
    next hsmall =>
      have hdigit : ∀ m < 10, Nat.digitChar m = '0' → m = 0 := by decide
      exact hdigit n hsmall (by simpa using h)
    next hlarge =>
      rw [List.head?_append_of_ne_nil _ Nat.toDigits_ne_nil] at h
      have hzero := ih (n / 10) (by omega) h
      omega

/-- A number is read back from its digits. -/
theorem ofDigits_toDigits : ofDigits 10 (Nat.toDigits 10 n) = n := by
  have hvalue : ∀ (m : Nat), ∀ c ∈ Nat.toDigits 10 n,
      10 * m + (hexDigit? c).getD 0 = 10 * m + (c.toNat - '0'.toNat) := by
    intro m c hc
    have hdigit : '0' ≤ c ∧ c ≤ '9' := by
      have h := isDigit_of_mem n hc
      rwa [Char.isDigit, Bool.and_eq_true, decide_eq_true_eq, decide_eq_true_eq] at h
    rw [hexDigit?, if_pos hdigit, Option.getD_some]
    rfl
  calc ofDigits 10 (Nat.toDigits 10 n)
      = (Nat.toDigits 10 n).foldl (fun m c => 10 * m + (c.toNat - '0'.toNat)) 0 :=
        List.foldl_ext _ _ 0 hvalue
    _ = Nat.ofDigitChars 10 (Nat.toDigits 10 n) 0 := Nat.ofDigitChars_eq_foldl.symm
    _ = n := Nat.ofDigitChars_ten_toDigits

theorem decimalDigits?_toDigits :
    decimalDigits? (Nat.toDigits 10 n) = some (Nat.toDigits 10 n) := by
  have hgroups := groupedDigits?_eq_self Nat.toDigits_ne_nil fun c => isDigit_of_mem n (c := c)
  have hzero :
      ¬((Nat.toDigits 10 n).head? = some '0' && (Nat.toDigits 10 n).length ≠ 1) = true := by
    simp only [Bool.and_eq_true, decide_eq_true_eq, not_and, ne_eq, not_not]
    intro h
    rw [eq_zero_of_head?_toDigits n h]
    rfl
  simp only [decimalDigits?, hgroups, Option.bind_eq_bind, Option.bind_some, if_neg hzero]

theorem splitSign_toDigits : splitSign (Nat.toDigits 10 n) = (false, Nat.toDigits 10 n) := by
  unfold splitSign
  split
  next h => exact absurd (isDigit_of_mem n (c := '-') (by simp [h])) (by decide)
  next h => exact absurd (isDigit_of_mem n (c := '+') (by simp [h])) (by decide)
  next => rfl

/-- The digits of an integer, after a minus if it is negative. -/
theorem toList_toString (n : Int) :
    (toString n).toList = (if n < 0 then ['-'] else []) ++ Nat.toDigits 10 n.natAbs := by
  cases n with
  | ofNat n => simp [toString, Int.repr, Nat.toList_repr]
  | negSucc n => simp [toString, Int.repr, Nat.toList_repr]

theorem isDigit_of_mem_tail {n : Int} {c : Char} (h : c ∈ (toString n).toList.tail) :
    c.isDigit = true := by
  rw [toList_toString] at h
  split at h
  next => exact isDigit_of_mem n.natAbs h
  next => exact isDigit_of_mem n.natAbs (List.mem_of_mem_tail h)

theorem endsWord_of_isDigit {c : Char} (h : c.isDigit = true) : endsWord c = false := by
  have hne : ∀ d : Char, d.isDigit = false → c ≠ d := by
    rintro d hd rfl
    rw [h] at hd
    cases hd
  simp (disch := decide) [endsWord, isLineSpace, hne]

/-- An integer is written with digits and a minus sign only. -/
theorem eq_minus_or_isDigit_of_mem {n : Int} {c : Char} (h : c ∈ (toString n).toList) :
    c = '-' ∨ c.isDigit = true := by
  rw [toList_toString, List.mem_append] at h
  rcases h with h | h
  · split at h
    next => exact .inl (List.mem_singleton.1 h)
    next => cases h
  · exact .inr (isDigit_of_mem n.natAbs h)

/-- No character of a written integer ends the word it stands in. -/
theorem endsWord_of_mem_toString {n : Int} {c : Char} (h : c ∈ (toString n).toList) :
    endsWord c = false := by
  rcases eq_minus_or_isDigit_of_mem h with rfl | hdigit
  · decide
  · exact endsWord_of_isDigit hdigit

/-- Every integer is read back from its text, whatever its size. -/
theorem anyInteger?_toString (n : Int) : anyInteger? (toString n).toList = some n := by
  rw [anyInteger?_of_tail fun c => isDigit_of_mem_tail, toList_toString]
  split
  next h =>
    simp only [List.singleton_append, splitSign, decimalDigits?_toDigits, Option.map_some, if_true,
      ofDigits_toDigits]
    rw [Int.ofNat_natAbs_of_nonpos (Int.le_of_lt h), Int.neg_neg]
  next h =>
    rw [List.nil_append, splitSign_toDigits]
    simp only [decimalDigits?_toDigits, Option.map_some, Bool.false_eq_true, if_false,
      ofDigits_toDigits]
    rw [Int.natAbs_of_nonneg (Int.not_lt.1 h)]

/-- Any integer of 64 bits with a sign is read back. -/
theorem integer?_toString {n : Int} (hleast : -9223372036854775808 ≤ n) (hmost : n ≤ maxInteger) :
    integer? (toString n).toList = some n := by
  rw [maxInteger] at hmost
  rw [integer?, anyInteger?_toString, Option.bind_eq_bind, Option.bind_some, if_pos ⟨hleast, hmost⟩]

/-! ## Words -/

section Words

/-- A word reaches up to the end of its line. -/
theorem readWord_append {word : List Char} (h : ∀ c ∈ word, endsWord c = false)
    (rest : List Char) :
    (word ++ '\n' :: rest).takeWhile (!endsWord ·) = word ∧
      (word ++ '\n' :: rest).dropWhile (!endsWord ·) = '\n' :: rest :=
  takeWhile_dropWhile_append (by simpa using h) (by decide) rest

theorem readWord_boolean (b : Bool) (rest : List Char) :
    readWord ((toString b).toList ++ '\n' :: rest) = some (.scalar (.boolean b), '\n' :: rest) := by
  have hall : (toString b).toList.all (!endsWord ·) = true := by cases b <;> decide
  have hends : ∀ c ∈ (toString b).toList, endsWord c = false := by simpa using hall
  have hword := readWord_append hends rest
  unfold readWord
  rw [hword.1, hword.2]
  cases b with
  | true => rfl
  | false => rfl

/-- An integer of 64 bits is read back up to the end of its line. -/
theorem readWord_integer {n : Int} (hleast : -9223372036854775808 ≤ n) (hmost : n ≤ maxInteger)
    (rest : List Char) :
    readWord ((toString n).toList ++ '\n' :: rest) =
      some (.scalar (.integer n), '\n' :: rest) := by
  have hends : ∀ c ∈ (toString n).toList, endsWord c = false := fun c => endsWord_of_mem_toString
  have hword := readWord_append hends rest
  have hletter : ∀ {c : Char} {s : List Char}, c ∈ s.tail → c.isDigit = false →
      (toString n).toList ≠ s := by
    intro c s hc hdigit hs
    have := isDigit_of_mem_tail (hs ▸ hc)
    rw [hdigit] at this
    cases this
  unfold readWord
  rw [hword.1, hword.2, if_neg (hletter (c := 'r') (by decide) (by decide)),
    if_neg (hletter (c := 'a') (by decide) (by decide)),
    isMoment_of_tail fun c => isDigit_of_mem_tail, if_neg Bool.false_ne_true,
    integer?_toString hleast hmost]

end Words

end DocSentences.Toml
