import DocSentences.Text.Blank
import DocSentences.Text.Letters

/-!
# Blank characters and words

Blank characters are neither letters nor numbers. The words of a text stay the same when blank text
is added to it at an end or taken away there, and the words of two texts with a blank character
between them are those of the one and of the other.
-/

namespace DocSentences.Text

/-! ## Blank characters -/

/-- The code points of the blank characters. -/
def blankCodes : List Nat :=
  [0x09, 0x0A, 0x0B, 0x0C, 0x0D, 0x20, 0x85, 0xA0, 0x1680, 0x2000, 0x2001, 0x2002, 0x2003, 0x2004,
    0x2005, 0x2006, 0x2007, 0x2008, 0x2009, 0x200A, 0x2028, 0x2029, 0x202F, 0x205F, 0x3000]

theorem toNat_mem_blankCodes {c : Char} (h : isBlank c = true) : c.toNat ∈ blankCodes := by
  simp only [isBlank, Bool.or_eq_true, Bool.and_eq_true, decide_eq_true_eq, beq_iff_eq] at h
  simp only [blankCodes, List.mem_cons, List.not_mem_nil, or_false]
  omega

/-- No blank character is a letter or a digit. -/
theorem isAlphanumeric_of_isBlank {c : Char} (h : isBlank c = true) : isAlphanumeric c = false := by
  have hall : ∀ code ∈ blankCodes, isAlphanumeric (Char.ofNat code) = false := by decide +kernel
  rw [← Char.ofNat_toNat c]
  exact hall c.toNat (toNat_mem_blankCodes h)

/-! ## Words -/

@[simp] theorem words_nil : words [] = [] := rfl

/-- A blank character ends the words before it and begins new ones. -/
theorem words_append_cons {b : Char} (hb : isBlank b = true) (s t : List Char) :
    words (s ++ b :: t) = words s ++ words t := by
  simp only [words, List.splitOnP_append_cons s t hb, List.filter_append]

theorem words_cons_of_isBlank {b : Char} (hb : isBlank b = true) (t : List Char) :
    words (b :: t) = words t :=
  words_append_cons hb [] t

theorem words_append_of_blank_left {s : List Char} (hs : ∀ c ∈ s, isBlank c = true)
    (t : List Char) : words (s ++ t) = words t := by
  induction s with
  | nil => rfl
  | cons b s ih =>
      have hmore := ih fun c hc => hs c (List.mem_cons_of_mem b hc)
      rw [List.cons_append, words_cons_of_isBlank (hs b List.mem_cons_self), hmore]

theorem words_append_of_blank_right (s : List Char) {t : List Char}
    (ht : ∀ c ∈ t, isBlank c = true) : words (s ++ t) = words s := by
  cases t with
  | nil => rw [List.append_nil]
  | cons b t =>
      have hmore := words_append_of_blank_left (fun c hc => ht c (List.mem_cons_of_mem b hc)) []
      rw [words_append_cons (ht b List.mem_cons_self), ← List.append_nil t, hmore, words_nil,
        List.append_nil]

/-- A blank text has no words. -/
theorem words_of_isBlankText {s : List Char} (h : isBlankText s = true) : words s = [] := by
  simpa using words_append_of_blank_left (List.all_eq_true.mp h) []

theorem mem_takeWhile_isBlank {s : List Char} {c : Char} (h : c ∈ s.takeWhile isBlank) :
    isBlank c = true :=
  List.all_eq_true.mp (List.all_takeWhile (p := isBlank)) c h

@[simp] theorem words_trimStart (s : List Char) : words (trimStart s) = words s := by
  calc words (trimStart s)
      = words (s.takeWhile isBlank ++ s.dropWhile isBlank) :=
        (words_append_of_blank_left (fun _ => mem_takeWhile_isBlank) _).symm
    _ = words s := by rw [List.takeWhile_append_dropWhile]

@[simp] theorem words_trimEnd (s : List Char) : words (trimEnd s) = words s := by
  have hblank : ∀ c ∈ (s.reverse.takeWhile isBlank).reverse, isBlank c = true :=
    fun c hc => mem_takeWhile_isBlank (List.mem_reverse.mp hc)
  calc words (trimEnd s)
      = words ((s.reverse.dropWhile isBlank).reverse ++ (s.reverse.takeWhile isBlank).reverse) :=
        (words_append_of_blank_right _ hblank).symm
    _ = words s := by
        rw [← List.reverse_append, List.takeWhile_append_dropWhile, List.reverse_reverse]

/-- Trimming changes no word. -/
@[simp] theorem words_trim (s : List Char) : words (trim s) = words s := by
  rw [trim, words_trimEnd, words_trimStart]

theorem isPrefix_trimEnd (s : List Char) : trimEnd s <+: s := by
  rw [trimEnd, ← List.reverse_suffix, List.reverse_reverse]
  exact List.dropWhile_suffix isBlank

theorem isInfix_trim (s : List Char) : trim s <:+: s := by
  have hstart : trimStart s <:+ s := List.dropWhile_suffix isBlank
  exact (isPrefix_trimEnd (trimStart s)).isInfix.trans hstart.isInfix

/-- The words of texts joined by a blank character are the words of each of them, in order. -/
theorem words_joinWith {b : Char} (hb : isBlank b = true) (parts : List (List Char)) :
    words (joinWith [b] parts) = parts.flatMap words := by
  fun_induction joinWith [b] parts with
  | case1 => rfl
  | case2 part => simp
  | case3 part next rest ih =>
      rw [List.append_assoc, List.singleton_append, words_append_cons hb, ih]
      rfl

/-! ## The ends of a trimmed text -/

theorem not_isBlank_of_head?_dropWhile {s : List Char} {c : Char}
    (h : (s.dropWhile isBlank).head? = some c) : isBlank c = false := by
  have hfirst := List.head?_dropWhile_not isBlank s
  rwa [h] at hfirst

/-- A trimmed text begins with no blank character. -/
theorem not_isBlank_of_head?_trim {s : List Char} {c : Char} (h : (trim s).head? = some c) :
    isBlank c = false := by
  obtain ⟨rest, hsplit⟩ := isPrefix_trimEnd (trimStart s)
  apply not_isBlank_of_head?_dropWhile (s := s)
  change (trimStart s).head? = some c
  rw [← hsplit, List.head?_append]
  exact Option.or_eq_some_iff.mpr (.inl h)

/-- A trimmed text ends with no blank character. -/
theorem not_isBlank_of_getLast?_trim {s : List Char} {c : Char} (h : (trim s).getLast? = some c) :
    isBlank c = false := by
  rw [trim, trimEnd, List.getLast?_reverse] at h
  exact not_isBlank_of_head?_dropWhile h

/-- The first character of a text that is not blank does not depend on what comes after it. -/
theorem head?_trimStart_of_isPrefix {s t : List Char} (h : s <+: t) {c : Char}
    (hc : (trimStart s).head? = some c) : (trimStart t).head? = some c := by
  obtain ⟨more, rfl⟩ := h
  obtain ⟨rest, hrest⟩ := List.head?_eq_some_iff.mp hc
  rw [trimStart] at hrest
  rw [trimStart, List.dropWhile_append, hrest]
  rfl

theorem dropWhile_isBlank_eq_self {s : List Char}
    (h : ∀ c, s.head? = some c → isBlank c = false) : s.dropWhile isBlank = s := by
  cases s with
  | nil => rfl
  | cons c s => rw [List.dropWhile_cons_of_neg (by simp [h c rfl])]

/-- A text with no blank character at either end is left as it is. -/
theorem trim_eq_self {s : List Char} (hfirst : ∀ c, s.head? = some c → isBlank c = false)
    (hlast : ∀ c, s.getLast? = some c → isBlank c = false) : trim s = s := by
  have hstart : trimStart s = s := dropWhile_isBlank_eq_self hfirst
  rw [trim, hstart, trimEnd, dropWhile_isBlank_eq_self, List.reverse_reverse]
  intro c hc
  rw [List.head?_reverse] at hc
  exact hlast c hc

theorem trim_trim (s : List Char) : trim (trim s) = trim s :=
  trim_eq_self (fun _ => not_isBlank_of_head?_trim) fun _ => not_isBlank_of_getLast?_trim

theorem trim_append_of_blank_left {s : List Char} (hs : isBlankText s = true) (t : List Char) :
    trim (s ++ t) = trim t := by
  rw [trim, trim, trimStart, List.dropWhile_append_of_pos (List.all_eq_true.mp hs), trimStart]

theorem trimEnd_append_of_blank (s : List Char) {t : List Char} (ht : isBlankText t = true) :
    trimEnd (s ++ t) = trimEnd s := by
  have hblank : ∀ c ∈ t.reverse, isBlank c = true :=
    fun c hc => List.all_eq_true.mp ht c (List.mem_reverse.mp hc)
  rw [trimEnd, trimEnd, List.reverse_append, List.dropWhile_append_of_pos hblank]

theorem trim_append_of_blank_right (s : List Char) {t : List Char} (ht : isBlankText t = true) :
    trim (s ++ t) = trim s := by
  rw [trim, trim, trimStart, trimStart, List.dropWhile_append]
  split
  · next hblank =>
    have hnone : (t ++ []).dropWhile isBlank = [] :=
      List.dropWhile_append_of_pos (List.all_eq_true.mp ht)
    rw [List.append_nil] at hnone
    rw [hnone, List.isEmpty_iff.mp hblank]
  · exact trimEnd_append_of_blank _ ht

/-- The only blank text that trimming leaves as it is, is the empty one. -/
theorem eq_nil_of_trim_eq {s : List Char} (h : trim s = s) (hs : isBlankText s = true) :
    s = [] := by
  have hnone := trim_append_of_blank_left hs []
  rwa [List.append_nil, h] at hnone

section Filter

variable {p : Char → Bool} (hp : ∀ c, isBlank c = true → p c = false)

include hp

theorem filter_trimStart (s : List Char) : (trimStart s).filter p = s.filter p := by
  have hnone : (s.takeWhile isBlank).filter p = [] :=
    List.filter_eq_nil_iff.mpr fun c hc => by simp [hp c (mem_takeWhile_isBlank hc)]
  calc (trimStart s).filter p
      = (s.takeWhile isBlank ++ s.dropWhile isBlank).filter p := by
        rw [List.filter_append, hnone, List.nil_append]
        rfl
    _ = s.filter p := by rw [List.takeWhile_append_dropWhile]

/-- Trimming keeps every character of a kind that no blank character is of. -/
theorem filter_trim (s : List Char) : (trim s).filter p = s.filter p := by
  have hend : ∀ t : List Char, (trimEnd t).filter p = t.filter p := fun t => by
    rw [trimEnd, List.filter_reverse, ← trimStart, filter_trimStart hp, List.filter_reverse,
      List.reverse_reverse]
  rw [trim, hend, filter_trimStart hp]

end Filter

end DocSentences.Text
