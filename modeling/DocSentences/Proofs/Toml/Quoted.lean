import DocSentences.Toml.Quoted

/-!
# Strings are read back as they were written

The writer chooses between four ways to write a string. Whatever it chooses, the reader gets the
string back and goes on right after it. Between three quotes this depends on how many quotes stand
next to each other: the reader takes up to five in a row for the end of the string.
-/

namespace DocSentences.Toml

variable {rest : List Char}

@[simp]
theorem prepend_some (c : Char) (s : List Char) :
    prepend c (some (s, rest)) = some (c :: s, rest) := rfl

/-! ## Runs of a character -/

/-- How often a character is repeated at the start of a text. -/
def leadingRun (c : Char) (s : List Char) : Nat := (s.takeWhile (· = c)).length

section LeadingRun

variable {c : Char}

@[simp]
theorem leadingRun_nil : leadingRun c [] = 0 := rfl

@[simp]
theorem leadingRun_cons_self (s : List Char) : leadingRun c (c :: s) = leadingRun c s + 1 := by
  simp [leadingRun]

theorem leadingRun_cons_of_ne {d : Char} (h : d ≠ c) (s : List Char) :
    leadingRun c (d :: s) = 0 := by
  simp [leadingRun, h]

theorem ne_cons_of_leadingRun {s : List Char} (h : leadingRun c s = 0) (t : List Char) :
    s ≠ c :: t := by
  intro hs
  rw [hs, leadingRun_cons_self] at h
  cases h

/-- A text is its leading run of a character and something that does not begin with it. -/
theorem exists_of_leadingRun (c : Char) (s : List Char) :
    ∃ after, s = List.replicate (leadingRun c s) c ++ after ∧ leadingRun c after = 0 := by
  induction s with
  | nil => exact ⟨[], rfl, rfl⟩
  | cons d s ih =>
    by_cases hd : d = c
    · subst hd
      obtain ⟨after, hs, hafter⟩ := ih
      refine ⟨after, ?_, hafter⟩
      rw [leadingRun_cons_self, List.replicate_succ, List.cons_append, ← hs]
    · refine ⟨d :: s, ?_, leadingRun_cons_of_ne hd s⟩
      rw [leadingRun_cons_of_ne hd, List.replicate_zero, List.nil_append]

/-- A run that leaves no doubt about where a text ends: none, one character of the text, or the
three that end it with at most one of the text before them. -/
theorem cases_of_leadingRun {s : List Char} (htwo : leadingRun c s ≠ 2)
    (hfour : leadingRun c s ≤ 4) :
    ∃ after, leadingRun c after = 0 ∧ (s = after ∨ s = c :: after ∨ s = c :: c :: c :: after ∨
      s = c :: c :: c :: c :: after) := by
  obtain ⟨after, hs, hafter⟩ := exists_of_leadingRun c s
  refine ⟨after, hafter, ?_⟩
  have hcases : leadingRun c s = 0 ∨ leadingRun c s = 1 ∨ leadingRun c s = 3 ∨
      leadingRun c s = 4 := by omega
  rcases hcases with hrun | hrun | hrun | hrun
  · exact .inl (by rwa [hrun] at hs)
  · exact .inr (.inl (by rwa [hrun] at hs))
  · exact .inr (.inr (.inl (by rwa [hrun] at hs)))
  · exact .inr (.inr (.inr (by rwa [hrun] at hs)))

/-- Counts one more character: the longest run so far, and the run that goes on. -/
def countRun (c : Char) (counts : Nat × Nat) (d : Char) : Nat × Nat :=
  if d = c then (max counts.1 (counts.2 + 1), counts.2 + 1) else (counts.1, 0)

/-- The longest run is counted character by character. -/
theorem longestRun_eq_foldl (s : List Char) :
    longestRun c s = (s.foldl (countRun c) (0, 0)).1 := rfl

theorem countRun_snd_le_fst (counts : Nat × Nat) (d : Char) :
    (countRun c counts d).2 ≤ (countRun c counts d).1 := by
  unfold countRun
  split
  · exact Nat.le_max_right _ _
  · exact Nat.zero_le _

theorem fst_le_foldl_countRun (s : List Char) (counts : Nat × Nat) :
    counts.1 ≤ (s.foldl (countRun c) counts).1 := by
  induction s generalizing counts with
  | nil => exact Nat.le_refl _
  | cons d s ih =>
    refine Nat.le_trans ?_ (ih (countRun c counts d))
    unfold countRun
    split
    · exact Nat.le_max_left _ _
    · exact Nat.le_refl _

/-- A run that goes on is no longer than the longest one turns out to be. -/
theorem add_leadingRun_le_foldl {s : List Char} {counts : Nat × Nat} (h : counts.2 ≤ counts.1) :
    counts.2 + leadingRun c s ≤ (s.foldl (countRun c) counts).1 := by
  induction s generalizing counts with
  | nil => simpa using h
  | cons d s ih =>
    by_cases hd : d = c
    · subst hd
      have hrest := @ih (max counts.1 (counts.2 + 1), counts.2 + 1) (Nat.le_max_right _ _)
      rw [List.foldl_cons, countRun, if_pos rfl, leadingRun_cons_self]
      omega
    · rw [leadingRun_cons_of_ne hd]
      exact Nat.le_trans h (fst_le_foldl_countRun _ _)

end LeadingRun

/-! ## Escapes -/

/-- Some characters after a backslash stand for a character, and do not begin the end of a line. -/
def IsEscapeOf (escape : List Char) (c : Char) : Prop :=
  ∀ rest, readEscape (escape ++ rest) = some (c, rest) ∧ foldLine? (escape ++ rest) = none

/-- Only blank space and line ends fold a line. -/
theorem foldLine?_cons_eq_none {c : Char} (h : c ≠ ' ' ∧ c ≠ '\t' ∧ c ≠ '\n' ∧ c ≠ '\r')
    (s : List Char) : foldLine? (c :: s) = none := by
  unfold foldLine?
  rw [List.dropWhile_cons_of_neg (by simp [h])]
  split <;> simp_all

/-- A character below 128 is read back from its four digits to base sixteen. -/
theorem charOfHex?_hexDigits : ∀ n < 128, charOfHex? (hexDigits n) = some (Char.ofNat n) := by
  decide

theorem isEscapeOf_letter {letter c : Char} (h : escaped? letter = some c) :
    IsEscapeOf [letter] c := by
  intro rest
  unfold escaped? at h
  split at h <;> cases h <;> exact ⟨rfl, foldLine?_cons_eq_none (by decide) _⟩

/-- A character below 128 can be escaped by its code. -/
theorem isEscapeOf_hexDigits {c : Char} (h : c.toNat < 128) :
    IsEscapeOf ('u' :: hexDigits c.toNat) c := by
  intro rest
  refine ⟨?_, foldLine?_cons_eq_none (by decide) _⟩
  have hc := charOfHex?_hexDigits c.toNat h
  rw [Char.ofNat_toNat] at hc
  simp only [hexDigits, List.map_cons, List.map_nil] at hc ⊢
  simp only [List.cons_append, List.nil_append, readEscape, hc, Option.map_some]

theorem toNat_lt_of_isControl {c : Char} (h : (c < ' ' || c = '\x7F') = true) : c.toNat < 128 := by
  simp only [Bool.or_eq_true, decide_eq_true_eq, Char.lt_def, UInt32.lt_iff_toNat_lt] at h
  rcases h with h | h
  · exact Nat.lt_trans h (by decide)
  · subst h
    decide

theorem isPlain_of_not_isControl {c : Char} (h : ¬(c < ' ' || c = '\x7F') = true) :
    isPlain c = true := by
  simp only [Bool.or_eq_true, decide_eq_true_eq, not_or] at h
  simp [isPlain, h.2, Char.not_lt.1 h.1]

/-- A character is written as itself or as an escape. -/
theorem escapedChar_cases (lines : Bool) (c : Char) :
    (escapedChar lines c = [c] ∧ c ≠ '\\' ∧ (isPlain c = true ∨ lines = true ∧ c = '\n')) ∨
      ∃ escape, escapedChar lines c = '\\' :: escape ∧ IsEscapeOf escape c := by
  unfold escapedChar
  split
  next h => subst h; exact .inr ⟨_, rfl, isEscapeOf_letter rfl⟩
  split
  next h => subst h; exact .inr ⟨_, rfl, isEscapeOf_letter rfl⟩
  split
  next h =>
    subst h
    cases lines with
    | true => exact .inl ⟨rfl, by decide, .inr ⟨rfl, rfl⟩⟩
    | false => exact .inr ⟨_, rfl, isEscapeOf_letter rfl⟩
  split
  next h => subst h; exact .inr ⟨_, rfl, isEscapeOf_letter rfl⟩
  split
  next h => subst h; exact .inr ⟨_, rfl, isEscapeOf_letter rfl⟩
  split
  next h => subst h; exact .inr ⟨_, rfl, isEscapeOf_letter rfl⟩
  split
  next h =>
    exact .inr ⟨_, rfl, isEscapeOf_hexDigits (toNat_lt_of_isControl h)⟩
  next hback h =>
    exact .inl ⟨rfl, hback, .inl (isPlain_of_not_isControl h)⟩

/-! ## Between quotes -/

theorem readBasic_quote (rest : List Char) : readBasic ('"' :: rest) = some ([], rest) := by
  rw [readBasic]

/-- An escape is read as the character it stands for. -/
theorem readBasic_escape {escape : List Char} {c : Char} (h : IsEscapeOf escape c)
    (s : List Char) : readBasic ('\\' :: (escape ++ s)) = prepend c (readBasic s) := by
  rw [readBasic]
  split
  next hread =>
    rw [(h s).1] at hread
    cases hread
    rfl
  next hread =>
    rw [(h s).1] at hread
    cases hread

theorem readBasic_cons {c : Char} (hplain : isPlain c = true) (hquote : c ≠ '"') (hback : c ≠ '\\')
    (s : List Char) : readBasic (c :: s) = prepend c (readBasic s) := by
  rw [readBasic]
  · rw [if_pos hplain]
  · exact hquote
  · exact hback

theorem readBasicLines_escape {escape : List Char} {c : Char} (h : IsEscapeOf escape c)
    (s : List Char) : readBasicLines ('\\' :: (escape ++ s)) = prepend c (readBasicLines s) := by
  rw [readBasicLines]
  split
  next hfold =>
    rw [(h s).2] at hfold
    cases hfold
  next hfold =>
    split
    next hread =>
      rw [(h s).1] at hread
      cases hread
      rfl
    next hread =>
      rw [(h s).1] at hread
      cases hread

theorem readBasicLines_cons {c : Char} (hplain : isPlain c = true ∨ c = '\n') (hquote : c ≠ '"')
    (hback : c ≠ '\\') (s : List Char) :
    readBasicLines (c :: s) = prepend c (readBasicLines s) := by
  rw [readBasicLines]
  · rw [if_pos (by simpa using hplain)]
  · simp [hquote]
  · simp [hquote]
  · simp [hquote]
  · intro rest hreturn
    rw [hreturn] at hplain
    exact absurd hplain (by decide)
  · exact hback

/-- A quote belongs to the text unless two others follow right away that end it. -/
theorem readBasicLines_quote {s : List Char} (htwo : leadingRun '"' s ≠ 2)
    (hfour : leadingRun '"' s ≤ 4) :
    readBasicLines ('"' :: s) = prepend '"' (readBasicLines s) := by
  obtain ⟨after, hafter, hs⟩ := cases_of_leadingRun htwo hfour
  have hhead := ne_cons_of_leadingRun hafter
  rcases hs with rfl | rfl | rfl | rfl
  · rw [readBasicLines, if_pos (by decide)] <;> simp [hhead]
  · rw [readBasicLines, if_pos (by decide)] <;> simp [hhead]
  · rw [readBasicLines, readBasicLines, prepend_some] <;> simp [hhead]
  · rw [readBasicLines, readBasicLines, prepend_some]
    simp [hhead]

/-- A quote is escaped when no more bare ones may follow each other. -/
theorem escapedText_quote_zero (lines : Bool) (s : List Char) :
    escapedText lines 0 ('"' :: s) =
      '\\' :: (['"'] ++ escapedText lines (if lines then 2 else 0) s) := by
  rw [escapedText, if_pos rfl, List.singleton_append]

theorem escapedText_quote_succ (lines : Bool) (quotes : Nat) (s : List Char) :
    escapedText lines (quotes + 1) ('"' :: s) = '"' :: escapedText lines quotes s := by
  rw [escapedText, if_neg (Nat.succ_ne_zero quotes), Nat.add_sub_cancel]

theorem isEscapeOf_quote : IsEscapeOf ['"'] '"' := isEscapeOf_letter rfl

theorem escapedText_cons {lines : Bool} {quotes : Nat} {c : Char} (h : c ≠ '"') (s : List Char) :
    escapedText lines quotes (c :: s) =
      escapedChar lines c ++ escapedText lines (if lines then 2 else 0) s := by
  rw [escapedText]
  exact h

/-- No character but the quote is written with a quote in front. -/
theorem leadingRun_escapedChar (lines : Bool) {c : Char} (h : c ≠ '"') (s : List Char) :
    leadingRun '"' (escapedChar lines c ++ s) = 0 := by
  rcases escapedChar_cases lines c with ⟨hself, _, _⟩ | ⟨escape, hescape, _⟩
  · rw [hself]
    exact leadingRun_cons_of_ne h s
  · rw [hescape]
    exact leadingRun_cons_of_ne (by decide) _

/-- On one line, an escaped text is read back up to the closing quote. -/
theorem readBasic_escapedText (s rest : List Char) :
    readBasic (escapedText false 0 s ++ '"' :: rest) = some (s, rest) := by
  induction s with
  | nil => exact readBasic_quote rest
  | cons c s ih =>
    by_cases hquote : c = '"'
    · subst hquote
      rw [escapedText_quote_zero, if_neg Bool.false_ne_true, List.cons_append, List.append_assoc,
        readBasic_escape isEscapeOf_quote, ih, prepend_some]
    · rw [escapedText_cons hquote, List.append_assoc, if_neg Bool.false_ne_true]
      rcases escapedChar_cases false c with ⟨hself, hback, hplain⟩ | ⟨escape, hescape, h⟩
      · rw [hself, List.singleton_append, readBasic_cons (by simpa using hplain) hquote hback, ih,
          prepend_some]
      · rw [hescape, List.cons_append, readBasic_escape h, ih, prepend_some]

/-- No more quotes stand next to each other than the writer may write, apart from those that end the
text. -/
theorem leadingRun_escapedText (hrest : leadingRun '"' rest = 0) (quotes : Nat) (s : List Char) :
    ∃ n ≤ quotes,
      leadingRun '"' (escapedText true quotes s ++ '"' :: '"' :: '"' :: rest) = n ∨
        leadingRun '"' (escapedText true quotes s ++ '"' :: '"' :: '"' :: rest) = n + 3 := by
  -- by induction on the text; `quotes` is how many bare quotes may still follow
  induction s generalizing quotes with
  | nil =>
    refine ⟨0, Nat.zero_le _, .inr ?_⟩
    simp [escapedText, hrest]
  | cons c s ih =>
    by_cases hquote : c = '"'
    · subst hquote
      cases quotes with
      | zero =>
        refine ⟨0, Nat.le_refl 0, .inl ?_⟩
        rw [escapedText_quote_zero, List.cons_append, leadingRun_cons_of_ne (by decide)]
      | succ quotes =>
        obtain ⟨n, hn, hrun⟩ := ih quotes
        refine ⟨n + 1, Nat.succ_le_succ hn, ?_⟩
        rw [escapedText_quote_succ, List.cons_append, leadingRun_cons_self]
        omega
    · refine ⟨0, Nat.zero_le _, .inl ?_⟩
      rw [escapedText_cons hquote, List.append_assoc, leadingRun_escapedChar _ hquote]

/-- Over several lines, an escaped text is read back up to the three closing quotes. -/
theorem readBasicLines_escapedText (hrest : leadingRun '"' rest = 0) {quotes : Nat}
    (hquotes : quotes ≤ 2) (s : List Char) :
    readBasicLines (escapedText true quotes s ++ '"' :: '"' :: '"' :: rest) = some (s, rest) := by
  induction s generalizing quotes with
  | nil =>
    have hhead := ne_cons_of_leadingRun hrest
    rw [escapedText, List.nil_append, readBasicLines] <;> simp [hhead]
  | cons c s ih =>
    by_cases hquote : c = '"'
    · subst hquote
      cases quotes with
      | zero =>
        rw [escapedText_quote_zero, if_pos rfl, List.cons_append, List.append_assoc,
          readBasicLines_escape isEscapeOf_quote, ih (Nat.le_refl 2), prepend_some]
      | succ quotes =>
        -- at most one quote of the text follows, with or without the three that end it
        obtain ⟨n, hn, hrun⟩ := leadingRun_escapedText hrest quotes s
        rw [escapedText_quote_succ, List.cons_append, readBasicLines_quote (by omega) (by omega),
          ih (by omega), prepend_some]
    · rw [escapedText_cons hquote, List.append_assoc, if_pos rfl]
      rcases escapedChar_cases true c with ⟨hself, hback, hplain⟩ | ⟨escape, hescape, h⟩
      · rw [hself, List.singleton_append, readBasicLines_cons (by simpa using hplain) hquote hback,
          ih (Nat.le_refl 2), prepend_some]
      · rw [hescape, List.cons_append, readBasicLines_escape h, ih (Nat.le_refl 2), prepend_some]

/-! ## Between apostrophes -/

/-- A character that needs no escape is plain or a newline. -/
theorem isPlain_of_not_needsEscape {c : Char} (h : needsEscape c = false) :
    isPlain c = true ∨ c = '\n' := by
  by_cases hspace : c < ' '
  · by_cases htab : c = '\t'
    · left
      rw [htab]
      decide
    · right
      have h : c = '\n' ∧ c ≠ '\x7F' := by simpa [needsEscape, hspace, htab] using h
      exact h.1
  · left
    simp only [needsEscape, hspace, decide_false, Bool.false_and, Bool.false_or,
      decide_eq_false_iff_not] at h
    simp [isPlain, Char.not_lt.1 hspace, h]

/-- Plain characters are read back as they are up to the closing apostrophe. -/
theorem readLiteral_append {s : List Char} (hplain : ∀ c ∈ s, isPlain c = true ∧ c ≠ '\'')
    (rest : List Char) : readLiteral (s ++ '\'' :: rest) = some (s, rest) := by
  induction s with
  | nil => rw [List.nil_append, readLiteral]
  | cons c s ih =>
    obtain ⟨hc, hs⟩ := List.forall_mem_cons.1 hplain
    rw [List.cons_append, readLiteral, if_pos hc.1, ih hs, prepend_some]
    exact hc.2

theorem readLiteralLines_cons {c : Char} (hplain : isPlain c = true ∨ c = '\n') (h : c ≠ '\'')
    (s : List Char) : readLiteralLines (c :: s) = prepend c (readLiteralLines s) := by
  rw [readLiteralLines]
  · rw [if_pos (by simpa using hplain)]
  · simp [h]
  · simp [h]
  · simp [h]
  · intro rest hreturn
    rw [hreturn] at hplain
    exact absurd hplain (by decide)

/-- An apostrophe that does not belong to the closing three is read as itself. -/
theorem readLiteralLines_apostrophe {s : List Char} (htwo : leadingRun '\'' s ≠ 2)
    (hfour : leadingRun '\'' s ≤ 4) :
    readLiteralLines ('\'' :: s) = prepend '\'' (readLiteralLines s) := by
  obtain ⟨after, hafter, hs⟩ := cases_of_leadingRun htwo hfour
  have hhead := ne_cons_of_leadingRun hafter
  rcases hs with rfl | rfl | rfl | rfl
  · rw [readLiteralLines, if_pos (by decide)] <;> simp [hhead]
  · rw [readLiteralLines, if_pos (by decide)] <;> simp [hhead]
  · rw [readLiteralLines, readLiteralLines, prepend_some] <;> simp [hhead]
  · rw [readLiteralLines, readLiteralLines, prepend_some]
    simp [hhead]

/-- The closing three lengthen the leading run of a text by three at most. -/
theorem leadingRun_append {c : Char} (hrest : leadingRun c rest = 0) (s : List Char) :
    leadingRun c (s ++ c :: c :: c :: rest) = leadingRun c s ∨
      leadingRun c (s ++ c :: c :: c :: rest) = leadingRun c s + 3 := by
  induction s with
  | nil =>
    right
    simp [hrest]
  | cons d s ih =>
    by_cases hd : d = c
    · subst hd
      rw [List.cons_append, leadingRun_cons_self, leadingRun_cons_self]
      omega
    · left
      rw [List.cons_append, leadingRun_cons_of_ne hd, leadingRun_cons_of_ne hd]

/-- Plain characters and newlines are read back as they are up to the three closing apostrophes.
-/
theorem readLiteralLines_append (hrest : leadingRun '\'' rest = 0) {s : List Char}
    {counts : Nat × Nat} (hcounts : counts.2 ≤ counts.1)
    (hruns : (s.foldl (countRun '\'') counts).1 ≤ 2)
    (hplain : ∀ c ∈ s, isPlain c = true ∨ c = '\n') :
    readLiteralLines (s ++ '\'' :: '\'' :: '\'' :: rest) = some (s, rest) := by
  induction s generalizing counts with
  | nil =>
    have hhead := ne_cons_of_leadingRun hrest
    rw [List.nil_append, readLiteralLines] <;> simp [hhead]
  | cons c s ih =>
    obtain ⟨hc, hs⟩ := List.forall_mem_cons.1 hplain
    have ih := ih (countRun_snd_le_fst counts c) hruns hs
    by_cases hquote : c = '\''
    · subst hquote
      -- with this one, at most two apostrophes stand next to each other in the text
      have hrun := add_leadingRun_le_foldl (c := '\'') (s := '\'' :: s) hcounts
      rw [leadingRun_cons_self] at hrun
      have happend := leadingRun_append hrest s
      rw [List.cons_append, readLiteralLines_apostrophe (by omega) (by omega), ih, prepend_some]
    · rw [List.cons_append, readLiteralLines_cons hc hquote, ih, prepend_some]

/-! ## Any string -/

theorem readString_quote {s : List Char} (h : leadingRun '"' s ≤ 1) :
    readString ('"' :: s) = readBasic s := by
  rw [readString]
  intro t ht
  rw [ht, leadingRun_cons_self, leadingRun_cons_self] at h
  omega

theorem readString_apostrophe {s : List Char} (h : leadingRun '\'' s ≤ 1) :
    readString ('\'' :: s) = readLiteral s := by
  rw [readString]
  intro t ht
  rw [ht, leadingRun_cons_self, leadingRun_cons_self] at h
  omega

theorem dropLineEnd_cons {c : Char} (hline : c ≠ '\n') (hreturn : c ≠ '\r') (s : List Char) :
    dropLineEnd (c :: s) = c :: s := by
  unfold dropLineEnd
  split <;> simp_all

theorem ne_return_of_isPlain {c : Char} (h : isPlain c = true ∨ c = '\n') : c ≠ '\r' := by
  rintro rfl
  exact absurd h (by decide)

variable (s : List Char)

theorem readString_basic (hrest : leadingRun '"' rest = 0) :
    readString ('"' :: (escapedText false 0 s ++ '"' :: rest)) = some (s, rest) := by
  rw [readString_quote, readBasic_escapedText]
  cases s with
  | nil => simp [escapedText, hrest]
  | cons c s =>
    by_cases hquote : c = '"'
    · subst hquote
      rw [escapedText_quote_zero, List.cons_append, leadingRun_cons_of_ne (by decide)]
      exact Nat.zero_le _
    · rw [escapedText_cons hquote, List.append_assoc, leadingRun_escapedChar _ hquote]
      exact Nat.zero_le _

theorem readString_literal (hrest : leadingRun '\'' rest = 0)
    (hplain : ∀ c ∈ s, isPlain c = true ∧ c ≠ '\'') :
    readString ('\'' :: (s ++ '\'' :: rest)) = some (s, rest) := by
  rw [readString_apostrophe, readLiteral_append hplain]
  cases s with
  | nil => simp [hrest]
  | cons c s =>
    rw [List.cons_append, leadingRun_cons_of_ne (hplain c List.mem_cons_self).2]
    exact Nat.zero_le _

/-- A text without line ends is not taken to begin with one. -/
theorem dropLineEnd_escapedText (hline : '\n' ∉ s) (quotes : Nat) (after : List Char) :
    dropLineEnd (escapedText true quotes s ++ '"' :: after) =
      escapedText true quotes s ++ '"' :: after := by
  cases s with
  | nil => exact dropLineEnd_cons (by decide) (by decide) _
  | cons c s =>
    rw [List.mem_cons, not_or] at hline
    by_cases hquote : c = '"'
    · subst hquote
      cases quotes with
      | zero => exact dropLineEnd_cons (by decide) (by decide) _
      | succ quotes => exact dropLineEnd_cons (by decide) (by decide) _
    · rw [escapedText_cons hquote, List.append_assoc]
      rcases escapedChar_cases true c with ⟨hself, _, hplain⟩ | ⟨escape, hescape, _⟩
      · rw [hself]
        exact dropLineEnd_cons (Ne.symm hline.1) (ne_return_of_isPlain (hplain.imp_right (·.2))) _
      · rw [hescape]
        exact dropLineEnd_cons (by decide) (by decide) _

theorem dropLineEnd_append (hline : '\n' ∉ s) (hplain : ∀ c ∈ s, isPlain c = true ∨ c = '\n')
    (after : List Char) : dropLineEnd (s ++ '\'' :: after) = s ++ '\'' :: after := by
  cases s with
  | nil => exact dropLineEnd_cons (by decide) (by decide) _
  | cons c s =>
    rw [List.mem_cons, not_or] at hline
    exact dropLineEnd_cons (Ne.symm hline.1)
      (ne_return_of_isPlain (hplain c List.mem_cons_self)) _

/-- A text that is written between three quotes is read back, with the newline that may stand in
front. -/
theorem readString_basicLines (hrest : leadingRun '"' rest = 0) :
    readString ('"' :: '"' :: '"' :: ((if s.contains '\n' then ['\n'] else []) ++
      (escapedText true 2 s ++ '"' :: '"' :: '"' :: rest))) = some (s, rest) := by
  have hread := readBasicLines_escapedText hrest (Nat.le_refl 2) s
  rw [readString]
  split
  next => exact hread
  next hline =>
    rw [List.contains_iff_mem] at hline
    rw [List.nil_append, dropLineEnd_escapedText s hline, hread]

/-- A text that is written between three apostrophes is read back, when no run of them in it is
longer than two. -/
theorem readString_literalLines (hrest : leadingRun '\'' rest = 0) (hruns : longestRun '\'' s ≤ 2)
    (hplain : ∀ c ∈ s, isPlain c = true ∨ c = '\n') :
    readString ('\'' :: '\'' :: '\'' :: ((if s.contains '\n' then ['\n'] else []) ++
      (s ++ '\'' :: '\'' :: '\'' :: rest))) = some (s, rest) := by
  rw [longestRun_eq_foldl] at hruns
  have hread := readLiteralLines_append hrest (Nat.le_refl 0) hruns hplain
  rw [readString]
  split
  next => exact hread
  next hline =>
    rw [List.contains_iff_mem] at hline
    rw [List.nil_append, dropLineEnd_append s hline hplain, hread]

/-- Whatever way to write a string is chosen, the string is read back. -/
theorem readString_writeString (hquote : leadingRun '"' rest = 0)
    (hapostrophe : leadingRun '\'' rest = 0) :
    readString (writeString s ++ rest) = some (s, rest) := by
  have hbasic := readString_basic s hquote
  have hlines := readString_basicLines s hquote
  have hplain : s.any needsEscape = false → ∀ c ∈ s, isPlain c = true ∨ c = '\n' := by
    intro hescape c hc
    exact isPlain_of_not_needsEscape (by simpa using List.any_eq_false.1 hescape c hc)
  -- the writer picks one of four forms, in the order of the cases
  unfold writeString
  simp only [Bool.and_eq_true, Bool.not_eq_true', decide_eq_true_eq]
  split
  next => simpa using hbasic
  split
  next h =>
    obtain ⟨⟨hescape, hline⟩, hap⟩ := h
    have hliteral : ∀ c ∈ s, isPlain c = true ∧ c ≠ '\'' := by
      intro c hc
      rw [← Bool.not_eq_true, List.contains_iff_mem] at hline hap
      have hcline : c ≠ '\n' := fun h => hline (h ▸ hc)
      exact ⟨(hplain hescape c hc).resolve_right hcline, fun h => hap (h ▸ hc)⟩
    simpa using readString_literal s hapostrophe hliteral
  split
  next => simpa using hlines
  split
  next h =>
    simpa using readString_literalLines s hapostrophe h.2 (hplain h.1)
  split
  next hline => simpa [List.contains_iff_mem.1 hline] using hlines
  next => simpa using hbasic

end DocSentences.Toml
