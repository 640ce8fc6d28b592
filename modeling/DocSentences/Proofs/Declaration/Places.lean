import DocSentences.Proofs.Declaration.Lexemes

/-!
# Ends of tokens by index

A text may be kept whole and read with an index into it and the number of the current line. The
loops that look for the end of a token then stop at the places from which reading from front to back
goes on.
-/

namespace DocSentences.Declaration

open Text

/-- How far a source text has been read: the number of characters, and the number of the current
line. -/
structure Place where
  index : Nat
  line : Nat

namespace Place

def next (p : Place) (c : Char) : Place := ⟨p.index + 1, lineAfter c p.line⟩

/-- The position from which the rest of a text is read. -/
def cursor (p : Place) (chars : List Char) : Cursor := ⟨chars.drop p.index, p.line⟩

end Place

/-! ## Ends of tokens -/

section Ends

variable (chars : List Char)

/-- The place after the character at a place, or the same place at the end. -/
def bump (p : Place) : Place :=
  match chars[p.index]? with
  | some c => p.next c
  | none => p

theorem index_le_bump (p : Place) : p.index ≤ (bump chars p).index := by
  unfold bump
  split
  · exact Nat.le_succ _
  · exact Nat.le_refl _

theorem length_sub_lt {p : Place} {c : Char} (h : chars[p.index]? = some c) {index : Nat}
    (hindex : p.index < index) : chars.length - index < chars.length - p.index := by
  have := (List.getElem?_eq_some_iff.mp h).1
  omega

/-- The place of the first character from a place on that fails a test. -/
def skipWhile (test : Char → Bool) (p : Place) : Place :=
  match _h : chars[p.index]? with
  | some c => if test c then skipWhile test (p.next c) else p
  | none => p
termination_by chars.length - p.index
decreasing_by exact length_sub_lt chars ‹_› (Nat.lt_succ_self _)

/-- The place after the star and slash that close a comment, or the line on which the text ends. -/
def commentEnd (p : Place) : Except Nat Place :=
  match _h : chars[p.index]? with
  | none => .error p.line
  | some c =>
      if c = '*' ∧ chars[p.index + 1]? = some '/' then .ok ⟨p.index + 2, p.line⟩
      else commentEnd (p.next c)
termination_by chars.length - p.index
decreasing_by exact length_sub_lt chars ‹_› (Nat.lt_succ_self _)

/-- The place after the quote that closes a literal, or the line on which it is cut off. -/
def quoteEnd (quote : Char) (p : Place) : Except Nat Place :=
  match _h : chars[p.index]? with
  | none => .error p.line
  | some c =>
      if c = '\\' then quoteEnd quote (bump chars (p.next c))
      else if c = quote then .ok (p.next c)
      else if c = '\n' then .error (p.next c).line
      else quoteEnd quote (p.next c)
termination_by chars.length - p.index
decreasing_by
  · exact length_sub_lt chars ‹_› (index_le_bump chars (p.next c))
  · exact length_sub_lt chars ‹_› (Nat.lt_succ_self _)

/-- The place after the quotes that close a text block, or the line on which the text ends. -/
def textBlockEnd (p : Place) : Except Nat Place :=
  match _h : chars[p.index]? with
  | none => .error p.line
  | some c =>
      if c = '\\' then textBlockEnd (bump chars (p.next c))
      else if c = '"' ∧ chars[p.index + 1]? = some '"' ∧ chars[p.index + 2]? = some '"' then
        .ok ⟨p.index + 3, p.line⟩
      else textBlockEnd (p.next c)
termination_by chars.length - p.index
decreasing_by
  · exact length_sub_lt chars ‹_› (index_le_bump chars (p.next c))
  · exact length_sub_lt chars ‹_› (Nat.lt_succ_self _)

/-! ## Reading at a place -/

variable {chars} {s : List Char} {index line : Nat}

theorem getElem?_of_drop_eq (h : chars.drop index = s) (k : Nat) : chars[index + k]? = s[k]? := by
  rw [← h, List.getElem?_drop]

theorem drop_add_of_drop_eq {t : List Char} (h : chars.drop index = s ++ t) :
    chars.drop (index + s.length) = t := by
  rw [← List.drop_drop, h, List.drop_left]

theorem drop_succ_of_drop_eq {c : Char} (h : chars.drop index = c :: s) :
    chars.drop (index + 1) = s :=
  drop_add_of_drop_eq (s := [c]) h

theorem bump_nil (h : chars.drop index = []) : bump chars ⟨index, line⟩ = ⟨index, line⟩ := by
  have hpeek : chars[index]? = none := getElem?_of_drop_eq h 0
  simp [bump, hpeek]

theorem bump_cons {c : Char} (h : chars.drop index = c :: s) :
    bump chars ⟨index, line⟩ = ⟨index + 1, lineAfter c line⟩ := by
  have hpeek : chars[index]? = some c := getElem?_of_drop_eq h 0
  simp [bump, hpeek, Place.next]

theorem skipWhile_nil {test : Char → Bool} (h : chars.drop index = []) :
    skipWhile chars test ⟨index, line⟩ = ⟨index, line⟩ := by
  have hpeek : chars[index]? = none := getElem?_of_drop_eq h 0
  rw [skipWhile]
  split <;> simp_all

theorem skipWhile_cons {test : Char → Bool} {c : Char} (h : chars.drop index = c :: s) :
    skipWhile chars test ⟨index, line⟩ =
      if test c then skipWhile chars test ⟨index + 1, lineAfter c line⟩ else ⟨index, line⟩ := by
  have hpeek : chars[index]? = some c := getElem?_of_drop_eq h 0
  rw [skipWhile]
  split <;> simp_all [Place.next]

theorem commentEnd_nil (h : chars.drop index = []) :
    commentEnd chars ⟨index, line⟩ = .error line := by
  have hpeek : chars[index]? = none := getElem?_of_drop_eq h 0
  rw [commentEnd]
  split <;> simp_all

/-- A comment ends at a star with a slash after it. -/
theorem commentEnd_cons {c : Char} (h : chars.drop index = c :: s) :
    commentEnd chars ⟨index, line⟩ =
      if c = '*' ∧ s[0]? = some '/' then .ok ⟨index + 2, line⟩
      else commentEnd chars ⟨index + 1, lineAfter c line⟩ := by
  have hpeek : chars[index]? = some c := getElem?_of_drop_eq h 0
  have hnext : chars[index + 1]? = s[0]? := getElem?_of_drop_eq h 1
  rw [commentEnd]
  split <;> simp_all [Place.next]

theorem quoteEnd_nil {quote : Char} (h : chars.drop index = []) :
    quoteEnd chars quote ⟨index, line⟩ = .error line := by
  have hpeek : chars[index]? = none := getElem?_of_drop_eq h 0
  rw [quoteEnd]
  split <;> simp_all

/-- A literal ends at its quote, is cut off by a newline, and passes over what is escaped. -/
theorem quoteEnd_cons {quote c : Char} (h : chars.drop index = c :: s) :
    quoteEnd chars quote ⟨index, line⟩ =
      if c = '\\' then quoteEnd chars quote (bump chars ⟨index + 1, lineAfter c line⟩)
      else if c = quote then .ok ⟨index + 1, lineAfter c line⟩
      else if c = '\n' then .error (lineAfter c line)
      else quoteEnd chars quote ⟨index + 1, lineAfter c line⟩ := by
  have hpeek : chars[index]? = some c := getElem?_of_drop_eq h 0
  rw [quoteEnd]
  split <;> simp_all [Place.next]

theorem textBlockEnd_nil (h : chars.drop index = []) :
    textBlockEnd chars ⟨index, line⟩ = .error line := by
  have hpeek : chars[index]? = none := getElem?_of_drop_eq h 0
  rw [textBlockEnd]
  split <;> simp_all

/-- A text block ends at three quotes and passes over what is escaped. -/
theorem textBlockEnd_cons {c : Char} (h : chars.drop index = c :: s) :
    textBlockEnd chars ⟨index, line⟩ =
      if c = '\\' then textBlockEnd chars (bump chars ⟨index + 1, lineAfter c line⟩)
      else if c = '"' ∧ s[0]? = some '"' ∧ s[1]? = some '"' then .ok ⟨index + 3, line⟩
      else textBlockEnd chars ⟨index + 1, lineAfter c line⟩ := by
  have hpeek : chars[index]? = some c := getElem?_of_drop_eq h 0
  have hnext : chars[index + 1]? = s[0]? := getElem?_of_drop_eq h 1
  have hafter : chars[index + 2]? = s[1]? := getElem?_of_drop_eq h 2
  rw [textBlockEnd]
  split <;> simp_all [Place.next]

/-! ## Agreement on the ends of tokens -/

/-- Skipping ends where the characters that pass the test do. -/
theorem skipWhile_eq (test : Char → Bool) (h : chars.drop index = s) :
    skipWhile chars test ⟨index, line⟩ =
      ⟨index + (s.takeWhile test).length, line + newlines (s.takeWhile test)⟩ := by
  induction s generalizing index line with
  | nil => rw [skipWhile_nil h]; rfl
  | cons c s ih =>
      rw [skipWhile_cons h]
      cases htest : test c with
      | true =>
          rw [if_pos rfl, ih (drop_succ_of_drop_eq h), List.takeWhile_cons_of_pos htest,
            lineAfter_add_newlines, List.length_cons, Nat.add_right_comm, Nat.add_assoc]
      | false => simp [htest]

/-- Skipping by index leaves the text that dropping the characters leaves. -/
theorem cursor_skipWhile (test : Char → Bool) (h : chars.drop index = s) :
    (skipWhile chars test ⟨index, line⟩).cursor chars =
      ⟨s.dropWhile test, line + newlines (s.takeWhile test)⟩ := by
  have hdrop : chars.drop index = s.takeWhile test ++ s.dropWhile test := by
    rw [h, List.takeWhile_append_dropWhile]
  rw [skipWhile_eq test h, Place.cursor, drop_add_of_drop_eq hdrop]

/-- What stays on one line does not change the line. -/
theorem cursor_skipWhile_of_line (test : Char → Bool) (htest : test '\n' = false)
    (h : chars.drop index = s) (line : Nat) :
    (skipWhile chars test ⟨index, line⟩).cursor chars = ⟨s.dropWhile test, line⟩ := by
  have hline : newlines (s.takeWhile test) = 0 := newlines_eq_zero fun hmem => by
    rw [List.all_eq_true.mp List.all_takeWhile _ hmem] at htest
    cases htest
  rw [cursor_skipWhile test h, hline]
  rfl

/-- The position after a token, or the line on which it is cut off. -/
def Closed.after {α : Type} : Closed α → Except Nat Cursor
  | .ok (_, cursor) => .ok cursor
  | .error cursor => .error cursor.line

theorem eq_append_of_closeComment {content : List Char} {after : Cursor}
    (h : closeComment s line = .ok (content, after)) : s = content ++ '*' :: '/' :: after.rest := by
  fun_induction closeComment s line generalizing content with
  | case1 => simp at h
  | case2 rest line =>
      obtain ⟨rfl, rfl⟩ := by simpa using h
      rfl
  | case3 c rest line _ more next hnext ih =>
      obtain ⟨rfl, rfl⟩ := by simpa using h
      exact congrArg (c :: ·) (ih hnext)
  | case4 => simp at h

/-- The place after a comment of which the first character has the given index. -/
def Closed.place (index : Nat) : Closed (List Char) → Except Nat Place
  | .ok (content, cursor) => .ok ⟨index + content.length + 2, cursor.line⟩
  | .error cursor => .error cursor.line

/-- The end of a comment is found at the same place by index and by text. -/
theorem commentEnd_eq (h : chars.drop index = s) :
    commentEnd chars ⟨index, line⟩ = (closeComment s line).place index := by
  fun_induction closeComment s line generalizing index with
  | case1 line => exact commentEnd_nil h
  | case2 rest line => rw [commentEnd_cons h]; rfl
  | case3 c rest line hopen content after hmore ih
  | case4 c rest line hopen cursor hmore ih =>
      have hstays : ¬ (c = '*' ∧ rest[0]? = some '/') := by
        rintro ⟨rfl, hslash⟩
        cases rest with
        | nil => simp at hslash
        | cons d rest => exact hopen rest rfl (by simp_all)
      rw [commentEnd_cons h, if_neg hstays, ih (drop_succ_of_drop_eq h)]
      simp only [Closed.place, hmore, List.length_cons, Nat.add_assoc, Nat.add_comm 1]

/-- Closing a comment by index leaves the text that closing it by text leaves. -/
theorem map_cursor_commentEnd (h : chars.drop index = s) (line : Nat) :
    (commentEnd chars ⟨index, line⟩).map (·.cursor chars) = (closeComment s line).after := by
  rw [commentEnd_eq h]
  cases hclose : closeComment s line with
  | error => rfl
  | ok found =>
      obtain ⟨content, after⟩ := found
      have hdrop : chars.drop index = (content ++ ['*', '/']) ++ after.rest := by
        rw [h, eq_append_of_closeComment hclose]
        simp
      have hrest : chars.drop (index + content.length + 2) = after.rest := by
        rw [← drop_add_of_drop_eq hdrop, List.length_append, ← Nat.add_assoc]
        rfl
      simp only [Closed.place, Except.map, Closed.after, Place.cursor, hrest]

/-- The character before a text is no backslash if no case for one applies. -/
theorem ne_backslash {c : Char} (hlast : c = '\\' → s = [] → False)
    (hmore : ∀ d rest, c = '\\' → s = d :: rest → False) : c ≠ '\\' := by
  intro hc
  cases s with
  | nil => exact hlast hc rfl
  | cons d rest => exact hmore d rest hc rfl

/-- A text in which two characters are not the first ones. -/
theorem not_two_of_ne {c d : Char} (h : ∀ rest, s = c :: d :: rest → False) :
    ¬ (s[0]? = some c ∧ s[1]? = some d) := by
  rintro ⟨hfirst, hsecond⟩
  cases s with
  | nil => cases hfirst
  | cons a s =>
      cases s with
      | nil => cases hsecond
      | cons b rest => exact h rest (by rw [Option.some.inj hfirst, Option.some.inj hsecond])

/-- Closing a literal by index leaves the text that closing it by text leaves. -/
theorem map_cursor_quoteEnd {quote : Char} (hquote : quote ≠ '\n') (h : chars.drop index = s)
    (line : Nat) :
    (quoteEnd chars quote ⟨index, line⟩).map (·.cursor chars) =
      (closeQuote quote s line).after := by
  fun_induction closeQuote quote s line generalizing index with
  | case1 line => rw [quoteEnd_nil h]; rfl
  | case2 line =>
      have hend := drop_succ_of_drop_eq h
      rw [quoteEnd_cons h, if_pos rfl, bump_nil hend, quoteEnd_nil hend]
      rfl
  | case3 c rest line ih =>
      have hnext := drop_succ_of_drop_eq h
      rw [quoteEnd_cons h, if_pos rfl, bump_cons hnext]
      exact ih (drop_succ_of_drop_eq hnext)
  | case4 rest line hlast hmore =>
      rw [quoteEnd_cons h, if_neg (ne_backslash hlast hmore), if_pos rfl, lineAfter_of_ne hquote]
      simp only [Except.map, Place.cursor, drop_succ_of_drop_eq h, Closed.after]
  | case5 rest line hlast hmore hc =>
      rw [quoteEnd_cons h, if_neg (by decide), if_neg hc, if_pos rfl]
      rfl
  | case6 c rest line hlast hmore hc hline ih =>
      rw [quoteEnd_cons h, if_neg (ne_backslash hlast hmore), if_neg hc, if_neg hline,
        lineAfter_of_ne hline]
      exact ih (drop_succ_of_drop_eq h)

/-- Closing a text block by index leaves the text that closing it by text leaves. -/
theorem map_cursor_textBlockEnd (h : chars.drop index = s) (line : Nat) :
    (textBlockEnd chars ⟨index, line⟩).map (·.cursor chars) = (closeTextBlock s line).after := by
  fun_induction closeTextBlock s line generalizing index with
  | case1 line => rw [textBlockEnd_nil h]; rfl
  | case2 line =>
      have hend := drop_succ_of_drop_eq h
      rw [textBlockEnd_cons h, if_pos rfl, bump_nil hend, textBlockEnd_nil hend]
      rfl
  | case3 c rest line ih =>
      have hnext := drop_succ_of_drop_eq h
      rw [textBlockEnd_cons h, if_pos rfl, bump_cons hnext]
      exact ih (drop_succ_of_drop_eq hnext)
  | case4 rest line =>
      have hdrop : chars.drop (index + 3) = rest := drop_add_of_drop_eq (s := threeQuotes) h
      rw [textBlockEnd_cons h, if_neg (by decide), if_pos (by simp)]
      simp only [Except.map, Place.cursor, hdrop, Closed.after]
  | case5 c rest line hlast hmore hopen ih =>
      have hstays : ¬ (c = '"' ∧ rest[0]? = some '"' ∧ rest[1]? = some '"') := by
        rintro ⟨rfl, hquotes⟩
        exact not_two_of_ne (fun more => hopen more rfl) hquotes
      rw [textBlockEnd_cons h, if_neg (ne_backslash hlast hmore), if_neg hstays]
      exact ih (drop_succ_of_drop_eq h)

end Ends

end DocSentences.Declaration
