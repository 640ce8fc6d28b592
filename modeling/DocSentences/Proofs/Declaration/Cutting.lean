import DocSentences.Proofs.Declaration.Places

/-!
# Cutting a source text into lexemes

A source text that is read to its end is made of lexemes, each of which ends where the next one
begins. So the texts in which no token is cut off are the texts of such lexemes.
-/

namespace DocSentences.Declaration

/-! ## Reading token by token -/

/-- A token that cannot be read ends the tokens of the text. -/
theorem tokensFrom_of_lexFrom_error {c : Char} (hc : Text.isBlank c = false) {rest : List Char}
    {line : Nat} {kind : Unterminated} {cursor : Cursor}
    (h : lexFrom c rest line = .error (kind, cursor)) :
    tokensFrom (c :: rest) line = ⟨[], .cutOff kind cursor.line⟩ := by
  rw [tokensFrom_eq, skipBlank, if_neg (by simp [hc])]
  simp only [h]

/-- Every text can be taken apart from the front, one blank character or token at a time, up to its
end or to a token that is cut off. -/
@[elab_as_elim]
theorem reading_induction {motive : List Char → Nat → Prop} (nil : ∀ line, motive [] line)
    (blank : ∀ c rest line, Text.isBlank c = true → motive rest (lineAfter c line) →
      motive (c :: rest) line)
    (cutOff : ∀ c rest line kind cursor, Text.isBlank c = false →
      lexFrom c rest line = .error (kind, cursor) → motive (c :: rest) line)
    (token : ∀ c rest line token after, Text.isBlank c = false →
      lexFrom c rest line = .ok (token, after) → motive after.rest after.line →
      motive (c :: rest) line)
    (s : List Char) (line : Nat) : motive s line := by
  induction hn : s.length using Nat.strongRecOn generalizing s line with
  | ind n ih =>
      cases s with
      | nil => exact nil line
      | cons c rest =>
          have hrest : rest.length < n := hn ▸ Nat.lt_succ_self _
          cases hblank : Text.isBlank c with
          | true => exact blank c rest line hblank (ih _ hrest rest _ rfl)
          | false =>
              cases hlex : lexFrom c rest line with
              | error found => exact cutOff c rest line found.1 found.2 hblank hlex
              | ok found =>
                  have hafter := Nat.lt_of_le_of_lt (length_lexFrom hlex) hrest
                  exact token c rest line found.1 found.2 hblank hlex (ih _ hafter _ _ rfl)

/-! ## Ends of comments and literals -/

/-- The content of a comment holds no end of a comment. -/
theorem not_close_infix_of_closeComment {s content : List Char} {line : Nat} {after : Cursor}
    (h : closeComment s line = .ok (content, after)) : ¬ ['*', '/'] <:+: content := by
  fun_induction closeComment s line generalizing content with
  | case1 => simp at h
  | case2 rest line =>
      obtain ⟨rfl, -⟩ := by simpa using h
      decide
  | case3 c rest line hopen more next hnext ih =>
      obtain ⟨rfl, rfl⟩ := by simpa using h
      rw [List.infix_cons_iff]
      rintro (hhere | hlater)
      · obtain ⟨hstar, hslash⟩ := List.cons_prefix_cons.mp hhere
        obtain ⟨rest', rfl⟩ := hslash
        exact hopen _ hstar.symm (eq_append_of_closeComment hnext)
      · exact ih hnext hlater
  | case4 => simp at h

/-- A literal that is closed is a quoted text and the quote after it. -/
theorem exists_of_closeQuote {quote : Char} {s : List Char} {line : Nat} {u : Unit}
    {after : Cursor} (h : closeQuote quote s line = .ok (u, after)) :
    ∃ text, s = text ++ quote :: after.rest ∧ IsQuotedText quote text := by
  fun_induction closeQuote quote s line with
  | case1 => simp at h
  | case2 => simp at h
  | case3 c rest line ih =>
      obtain ⟨text, rfl, htext⟩ := ih h
      exact ⟨'\\' :: c :: text, rfl, .escaped htext⟩
  | case4 rest line =>
      obtain rfl : (⟨rest, line⟩ : Cursor) = after := by simpa using h
      exact ⟨[], rfl, .nil⟩
  | case5 => simp at h
  | case6 c rest line hlast hmore hquote hline ih =>
      obtain ⟨text, rfl, htext⟩ := ih h
      exact ⟨c :: text, rfl, .plain ⟨ne_backslash hlast hmore, hquote, hline⟩ htext⟩

/-- A text block that is closed is a block text and the three quotes after it. -/
theorem exists_of_closeTextBlock {s : List Char} {line : Nat} {u : Unit} {after : Cursor}
    (h : closeTextBlock s line = .ok (u, after)) :
    ∃ text, s = text ++ threeQuotes ++ after.rest ∧ IsBlockText text := by
  fun_induction closeTextBlock s line with
  | case1 => simp at h
  | case2 => simp at h
  | case3 c rest line ih =>
      obtain ⟨text, rfl, htext⟩ := ih h
      exact ⟨'\\' :: c :: text, rfl, .escaped htext⟩
  | case4 rest line =>
      obtain rfl : (⟨rest, line⟩ : Cursor) = after := by simpa using h
      exact ⟨[], rfl, .nil⟩
  | case5 c rest line hlast hmore hopen ih =>
      obtain ⟨text, rfl, htext⟩ := ih h
      refine ⟨c :: text, rfl, .plain (ne_backslash hlast hmore) ?_ htext⟩
      intro hquotes
      obtain ⟨hquote, hnext⟩ := List.cons_prefix_cons.mp hquotes
      obtain ⟨more, hmore⟩ := hnext.trans (List.prefix_append _ after.rest)
      exact hopen more hquote.symm hmore.symm

/-! ## Single lexemes -/

/-- A text begins with a lexeme that ends where the rest of the text begins. -/
def BeginsWithLexeme (s rest : List Char) : Prop :=
  ∃ l : Lexeme, l.text ++ rest = s ∧ l.EndsBefore rest

section Lexed

variable {c : Char} {rest : List Char} {line : Nat} {token : Token} {after : Cursor}

theorem beginsWithLexeme_lineComment (text : List Char) :
    BeginsWithLexeme ('/' :: '/' :: text) (text.dropWhile (· != '\n')) := by
  have hline : '\n' ∉ text.takeWhile (· != '\n') := by
    intro hmem
    simpa using List.all_eq_true.mp List.all_takeWhile _ hmem
  refine ⟨.lineComment _ hline, ?_, ?_⟩
  · rw [Lexeme.text, List.cons_append, List.cons_append, List.takeWhile_append_dropWhile]
  · intro d hd
    have hstop := List.head?_dropWhile_not (· != '\n') text
    rw [Option.mem_def.mp hd] at hstop
    simpa using hstop

/-- A slash and two stars begin a doc comment, unless the comment ends with the second star. -/
theorem beginsWithLexeme_docComment (hopen : ∀ more, rest ≠ '/' :: more) {content : List Char}
    (h : closeComment rest line = .ok (content, after)) :
    BeginsWithLexeme ('/' :: '*' :: '*' :: rest) after.rest := by
  have hrest := eq_append_of_closeComment h
  have hclose := not_close_infix_of_closeComment h
  have hbody : content.head? ≠ some '/' := by
    intro hhead
    obtain ⟨more, rfl⟩ := List.head?_eq_some_iff.mp hhead
    exact hopen _ hrest
  exact ⟨.docComment content hbody hclose, by simp [Lexeme.text, hrest], trivial⟩

/-- A slash and a single star begin a plain comment. -/
theorem beginsWithLexeme_blockComment (hopen : ∀ more, rest ≠ '*' :: more)
    {content : List Char} (h : closeComment rest line = .ok (content, after)) :
    BeginsWithLexeme ('/' :: '*' :: rest) after.rest := by
  have hrest := eq_append_of_closeComment h
  have hclose := not_close_infix_of_closeComment h
  have htext : content.head? ≠ some '*' := by
    intro hhead
    obtain ⟨more, rfl⟩ := List.head?_eq_some_iff.mp hhead
    exact hopen _ hrest
  exact ⟨.blockComment content htext hclose, by simp [Lexeme.text, hrest], trivial⟩

theorem beginsWithLexeme_textBlock {u : Unit} (h : closeTextBlock rest line = .ok (u, after)) :
    BeginsWithLexeme ('"' :: '"' :: '"' :: rest) after.rest := by
  obtain ⟨text, rfl, htext⟩ := exists_of_closeTextBlock h
  exact ⟨.textBlock text htext, by simp [Lexeme.text, threeQuotes], trivial⟩

theorem beginsWithLexeme_stringLiteral (hopen : ∀ more, rest ≠ '"' :: '"' :: more) {u : Unit}
    (h : closeQuote '"' rest line = .ok (u, after)) :
    BeginsWithLexeme ('"' :: rest) after.rest := by
  obtain ⟨text, rfl, htext⟩ := exists_of_closeQuote h
  refine ⟨.stringLiteral text htext, by simp [Lexeme.text], ?_⟩
  -- an empty text before one more quote would have opened a text block
  rintro rfl d hd rfl
  obtain ⟨more, hmore⟩ := List.head?_eq_some_iff.mp hd
  exact hopen more (by rw [hmore]; rfl)

theorem beginsWithLexeme_characterLiteral {u : Unit}
    (h : closeQuote '\'' rest line = .ok (u, after)) :
    BeginsWithLexeme ('\'' :: rest) after.rest := by
  obtain ⟨text, rfl, htext⟩ := exists_of_closeQuote h
  exact ⟨.characterLiteral text htext, by simp [Lexeme.text], trivial⟩

theorem beginsWithLexeme_word (hstart : startsWord c = true) :
    BeginsWithLexeme (c :: rest) (rest.dropWhile continuesWord) := by
  have hword : isWord (c :: rest.takeWhile continuesWord) = true := by
    rw [isWord, hstart, List.all_takeWhile]
    rfl
  refine ⟨.word ⟨_, hword⟩, ?_, ?_⟩
  · rw [Lexeme.text, List.cons_append, List.takeWhile_append_dropWhile]
  · intro d hd
    have hstop := List.head?_dropWhile_not continuesWord rest
    rw [Option.mem_def.mp hd] at hstop
    simpa using hstop

/-- A mark is a lexeme of its own, unless it is the slash of a comment. -/
theorem beginsWithLexeme_mark (hmark : IsMark c)
    (hopen : c = '/' → ∀ more, rest ≠ '/' :: more ∧ rest ≠ '*' :: more) :
    BeginsWithLexeme (c :: rest) rest := by
  refine ⟨.mark c hmark, rfl, ?_⟩
  intro hc d hd
  obtain ⟨more, rfl⟩ := List.head?_eq_some_iff.mp hd
  constructor
  · rintro rfl
    exact (hopen hc more).1 rfl
  · rintro rfl
    exact (hopen hc more).2 rfl

/-- What is read as a token is the text of a lexeme. -/
theorem beginsWithLexeme_of_lexFrom (hblank : Text.isBlank c = false)
    (h : lexFrom c rest line = .ok (token, after)) :
    BeginsWithLexeme (c :: rest) after.rest := by
  unfold lexFrom at h
  split at h
  case h_1 more =>
    obtain ⟨-, rfl⟩ := by simpa using h
    exact beginsWithLexeme_lineComment more
  case h_2 more =>
    obtain ⟨-, rfl⟩ := by simpa using h
    exact ⟨.blockComment [] nofun (by decide), rfl, trivial⟩
  case h_3 content hopen =>
    obtain ⟨body, hclose⟩ := lexed_eq_ok h
    exact beginsWithLexeme_docComment hopen hclose
  case h_4 content _ hopen =>
    obtain ⟨body, hclose⟩ := lexed_eq_ok h
    exact beginsWithLexeme_blockComment hopen hclose
  case h_5 content =>
    obtain ⟨u, hclose⟩ := lexed_eq_ok h
    exact beginsWithLexeme_textBlock hclose
  case h_6 hopen =>
    obtain ⟨u, hclose⟩ := lexed_eq_ok h
    exact beginsWithLexeme_stringLiteral hopen hclose
  case h_7 =>
    obtain ⟨u, hclose⟩ := lexed_eq_ok h
    exact beginsWithLexeme_characterLiteral hclose
  case h_14 hstring hcharacter _ _ _ _ _ _ hline _ _ hblock _ =>
    split at h
    · next hstart =>
        obtain ⟨-, rfl⟩ := by simpa using h
        exact beginsWithLexeme_word hstart
    · next hstart =>
        obtain ⟨-, rfl⟩ := by simpa using h
        refine beginsWithLexeme_mark ⟨hblank, by simpa using hstart, hstring, hcharacter⟩ ?_
        intro hc
        exact fun more => ⟨hline more hc, hblock more hc⟩
  all_goals
    obtain ⟨-, rfl⟩ := by simpa using h
    exact beginsWithLexeme_mark (by decide) (fun hc => absurd hc (by decide))

end Lexed

/-! ## Whole texts -/

/-- A text is cut into lexemes if it is written as they are, and each of them ends where the next
one begins. -/
structure IsCutInto (source : List Char) (lexemes : List Lexeme) : Prop where
  written : textOf lexemes = source
  apart : Apart lexemes []

/-- A text that is read to its end can be cut into lexemes. -/
theorem exists_isCutInto_of_tokensFrom {s : List Char} {line last : Nat}
    (h : (tokensFrom s line).ending = .complete last) : ∃ lexemes, IsCutInto s lexemes := by
  have hcons : ∀ {l : Lexeme} {rest : List Char}, l.EndsBefore rest →
      (∃ lexemes, IsCutInto rest lexemes) → ∃ lexemes, IsCutInto (l.text ++ rest) lexemes := by
    rintro l _ hl ⟨lexemes, rfl, hapart⟩
    exact ⟨l :: lexemes, rfl, by rwa [List.append_nil], hapart⟩
  induction s, line using reading_induction with
  | nil line => exact ⟨[], rfl, trivial⟩
  | blank c rest line hblank ih =>
      rw [tokensFrom_of_isBlank hblank] at h
      exact hcons (l := .blank c hblank) trivial (ih h)
  | cutOff c rest line kind cursor hblank hlex =>
      rw [tokensFrom_of_lexFrom_error hblank hlex] at h
      cases h
  | token c rest line token after hblank hlex ih =>
      rw [tokensFrom_of_lexFrom hblank hlex] at h
      obtain ⟨l, hl, hends⟩ := beginsWithLexeme_of_lexFrom hblank hlex
      rw [← hl]
      exact hcons hends (ih h)

end DocSentences.Declaration
