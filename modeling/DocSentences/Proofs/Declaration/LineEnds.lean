import DocSentences.Proofs.Declaration.Acceptance
import DocSentences.Proofs.Text.LineEnds

/-!
# Line ends of source text

A carriage return before a line feed is blank, so it makes no difference outside of comments and
literals. It does not close a literal either, nor keep a line feed from cutting one off, unless a
backslash takes it for itself. So source text is read alike with and without carriage returns,
except that the comments of its declarations have them too.
-/

namespace DocSentences.Declaration

open Text

/-! ## Comments are passed on unread -/

section Comments

variable (f : String → String)

def Token.mapComment : Token → Token
  | .docComment body => .docComment (f body)
  | token => token

def Tokens.mapComments (tokens : Tokens) : Tokens :=
  ⟨tokens.tokens.map (Token.mapComment f), tokens.ending⟩

/-- A declaration with another comment. -/
def mapComment (declaration : Declaration) : Declaration :=
  { declaration with comment := declaration.comment.map f }

namespace Outline

def mapComments (o : Outline) : Outline :=
  { o with pending := o.pending.map f, found := o.found.map (mapComment f) }

theorem word_mapComments (o : Outline) (text : String) :
    (o.mapComments f).word text = (o.word text).mapComments f := by
  obtain ⟨nesting, pending, expected, afterAt, found⟩ := o
  cases expected with
  | some kind => rfl
  | none =>
      unfold word
      dsimp only [mapComments]
      split <;> rfl

theorem step_mapComments (o : Outline) (t : Token) :
    (o.mapComments f).step (t.mapComment f) = (o.step t).map (mapComments f) := by
  have hword := word_mapComments f o
  obtain ⟨nesting, pending, expected, afterAt, found⟩ := o
  cases nesting with
  | topLevel =>
      cases t with
      | word text => exact congrArg Except.ok (hword text)
      | _ => rfl
  | parentheses deeper => cases t <;> cases deeper <;> rfl
  | braces deeper => cases t <;> cases deeper <;> rfl

/-- Reading tokens does the same whatever the comments say. -/
theorem run_mapComments (o : Outline) (tokens : List Token) :
    (o.mapComments f).run (tokens.map (Token.mapComment f)) =
      (o.run tokens).map (mapComments f) := by
  induction tokens generalizing o with
  | nil => rfl
  | cons t tokens ih =>
      have hstep := step_mapComments f o t
      cases ht : o.step t with
      | error error =>
          rw [ht] at hstep
          rw [List.map_cons, run, run, List.foldlM_cons, List.foldlM_cons, hstep, ht]
          rfl
      | ok next =>
          rw [ht] at hstep
          rw [List.map_cons, run_cons hstep, run_cons ht, ih]

theorem finish_mapComments (o : Outline) (ending : Ending) :
    (o.mapComments f).finish ending =
      (o.finish ending).map (List.map (mapComment f)) := by
  obtain ⟨nesting, pending, expected, afterAt, found⟩ := o
  cases ending <;> cases nesting <;> simp [finish, mapComments, Except.map]

end Outline

/-- Texts whose tokens differ in the comments have the same declarations, with those comments. -/
theorem topLevel_of_mapComments {source other : List Char}
    (h : tokens other = (tokens source).mapComments f) :
    topLevel other = (topLevel source).map (List.map (mapComment f)) := by
  have hrun : Outline.start.run ((tokens source).tokens.map (Token.mapComment f)) =
      (Outline.start.run (tokens source).tokens).map (Outline.mapComments f) :=
    Outline.run_mapComments f .start _
  rw [topLevel_eq, topLevel_eq, h]
  dsimp only [Tokens.mapComments]
  rw [hrun]
  cases Outline.start.run (tokens source).tokens with
  | error error => rfl
  | ok last => exact last.finish_mapComments f _

end Comments

/-! ## Ends of comments and literals -/

def Cursor.withReturns (cursor : Cursor) : Cursor := ⟨Text.withReturns cursor.rest, cursor.line⟩

/-- The end of a token in a text with returns, of which the content is changed as given. -/
def Closed.withReturns {α : Type} (content : α → α) : Closed α → Closed α
  | .ok (found, after) => .ok (content found, after.withReturns)
  | .error cursor => .error cursor.withReturns

theorem lineAfter_return (line : Nat) : lineAfter '\r' line = line :=
  lineAfter_of_ne (by decide) line

/-- A comment ends at the same place with either line end, and keeps the returns in its content.
-/
theorem closeComment_withReturns (s : List Char) (line : Nat) :
    closeComment (withReturns s) line = (closeComment s line).withReturns withReturns := by
  fun_induction closeComment s line with
  | case1 => rfl
  | case2 => rfl
  | case3 c rest line hopen content after hmore ih
  | case4 c rest line hopen cursor hmore ih =>
      rw [hmore] at ih
      by_cases hc : c = '\n'
      · subst hc
        rw [withReturns_newline, closeComment, closeComment, lineAfter_return, ih]
        · rfl
        · simp
        · simp
      · rw [withReturns_cons hc, closeComment, ih]
        · simp [Closed.withReturns, withReturns_cons hc]
        · intro more hstar hslash
          obtain ⟨later, hrest, -⟩ := exists_of_withReturns_eq_cons (by decide) hslash
          exact hopen later hstar hrest

/-- A backslash before a line feed would take the carriage return with it, and no more. -/
def NoEscapedNewline (s : List Char) : Prop := ¬ ['\\', '\n'] <:+: s

instance (s : List Char) : Decidable (NoEscapedNewline s) :=
  inferInstanceAs (Decidable (¬ ['\\', '\n'] <:+: s))

namespace NoEscapedNewline

variable {c : Char} {s : List Char}

theorem tail (h : NoEscapedNewline (c :: s)) : NoEscapedNewline s := fun hmem =>
  h (List.infix_cons hmem)

theorem ne_newline (h : NoEscapedNewline ('\\' :: c :: s)) : c ≠ '\n' := by
  rintro rfl
  exact h (List.prefix_append ['\\', '\n'] s).isInfix

theorem of_append {t : List Char} (h : NoEscapedNewline (t ++ s)) : NoEscapedNewline s :=
  fun hmem => h (hmem.trans (List.suffix_append t s).isInfix)

end NoEscapedNewline

/-- A quoted text ends at the same place with either line end, when it escapes no newline. -/
theorem closeQuote_withReturns {quote : Char} (hquote : quote ≠ '\r' ∧ quote ≠ '\n')
    {s : List Char} (h : NoEscapedNewline s) (line : Nat) :
    closeQuote quote (withReturns s) line = (closeQuote quote s line).withReturns id := by
  fun_induction closeQuote quote s line with
  | case1 => rfl
  | case2 => rfl
  | case3 c rest line ih =>
      rw [withReturns_cons (by decide), withReturns_cons h.ne_newline, closeQuote, ih h.tail.tail]
  | case4 rest line hlast hmore =>
      have hslash : quote ≠ '\\' := ne_backslash hlast hmore
      rw [withReturns_cons hquote.2, closeQuote]
      · simp [Closed.withReturns, Cursor.withReturns]
      · simp [hslash]
      · simp [hslash]
  | case5 rest line hlast hmore hc =>
      -- the newline cuts the literal off; the return before it is passed over
      have hreturn : '\r' ≠ quote := hquote.1.symm
      rw [withReturns_newline, closeQuote, if_neg hreturn, if_neg (by decide), closeQuote,
        if_neg hquote.2.symm, if_pos rfl]
      · rfl
      all_goals simp
  | case6 c rest line hlast hmore hc hline ih =>
      have hslash : c ≠ '\\' := ne_backslash hlast hmore
      rw [withReturns_cons hline, closeQuote, if_neg hc, if_neg hline, ih h.tail]
      · simp [hslash]
      · simp [hslash]

/-- A text block ends at the same place with either line end, when it escapes no newline. -/
theorem closeTextBlock_withReturns {s : List Char} (h : NoEscapedNewline s) (line : Nat) :
    closeTextBlock (withReturns s) line = (closeTextBlock s line).withReturns id := by
  fun_induction closeTextBlock s line with
  | case1 => rfl
  | case2 => rfl
  | case3 c rest line ih =>
      rw [withReturns_cons (by decide), withReturns_cons h.ne_newline, closeTextBlock,
        ih h.tail.tail]
  | case4 rest line => rfl
  | case5 c rest line hlast hmore hopen ih =>
      have hslash : c ≠ '\\' := ne_backslash hlast hmore
      by_cases hc : c = '\n'
      · subst hc
        rw [withReturns_newline, closeTextBlock, closeTextBlock, lineAfter_return, ih h.tail]
        all_goals simp
      · rw [withReturns_cons hc, closeTextBlock, ih h.tail]
        · simp [hslash]
        · simp [hslash]
        · intro more hquote hquotes
          obtain ⟨later, hrest⟩ :=
            exists_of_withReturns_eq_cons_cons (by decide) (by decide) hquotes
          exact hopen later hquote hrest

/-! ## Tokens -/

/-- The body of a comment with returns, unless it has some already. -/
def bodyWithReturns (body : String) : String :=
  if '\r' ∈ body.toList then body else String.ofList (withReturns body.toList)

/-- A step of reading in a text with returns. -/
def Lexed.withReturns : Lexed → Lexed
  | .ok (token, after) => .ok (token.mapComment bodyWithReturns, after.withReturns)
  | .error (kind, cursor) => .error (kind, cursor.withReturns)

theorem Closed.lexed_withReturns {α : Type} {content : α → α} {token : α → Token}
    {closed : Closed α}
    (h : ∀ found after, closed = .ok (found, after) →
      token (content found) = (token found).mapComment bodyWithReturns) (kind : Unterminated) :
    (closed.withReturns content).lexed kind token = (closed.lexed kind token).withReturns := by
  cases closed with
  | error cursor => rfl
  | ok result =>
      obtain ⟨found, after⟩ := result
      simp only [Closed.withReturns, Closed.lexed, Lexed.withReturns, h found after rfl]

theorem Closed.lexed_withReturns_const {α : Type} (closed : Closed α) (content : α → α)
    (kind : Unterminated) {token : Token} (h : token.mapComment bodyWithReturns = token) :
    (closed.withReturns content).lexed kind (fun _ => token) =
      (closed.lexed kind fun _ => token).withReturns :=
  closed.lexed_withReturns (fun _ _ _ => h.symm) kind

section Lex

variable {c : Char} {rest : List Char}

/-- A token other than a comment that a line feed ends is read alike in a text with returns. -/
theorem lexFrom_withReturns (hblank : isBlank c = false) (hreturn : '\r' ∉ rest)
    (hescape : NoEscapedNewline rest) (hline : ∀ more, c = '/' → rest ≠ '/' :: more) (line : Nat) :
    lexFrom c (withReturns rest) line = (lexFrom c rest line).withReturns := by
  -- what does not begin with a character does not begin with it after the change
  have hhead : ∀ {d : Char} {s : List Char}, d ≠ '\r' → (∀ more, s = d :: more → False) →
      ∀ more, withReturns s = d :: more → False := by
    intro d s hd hs more hmore
    obtain ⟨later, hlater, -⟩ := exists_of_withReturns_eq_cons hd hmore
    exact hs later hlater
  conv => rhs; unfold lexFrom
  split
  case h_1 more => exact absurd rfl (hline more rfl)
  case h_2 after => rfl
  case h_3 content hopen =>
    -- the body of a doc comment is the one content that a token keeps
    have hbody : ∀ found after, closeComment content line = .ok (found, after) →
        Token.docComment (String.ofList (withReturns found)) =
          (Token.docComment (String.ofList found)).mapComment bodyWithReturns := by
      intro found after hclose
      rw [eq_append_of_closeComment hclose] at hreturn
      have hfound : '\r' ∉ found := fun hmem => hreturn (by simp [hmem])
      simp [Token.mapComment, bodyWithReturns, hfound]
    rw [← Closed.lexed_withReturns hbody, ← closeComment_withReturns]
    rw [withReturns_cons (by decide), withReturns_cons (by decide), lexFrom]
    exact hhead (by decide) hopen
  case h_4 content hdoc hopen =>
    rw [← Closed.lexed_withReturns_const _ withReturns _ rfl, ← closeComment_withReturns]
    rw [withReturns_cons (by decide), lexFrom]
    · exact fun after hafter => hhead (by decide) hopen _ hafter
    · exact hhead (by decide) hopen
  case h_5 content =>
    rw [← Closed.lexed_withReturns_const _ id _ rfl,
      ← closeTextBlock_withReturns hescape.tail.tail]
    rfl
  case h_6 hopen =>
    rw [← Closed.lexed_withReturns_const _ id _ rfl,
      ← closeQuote_withReturns (by decide) hescape, lexFrom]
    intro more hquotes
    obtain ⟨later, hlater⟩ := exists_of_withReturns_eq_cons_cons (by decide) (by decide) hquotes
    exact hopen later hlater
  case h_7 =>
    rw [← Closed.lexed_withReturns_const _ id _ rfl, ← closeQuote_withReturns (by decide) hescape]
    rfl
  case h_14 hstring hcharacter _ _ _ _ _ _ _ _ _ hblock _ =>
    -- a word or a mark; all other marks follow by computation
    split
    · next hstart =>
        rw [lexFrom_of_startsWord hstart, takeWhile_withReturns (by decide) (by decide),
          dropWhile_withReturns (by decide) (by decide)]
        rfl
    · next hstart =>
        have hslash : c = '/' → ∀ d ∈ (withReturns rest).head?, d ≠ '/' ∧ d ≠ '*' := by
          intro hc d hd
          obtain ⟨more, hmore⟩ := List.head?_eq_some_iff.mp hd
          constructor
          · rintro rfl
            exact hhead (by decide) (fun later => hline later hc) more hmore
          · rintro rfl
            exact hhead (by decide) (fun later => hblock later hc) more hmore
        have hother : markToken c = .other := by
          simp_all [markToken]
        rw [lexFrom_mark ⟨hblank, by simpa using hstart, hstring, hcharacter⟩ hslash, hother]
        rfl
  all_goals rfl

end Lex

/-! ## Source texts -/

theorem Tokens.mapComments_prepend (f : String → String) (read : List Token) (more : Tokens) :
    (more.prepend read).mapComments f =
      (more.mapComments f).prepend (read.map (Token.mapComment f)) := by
  simp [Tokens.mapComments, Tokens.prepend]

/-- A comment that a line feed ends takes the carriage return in. -/
theorem tokensFrom_lineComment_withReturns (s : List Char) (line : Nat) :
    tokensFrom (withReturns ('/' :: '/' :: s)) line =
      (tokensFrom (withReturns (s.dropWhile (· != '\n'))) line).prepend [.comment] := by
  have hlex : lexFrom '/' ('/' :: withReturns s) line =
      .ok (.comment, ⟨(withReturns s).dropWhile (· != '\n'), line⟩) := rfl
  rw [withReturns_cons (by decide), withReturns_cons (by decide),
    tokensFrom_of_lexFrom (by decide) hlex]
  rcases withReturns_dropWhile_newline s with heq | heq
  · rw [heq]
  · rw [heq, tokensFrom_of_isBlank (by decide), lineAfter_return]

/-- With either line end a text has the same tokens, but for the returns in its doc comments. -/
theorem tokensFrom_withReturns {s : List Char} (hreturn : '\r' ∉ s) (hescape : NoEscapedNewline s)
    (line : Nat) :
    tokensFrom (withReturns s) line = (tokensFrom s line).mapComments bodyWithReturns := by
  have hnewline : ∀ {c : Char}, isBlank c = false → c ≠ '\n' := by
    rintro c hblank rfl
    exact absurd hblank (by decide)
  induction s, line using reading_induction with
  | nil line =>
      rw [withReturns_nil, tokensFrom_eq]
      rfl
  | blank c rest line hblank ih =>
      have hrest := ih (List.not_mem_of_not_mem_cons hreturn) hescape.tail
      rw [tokensFrom_of_isBlank hblank, ← hrest]
      by_cases hc : c = '\n'
      · subst hc
        rw [withReturns_newline, tokensFrom_of_isBlank (by decide),
          tokensFrom_of_isBlank (by decide), lineAfter_return]
      · rw [withReturns_cons hc, tokensFrom_of_isBlank hblank]
  | cutOff c rest line kind cursor hblank hlex =>
      have hline : ∀ more, c = '/' → rest ≠ '/' :: more := by
        rintro more rfl rfl
        cases hlex
      have hcut := lexFrom_withReturns hblank (List.not_mem_of_not_mem_cons hreturn) hescape.tail
        hline line
      rw [hlex] at hcut
      rw [withReturns_cons (hnewline hblank), tokensFrom_of_lexFrom_error hblank hcut,
        tokensFrom_of_lexFrom_error hblank hlex]
      rfl
  | token c rest line token after hblank hlex ih =>
      obtain ⟨l, hl, -⟩ := beginsWithLexeme_of_lexFrom hblank hlex
      have hafter := ih (fun hmem => hreturn (hl ▸ List.mem_append_right l.text hmem))
        (NoEscapedNewline.of_append (hl ▸ hescape))
      rw [tokensFrom_of_lexFrom hblank hlex, Tokens.mapComments_prepend, ← hafter]
      -- a comment on a line takes in the return at its end, so it is set apart
      by_cases hcomment : c = '/' ∧ ∃ more, rest = '/' :: more
      · obtain ⟨rfl, more, rfl⟩ := hcomment
        cases hlex
        exact tokensFrom_lineComment_withReturns more line
      · have hline : ∀ more, c = '/' → rest ≠ '/' :: more := fun more hc hrest =>
          hcomment ⟨hc, more, hrest⟩
        have htoken := lexFrom_withReturns hblank (List.not_mem_of_not_mem_cons hreturn)
          hescape.tail hline line
        rw [hlex] at htoken
        rw [withReturns_cons (hnewline hblank), tokensFrom_of_lexFrom hblank htoken]
        rfl

/-- Source text with returns has the same declarations, with returns in their comments. -/
theorem topLevel_withReturns {source : List Char} (hreturn : '\r' ∉ source)
    (hescape : NoEscapedNewline source) :
    topLevel (withReturns source) =
      (topLevel source).map (List.map (mapComment bodyWithReturns)) :=
  topLevel_of_mapComments bodyWithReturns (tokensFrom_withReturns hreturn hescape 1)

end DocSentences.Declaration
