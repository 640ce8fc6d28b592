import DocSentences.Proofs.Declaration.Cutting
import Mathlib.Logic.Relation

/-!
# Reading stride by stride

Source text is read in strides: a character, a backslash with the character that it takes, or a
delimiter. Between two strides there is a moment at which some text is left to read and the line
counter has a value. Reading can be taken up again at each moment that it leads to, and it leads to
the end of the text or to the place where a token is found to be cut off.
-/

namespace DocSentences.Declaration

open Relation

/-! ## Tokens with delimiters -/

namespace Unterminated

/-- What a token begins with. -/
def opening : Unterminated → List Char
  | comment => ['/', '*']
  | stringLiteral => ['"']
  | textBlock => threeQuotes
  | characterLiteral => ['\'']

/-- What a token ends with. -/
def closing : Unterminated → List Char
  | comment => ['*', '/']
  | stringLiteral => ['"']
  | textBlock => threeQuotes
  | characterLiteral => ['\'']

/-- The quote of a literal that has to end on the line on which it begins. -/
def quote? : Unterminated → Option Char
  | stringLiteral => some '"'
  | characterLiteral => some '\''
  | comment | textBlock => none

/-- Whether a character inside a token is read by itself: neither does it begin an escape or the
closing delimiter, nor is the token cut off there. -/
structure IsPlain (kind : Unterminated) (c : Char) (rest : List Char) : Prop where
  noDelimiter : ¬ kind.closing <+: c :: rest
  noEscape : kind ≠ comment → c ≠ '\\'
  noBreak : kind.quote? ≠ none → c ≠ '\n'

/-- The position after a token that is read from the inside, or the line on which it is cut off. -/
def close : Unterminated → List Char → Nat → Except Nat Cursor
  | comment, s, line => (closeComment s line).after
  | stringLiteral, s, line => (closeQuote '"' s line).after
  | textBlock, s, line => (closeTextBlock s line).after
  | characterLiteral, s, line => (closeQuote '\'' s line).after

variable {kind : Unterminated} {c : Char} {rest : List Char}

theorem close_closing (kind : Unterminated) (rest : List Char) (line : Nat) :
    kind.close (kind.closing ++ rest) line = .ok ⟨rest, line⟩ := by
  cases kind <;> rfl

/-- Except in a comment, a character after a backslash is passed over. -/
theorem close_escaped (hkind : kind ≠ comment) (c : Char) (rest : List Char) (line : Nat) :
    kind.close ('\\' :: c :: rest) line = kind.close rest (lineAfter c line) := by
  cases kind with
  | comment => contradiction
  | _ => rfl

/-- A newline cuts a literal off, and the line after it is reported. -/
theorem close_newline (hquote : kind.quote? ≠ none) (rest : List Char) (line : Nat) :
    kind.close ('\n' :: rest) line = .error (line + 1) := by
  cases kind with
  | comment | textBlock => contradiction
  | _ => rfl

/-- The end of the text, or a backslash right before it, cuts a token off on its own line. -/
theorem close_end (hrest : rest = [] ∨ kind ≠ comment ∧ rest = ['\\']) (line : Nat) :
    kind.close rest line = .error line := by
  rcases hrest with rfl | ⟨hkind, rfl⟩
  · cases kind <;> rfl
  · cases kind with
    | comment => contradiction
    | _ => rfl

theorem closeQuote_plain {quote : Char} (hescape : c ≠ '\\') (hquote : c ≠ quote)
    (hbreak : c ≠ '\n') (rest : List Char) (line : Nat) :
    closeQuote quote (c :: rest) line = closeQuote quote rest (lineAfter c line) := by
  rw [closeQuote, if_neg hquote, if_neg hbreak, lineAfter_of_ne hbreak]
  · simp [hescape]
  · simp [hescape]

/-- A plain character is passed over, and counted when it is a newline. -/
theorem close_plain (h : kind.IsPlain c rest) (line : Nat) :
    kind.close (c :: rest) line = kind.close rest (lineAfter c line) := by
  obtain ⟨hdelimiter, hescape, hbreak⟩ := h
  cases kind with
  | comment =>
      have hopen : ∀ more, c = '*' → rest ≠ '/' :: more := by
        rintro more rfl rfl
        exact hdelimiter ⟨more, rfl⟩
      rw [close, close, closeComment]
      · cases closeComment rest (lineAfter c line) <;> rfl
      · exact hopen
  | stringLiteral =>
      have hquote : c ≠ '"' := fun hc => hdelimiter ⟨rest, by rw [hc]; rfl⟩
      rw [close, close, closeQuote_plain (hescape (by decide)) hquote (hbreak (by decide))]
  | textBlock =>
      have hslash : c ≠ '\\' := hescape (by decide)
      have hopen : ∀ more, c = '"' → rest ≠ '"' :: '"' :: more := by
        rintro more rfl rfl
        exact hdelimiter ⟨more, rfl⟩
      rw [close, close, closeTextBlock]
      · simp [hslash]
      · simp [hslash]
      · exact hopen
  | characterLiteral =>
      have hquote : c ≠ '\'' := fun hc => hdelimiter ⟨rest, by rw [hc]; rfl⟩
      rw [close, close, closeQuote_plain (hescape (by decide)) hquote (hbreak (by decide))]

end Unterminated

/-! ## Strides -/

/-- What goes on up to the first character that does not belong to it. -/
inductive Stretch
  | word
  | lineComment

def Stretch.goesOn : Stretch → Char → Bool
  | word => continuesWord
  | lineComment => (· != '\n')

/-- What is being read. -/
inductive Stage
  | between
  | along (stretch : Stretch)
  | inside (kind : Unterminated)
  | cutOff (kind : Unterminated)

/-- How far a source text has been read, and what is being read there. -/
structure Moment where
  stage : Stage
  rest : List Char
  line : Nat

/-- One stride of reading, with what it does to the line counter. -/
inductive Stride : Moment → Moment → Prop
  | blank {c : Char} {rest : List Char} {line : Nat} (hblank : Text.isBlank c = true) :
      Stride ⟨.between, c :: rest, line⟩ ⟨.between, rest, lineAfter c line⟩
  | mark {c : Char} {rest : List Char} {line : Nat} (hmark : IsMark c)
      (hopen : c = '/' → ∀ d ∈ rest.head?, d ≠ '/' ∧ d ≠ '*') :
      Stride ⟨.between, c :: rest, line⟩ ⟨.between, rest, line⟩
  | word {c : Char} {rest : List Char} {line : Nat} (hstart : startsWord c = true) :
      Stride ⟨.between, c :: rest, line⟩ ⟨.along .word, rest, line⟩
  | lineComment {rest : List Char} {line : Nat} :
      Stride ⟨.between, '/' :: '/' :: rest, line⟩ ⟨.along .lineComment, rest, line⟩
  | goesOn {stretch : Stretch} {c : Char} {rest : List Char} {line : Nat}
      (hc : stretch.goesOn c = true) :
      Stride ⟨.along stretch, c :: rest, line⟩ ⟨.along stretch, rest, line⟩
  | stops {stretch : Stretch} {rest : List Char} {line : Nat}
      (hstop : ∀ c ∈ rest.head?, stretch.goesOn c = false) :
      Stride ⟨.along stretch, rest, line⟩ ⟨.between, rest, line⟩
  | opens (kind : Unterminated) {rest : List Char} {line : Nat}
      (hblock : kind = .stringLiteral → ∀ more, rest ≠ '"' :: '"' :: more) :
      Stride ⟨.between, kind.opening ++ rest, line⟩ ⟨.inside kind, rest, line⟩
  | escaped {kind : Unterminated} {c : Char} {rest : List Char} {line : Nat}
      (hkind : kind ≠ .comment) :
      Stride ⟨.inside kind, '\\' :: c :: rest, line⟩ ⟨.inside kind, rest, lineAfter c line⟩
  | plain {kind : Unterminated} {c : Char} {rest : List Char} {line : Nat}
      (hplain : kind.IsPlain c rest) :
      Stride ⟨.inside kind, c :: rest, line⟩ ⟨.inside kind, rest, lineAfter c line⟩
  | closes (kind : Unterminated) {rest : List Char} {line : Nat} :
      Stride ⟨.inside kind, kind.closing ++ rest, line⟩ ⟨.between, rest, line⟩
  | newline {kind : Unterminated} {rest : List Char} {line : Nat} (hquote : kind.quote? ≠ none) :
      Stride ⟨.inside kind, '\n' :: rest, line⟩ ⟨.cutOff kind, rest, line + 1⟩
  | ends {kind : Unterminated} {rest : List Char} {line : Nat}
      (hrest : rest = [] ∨ kind ≠ .comment ∧ rest = ['\\']) :
      Stride ⟨.inside kind, rest, line⟩ ⟨.cutOff kind, [], line⟩

/-- Reading a source text leads to a moment. -/
def Reaches (source : List Char) (m : Moment) : Prop :=
  ReflTransGen Stride ⟨.between, source, 1⟩ m

/-! ## Taking reading up again -/

/-- How the tokens of a text end that is read from a moment on. -/
def Moment.ending (m : Moment) : Ending :=
  match m.stage with
  | .between => (tokensFrom m.rest m.line).ending
  | .along stretch => (tokensFrom (m.rest.dropWhile stretch.goesOn) m.line).ending
  | .inside kind =>
      match kind.close m.rest m.line with
      | .ok after => (tokensFrom after.rest after.line).ending
      | .error line => .cutOff kind line
  | .cutOff kind => .cutOff kind m.line

section Ending

variable {c : Char} {s rest : List Char} {line : Nat}

theorem ending_of_lexFrom {token : Token} {after : Cursor} (hblank : Text.isBlank c = false)
    (h : lexFrom c s line = .ok (token, after)) :
    (tokensFrom (c :: s) line).ending = (tokensFrom after.rest after.line).ending := by
  rw [tokensFrom_of_lexFrom hblank h]
  rfl

/-- From the beginning of a token with delimiters on it is read from the inside. -/
theorem ending_of_lexed {α : Type} {kind : Unterminated} {closed : Closed α} {token : α → Token}
    (hblank : Text.isBlank c = false) (hlex : lexFrom c s line = closed.lexed kind token)
    (hclose : kind.close rest line = closed.after) :
    (tokensFrom (c :: s) line).ending = Moment.ending ⟨.inside kind, rest, line⟩ := by
  simp only [Moment.ending, hclose]
  cases closed with
  | ok found => exact ending_of_lexFrom hblank hlex
  | error cursor =>
      rw [tokensFrom_of_lexFrom_error hblank hlex]
      rfl

theorem ending_comment (rest : List Char) (line : Nat) :
    (tokensFrom ('/' :: '*' :: rest) line).ending =
      Moment.ending ⟨.inside .comment, rest, line⟩ := by
  by_cases hstar : ∃ content, rest = '*' :: content
  · obtain ⟨content, rfl⟩ := hstar
    by_cases hslash : ∃ after, content = '/' :: after
    · obtain ⟨after, rfl⟩ := hslash
      exact ending_of_lexFrom (by decide) rfl
    · have hplain : Unterminated.comment.IsPlain '*' content := by
        refine ⟨?_, fun h => absurd rfl h, fun h => absurd rfl h⟩
        rintro ⟨more, hdelimiter⟩
        exact hslash ⟨more, (List.cons.inj hdelimiter).2.symm⟩
      have hlex : lexFrom '/' ('*' :: '*' :: content) line =
          (closeComment content line).lexed .comment
            fun body => .docComment (String.ofList body) := by
        rw [lexFrom]
        exact fun more hmore => hslash ⟨more, hmore⟩
      exact ending_of_lexed (by decide) hlex (Unterminated.close_plain hplain line)
  · have hlex : lexFrom '/' ('*' :: rest) line =
        (closeComment rest line).lexed .comment fun _ => .comment := by
      rw [lexFrom]
      · exact fun more hmore => hstar ⟨_, hmore⟩
      · exact fun more hmore => hstar ⟨_, hmore⟩
    exact ending_of_lexed (by decide) hlex rfl

/-- A literal that is begun ends as the inside of a literal. -/
theorem ending_opening {kind : Unterminated}
    (hblock : kind = .stringLiteral → ∀ more, rest ≠ '"' :: '"' :: more) (line : Nat) :
    (tokensFrom (kind.opening ++ rest) line).ending =
      Moment.ending ⟨.inside kind, rest, line⟩ := by
  cases kind with
  | comment => exact ending_comment rest line
  | stringLiteral =>
      have hlex : lexFrom '"' rest line =
          (closeQuote '"' rest line).lexed .stringLiteral fun _ => .literal := by
        rw [lexFrom]
        exact hblock rfl
      exact ending_of_lexed (by decide) hlex rfl
  | textBlock =>
      have hlex : lexFrom '"' ('"' :: '"' :: rest) line =
          (closeTextBlock rest line).lexed .textBlock fun _ => .literal := rfl
      exact ending_of_lexed (by decide) hlex rfl
  | characterLiteral =>
      have hlex : lexFrom '\'' rest line =
          (closeQuote '\'' rest line).lexed .characterLiteral fun _ => .literal := rfl
      exact ending_of_lexed (by decide) hlex rfl

end Ending

/-- A stride makes no difference to the end. -/
theorem Stride.ending_eq {m n : Moment} (h : Stride m n) : m.ending = n.ending := by
  cases h with
  | blank hblank => exact congrArg Tokens.ending (tokensFrom_of_isBlank hblank _ _)
  | mark hmark hopen => exact ending_of_lexFrom hmark.1 (lexFrom_mark hmark hopen _)
  | word hstart =>
      have hblank := isBlank_of_continuesWord (continuesWord_of_startsWord hstart)
      exact ending_of_lexFrom hblank (lexFrom_of_startsWord hstart _ _)
  | @lineComment rest line =>
      -- reading passes over the whole comment, the stride over its two slashes only
      have hlex : lexFrom '/' ('/' :: rest) line =
          .ok (.comment, ⟨rest.dropWhile (· != '\n'), line⟩) := rfl
      exact ending_of_lexFrom (by decide) hlex
  | goesOn hc =>
      simp only [Moment.ending]
      rw [List.dropWhile_cons_of_pos hc]
  | @stops stretch rest line hstop =>
      have hsame : rest.dropWhile stretch.goesOn = rest := by
        cases rest with
        | nil => rfl
        | cons c rest => exact List.dropWhile_cons_of_neg (by simp [hstop c rfl])
      simp only [Moment.ending, hsame]
  | opens kind hblock => exact ending_opening hblock _
  | escaped hkind => simp only [Moment.ending, Unterminated.close_escaped hkind]
  | plain hplain => simp only [Moment.ending, Unterminated.close_plain hplain]
  | closes kind => simp only [Moment.ending, Unterminated.close_closing]
  | newline hquote => simp only [Moment.ending, Unterminated.close_newline hquote]
  | ends hrest => simp only [Moment.ending, Unterminated.close_end hrest]

/-- Reading can be taken up again at any moment to which it leads. -/
theorem Reaches.ending_eq {source : List Char} {m : Moment} (h : Reaches source m) :
    m.ending = (tokens source).ending := by
  induction h with
  | refl => rfl
  | tail _ hstride ih => rw [← hstride.ending_eq, ih]

/-! ## Going on to the end -/

/-- The last moment of reading, at the end of a text or where a token is cut off. -/
inductive Moment.EndsWith : Moment → Ending → Prop
  | complete {line : Nat} : EndsWith ⟨.between, [], line⟩ (.complete line)
  | cutOff {kind : Unterminated} {rest : List Char} {line : Nat} :
      EndsWith ⟨.cutOff kind, rest, line⟩ (.cutOff kind line)

/-- A moment without a stride ends as it says. -/
theorem Moment.EndsWith.ending_eq {m : Moment} {ending : Ending} (h : m.EndsWith ending) :
    m.ending = ending := by
  cases h with
  | complete =>
      simp only [Moment.ending]
      rw [tokensFrom_eq]
      rfl
  | cutOff => rfl

/-- Between tokens there is a stride while anything is left. -/
theorem exists_stride_between (c : Char) (rest : List Char) (line : Nat) :
    ∃ n, Stride ⟨.between, c :: rest, line⟩ n := by
  by_cases hblank : Text.isBlank c = true
  · exact ⟨_, .blank hblank⟩
  by_cases hstart : startsWord c = true
  · exact ⟨_, .word hstart⟩
  by_cases hstring : c = '"'
  · subst hstring
    by_cases hblock : ∃ more, rest = '"' :: '"' :: more
    · obtain ⟨more, rfl⟩ := hblock
      exact ⟨_, .opens .textBlock fun h => absurd h (by decide)⟩
    · exact ⟨_, .opens .stringLiteral fun _ more hmore => hblock ⟨more, hmore⟩⟩
  by_cases hcharacter : c = '\''
  · subst hcharacter
    exact ⟨_, .opens .characterLiteral fun h => absurd h (by decide)⟩
  -- a slash begins a comment or is a mark
  by_cases hline : c = '/' ∧ ∃ more, rest = '/' :: more
  · obtain ⟨rfl, more, rfl⟩ := hline
    exact ⟨_, .lineComment⟩
  by_cases hcomment : c = '/' ∧ ∃ more, rest = '*' :: more
  · obtain ⟨rfl, more, rfl⟩ := hcomment
    exact ⟨_, .opens .comment fun h => absurd h (by decide)⟩
  refine ⟨_, .mark ⟨by simpa using hblank, by simpa using hstart, hstring, hcharacter⟩ ?_⟩
  intro hc d hd
  obtain ⟨more, rfl⟩ := List.head?_eq_some_iff.mp hd
  constructor
  · rintro rfl
    exact hline ⟨hc, more, rfl⟩
  · rintro rfl
    exact hcomment ⟨hc, more, rfl⟩

/-- Inside of a token there always is a stride, even where the token is cut off. -/
theorem exists_stride_inside (kind : Unterminated) (rest : List Char) (line : Nat) :
    ∃ n, Stride ⟨.inside kind, rest, line⟩ n := by
  by_cases hend : rest = [] ∨ kind ≠ .comment ∧ rest = ['\\']
  · exact ⟨_, .ends hend⟩
  obtain ⟨hsome, hmore⟩ := not_or.mp hend
  obtain ⟨c, rest, rfl⟩ := List.exists_cons_of_ne_nil hsome
  by_cases hescape : kind ≠ .comment ∧ c = '\\'
  · obtain ⟨hkind, rfl⟩ := hescape
    have hnext : rest ≠ [] := fun hnil => hmore ⟨hkind, by rw [hnil]⟩
    obtain ⟨d, rest, rfl⟩ := List.exists_cons_of_ne_nil hnext
    exact ⟨_, .escaped hkind⟩
  by_cases hclosing : kind.closing <+: c :: rest
  · obtain ⟨more, heq⟩ := hclosing
    rw [← heq]
    exact ⟨_, .closes kind⟩
  by_cases hbreak : kind.quote? ≠ none ∧ c = '\n'
  · obtain ⟨hquote, rfl⟩ := hbreak
    exact ⟨_, .newline hquote⟩
  exact ⟨_, .plain ⟨hclosing, fun hkind hc => hescape ⟨hkind, hc⟩,
    fun hquote hc => hbreak ⟨hquote, hc⟩⟩⟩

/-- Reading goes on from every moment but the last. -/
theorem exists_stride (m : Moment) : (∃ n, Stride m n) ∨ ∃ ending, m.EndsWith ending := by
  obtain ⟨stage, rest, line⟩ := m
  cases stage with
  | between =>
      cases rest with
      | nil => exact .inr ⟨_, .complete⟩
      | cons c rest => exact .inl (exists_stride_between c rest line)
  | along stretch =>
      by_cases hstop : ∀ c ∈ rest.head?, stretch.goesOn c = false
      · exact .inl ⟨_, .stops hstop⟩
      · obtain ⟨c, hc, hgoesOn⟩ := by simpa using hstop
        obtain ⟨more, rfl⟩ := List.head?_eq_some_iff.mp hc
        exact .inl ⟨_, .goesOn hgoesOn⟩
  | inside kind => exact .inl (exists_stride_inside kind rest line)
  | cutOff kind => exact .inr ⟨_, .cutOff⟩

/-- What is left to do: a stride that reads nothing leads out of a word, comment or literal. -/
def Moment.effort (m : Moment) : Nat :=
  2 * m.rest.length +
    match m.stage with
    | .along _ | .inside _ => 1
    | .between | .cutOff _ => 0

/-- Every stride leaves less to do. -/
theorem Stride.effort_lt {m n : Moment} (h : Stride m n) : n.effort < m.effort := by
  cases h with
  | opens kind => cases kind <;> simp [Moment.effort, Unterminated.opening, threeQuotes] <;> omega
  | closes kind => cases kind <;> simp [Moment.effort, Unterminated.closing, threeQuotes] <;> omega
  | _ => simp [Moment.effort] <;> omega

/-- From every moment, strides lead to an end. -/
theorem exists_strides_endsWith (m : Moment) :
    ∃ last ending, ReflTransGen Stride m last ∧ last.EndsWith ending := by
  induction heffort : m.effort using Nat.strongRecOn generalizing m with
  | ind effort ih =>
      rcases exists_stride m with ⟨n, hstride⟩ | ⟨ending, hends⟩
      · obtain ⟨last, ending, hlast, hends⟩ := ih _ (heffort ▸ hstride.effort_lt) n rfl
        exact ⟨last, ending, .head hstride hlast, hends⟩
      · exact ⟨m, ending, .refl, hends⟩

/-- Reading leads to the end that the tokens of the text have. -/
theorem exists_reaches_endsWith (source : List Char) :
    ∃ last, Reaches source last ∧ last.EndsWith (tokens source).ending := by
  obtain ⟨last, ending, hlast, hends⟩ := exists_strides_endsWith ⟨.between, source, 1⟩
  have hreaches : Reaches source last := hlast
  have hsame : ending = (tokens source).ending := hends.ending_eq.symm.trans hreaches.ending_eq
  exact ⟨last, hreaches, hsame ▸ hends⟩

end DocSentences.Declaration
