import DocSentences.Declaration.Lexer
import DocSentences.Proofs.Text.Blank

/-!
# Source text as lexemes

A lexeme is a stretch of source text that is read as one: a blank character, a comment, a word, a
literal or a single mark. Lexemes that are written one after the other are cut up again into the
same ones, provided that what follows a lexeme could not belong to it.
-/

namespace DocSentences.Declaration

/-! ## Lexemes -/

/-- Whether a text can be read as one word. -/
def isWord : List Char → Bool
  | [] => false
  | c :: rest => startsWord c && rest.all continuesWord

/-- A keyword or an identifier. -/
structure Word where
  text : List Char
  isWord : isWord text = true
  deriving DecidableEq

def Word.name (w : Word) : String := String.ofList w.text

/-- What can stand between two quotes of the given kind on one line. A backslash takes the next
character with it, be it a quote or the end of the line. -/
inductive IsQuotedText (quote : Char) : List Char → Prop
  | nil : IsQuotedText quote []
  | plain {c : Char} {rest : List Char} (hc : c ≠ '\\' ∧ c ≠ quote ∧ c ≠ '\n')
      (hrest : IsQuotedText quote rest) : IsQuotedText quote (c :: rest)
  | escaped {c : Char} {rest : List Char} (hrest : IsQuotedText quote rest) :
      IsQuotedText quote ('\\' :: c :: rest)

def threeQuotes : List Char := ['"', '"', '"']

/-- What can stand in a text block: outside of escapes, three quotes in a row come only at its
end. -/
inductive IsBlockText : List Char → Prop
  | nil : IsBlockText []
  | plain {c : Char} {rest : List Char} (hc : c ≠ '\\')
      (hopen : ¬ threeQuotes <+: c :: rest ++ threeQuotes) (hrest : IsBlockText rest) :
      IsBlockText (c :: rest)
  | escaped {c : Char} {rest : List Char} (hrest : IsBlockText rest) :
      IsBlockText ('\\' :: c :: rest)

/-- Whether a character is read as one mark, be it a bracket, a dot or an operator. -/
def IsMark (c : Char) : Prop :=
  Text.isBlank c = false ∧ startsWord c = false ∧ c ≠ '"' ∧ c ≠ '\''

instance (c : Char) : Decidable (IsMark c) :=
  inferInstanceAs (Decidable (_ ∧ _))

/-- A stretch of source text that is read as one. -/
inductive Lexeme
  | blank (c : Char) (hblank : Text.isBlank c = true)
  | lineComment (text : List Char) (hline : '\n' ∉ text)
  | blockComment (text : List Char) (hopen : text.head? ≠ some '*')
      (hclose : ¬ ['*', '/'] <:+: text)
  | docComment (body : List Char) (hopen : body.head? ≠ some '/') (hclose : ¬ ['*', '/'] <:+: body)
  | word (w : Word)
  | mark (c : Char) (hmark : IsMark c)
  | stringLiteral (text : List Char) (htext : IsQuotedText '"' text)
  | characterLiteral (text : List Char) (htext : IsQuotedText '\'' text)
  | textBlock (text : List Char) (htext : IsBlockText text)

/-- The token that a mark is. -/
def markToken (c : Char) : Token :=
  if c = '{' then .openBrace
  else if c = '}' then .closeBrace
  else if c = '(' then .openParen
  else if c = ')' then .closeParen
  else if c = ';' then .semicolon
  else if c = '@' then .at
  else .other

namespace Lexeme

/-- How a lexeme is written. -/
def text : Lexeme → List Char
  | blank c _ => [c]
  | lineComment text _ => '/' :: '/' :: text
  | blockComment text _ _ => '/' :: '*' :: (text ++ ['*', '/'])
  | docComment body _ _ => '/' :: '*' :: '*' :: (body ++ ['*', '/'])
  | word w => w.text
  | mark c _ => [c]
  | stringLiteral text _ => '"' :: (text ++ ['"'])
  | characterLiteral text _ => '\'' :: (text ++ ['\''])
  | textBlock text _ => threeQuotes ++ (text ++ threeQuotes)

/-- The token that a lexeme is, unless it is blank. -/
def token? : Lexeme → Option Token
  | blank .. => none
  | lineComment .. | blockComment .. => some .comment
  | docComment body _ _ => some (.docComment (String.ofList body))
  | word w => some (.word w.name)
  | mark c _ => some (markToken c)
  | stringLiteral .. | characterLiteral .. | textBlock .. => some .literal

/-- Whether a lexeme ends where the given text begins, so that none of it could belong to it. -/
def EndsBefore : Lexeme → List Char → Prop
  | lineComment .., rest => ∀ c ∈ rest.head?, c = '\n'
  | word _, rest => ∀ c ∈ rest.head?, continuesWord c = false
  | mark c _, rest => c = '/' → ∀ d ∈ rest.head?, d ≠ '/' ∧ d ≠ '*'
  | stringLiteral text _, rest => text = [] → ∀ c ∈ rest.head?, c ≠ '"'
  | _, _ => True

-- the instances are named: another one, if it is in scope, would try every character there is
instance : (l : Lexeme) → (rest : List Char) → Decidable (l.EndsBefore rest)
  | lineComment .., rest => rest.head?.decidableForallMem
  | word _, rest => rest.head?.decidableForallMem
  | mark .., rest => @forall_prop_decidable _ _ _ fun _ => rest.head?.decidableForallMem
  | stringLiteral .., rest => @forall_prop_decidable _ _ _ fun _ => rest.head?.decidableForallMem
  | blank .., _ | blockComment .., _ | docComment .., _ | characterLiteral .., _
  | textBlock .., _ => .isTrue trivial

end Lexeme

/-- How some lexemes are written. -/
def textOf (lexemes : List Lexeme) : List Char := lexemes.flatMap Lexeme.text

/-- The tokens that some lexemes are. -/
def tokensOf (lexemes : List Lexeme) : List Token := lexemes.filterMap Lexeme.token?

/-- Whether each lexeme ends before what follows it, which after the last one is the given text. -/
def Apart : List Lexeme → List Char → Prop
  | [], _ => True
  | l :: more, rest => l.EndsBefore (textOf more ++ rest) ∧ Apart more rest

instance decidableApart : (lexemes : List Lexeme) → (rest : List Char) →
    Decidable (Apart lexemes rest)
  | [], _ => .isTrue trivial
  | l :: more, rest =>
      have := decidableApart more rest
      inferInstanceAs (Decidable (l.EndsBefore (textOf more ++ rest) ∧ Apart more rest))

@[simp] theorem textOf_nil : textOf [] = [] := rfl

@[simp] theorem textOf_cons (l : Lexeme) (more : List Lexeme) :
    textOf (l :: more) = l.text ++ textOf more := rfl

@[simp] theorem textOf_append (lexemes more : List Lexeme) :
    textOf (lexemes ++ more) = textOf lexemes ++ textOf more :=
  List.flatMap_append

@[simp] theorem tokensOf_nil : tokensOf [] = [] := rfl

theorem tokensOf_cons (l : Lexeme) (more : List Lexeme) :
    tokensOf (l :: more) = l.token?.toList ++ tokensOf more := by
  cases h : l.token? <;> simp [tokensOf, h]

@[simp] theorem tokensOf_append (lexemes more : List Lexeme) :
    tokensOf (lexemes ++ more) = tokensOf lexemes ++ tokensOf more :=
  List.filterMap_append

/-- Lexemes in two groups are apart if each group is, with the text of what follows it. -/
theorem apart_append (lexemes more : List Lexeme) (rest : List Char) :
    Apart (lexemes ++ more) rest ↔ Apart lexemes (textOf more ++ rest) ∧ Apart more rest := by
  induction lexemes with
  | nil => simp [Apart]
  | cons l lexemes ih => simp [Apart, ih, and_assoc]

/-- Of what follows a lexeme only the first character matters. -/
theorem Lexeme.endsBefore_congr {s t : List Char} (h : s.head? = t.head?) (l : Lexeme) :
    l.EndsBefore s ↔ l.EndsBefore t := by
  cases l <;> simp [EndsBefore, h]

/-- Whether lexemes are apart from a text depends on its first character only. -/
theorem apart_congr {s t : List Char} (h : s.head? = t.head?) (lexemes : List Lexeme) :
    Apart lexemes s ↔ Apart lexemes t := by
  induction lexemes with
  | nil => rfl
  | cons l lexemes ih =>
      have hnext : (textOf lexemes ++ s).head? = (textOf lexemes ++ t).head? := by
        rw [List.head?_append, List.head?_append, h]
      rw [Apart, Apart, l.endsBefore_congr hnext, ih]

/-! ## Lines -/

def newlines (s : List Char) : Nat := s.count '\n'

@[simp] theorem newlines_nil : newlines [] = 0 := rfl

@[simp] theorem newlines_append (s t : List Char) : newlines (s ++ t) = newlines s + newlines t :=
  List.count_append

theorem newlines_cons_of_ne {c : Char} (hc : c ≠ '\n') (s : List Char) :
    newlines (c :: s) = newlines s :=
  List.count_cons_of_ne hc

theorem lineAfter_of_ne {c : Char} (hc : c ≠ '\n') (line : Nat) : lineAfter c line = line :=
  if_neg hc

/-- The newlines of a text are those of its first character and of the rest. -/
theorem lineAfter_add_newlines (c : Char) (s : List Char) (line : Nat) :
    lineAfter c line + newlines s = line + newlines (c :: s) := by
  by_cases hc : c = '\n'
  · subst hc
    simp only [lineAfter, if_true, newlines, List.count_cons_self]
    omega
  · rw [lineAfter_of_ne hc, newlines_cons_of_ne hc]

theorem newlines_eq_zero {s : List Char} (h : '\n' ∉ s) : newlines s = 0 :=
  List.count_eq_zero.mpr h

/-! ## Ends of comments and literals -/

/-- A comment is read up to its end, over as many lines as it has newlines. -/
theorem closeComment_append {content : List Char} (hclose : ¬ ['*', '/'] <:+: content)
    (rest : List Char) (line : Nat) :
    closeComment (content ++ '*' :: '/' :: rest) line =
      .ok (content, ⟨rest, line + newlines content⟩) := by
  induction content generalizing line with
  | nil => rfl
  | cons c content ih =>
      have hmore : ¬ ['*', '/'] <:+: content := fun h => hclose (List.infix_cons h)
      have hhere : ∀ after, c = '*' → content ++ '*' :: '/' :: rest ≠ '/' :: after := by
        rintro after rfl heq
        cases content with
        | nil => simp at heq
        | cons d content =>
            obtain ⟨rfl, -⟩ := List.cons.inj heq
            exact hclose (List.prefix_append ['*', '/'] content).isInfix
      rw [List.cons_append, closeComment, ih hmore, lineAfter_add_newlines]
      exact hhere

theorem closeQuote_append {quote : Char} (hquote : quote ≠ '\\') {text : List Char}
    (h : IsQuotedText quote text) (rest : List Char) (line : Nat) :
    closeQuote quote (text ++ quote :: rest) line = .ok ((), ⟨rest, line + newlines text⟩) := by
  induction h generalizing line with
  | nil => simp [closeQuote, hquote]
  | @plain c text hc _ ih =>
      rw [List.cons_append, closeQuote, if_neg hc.2.1, if_neg hc.2.2, ih,
        newlines_cons_of_ne hc.2.2]
      · simp [hc.1]
      · simp [hc.1]
  | @escaped c text _ ih =>
      rw [List.cons_append, List.cons_append, closeQuote, ih, lineAfter_add_newlines,
        newlines_cons_of_ne (c := '\\') (by decide)]

theorem closeTextBlock_append {text : List Char} (h : IsBlockText text) (rest : List Char)
    (line : Nat) :
    closeTextBlock (text ++ threeQuotes ++ rest) line =
      .ok ((), ⟨rest, line + newlines text⟩) := by
  induction h generalizing line with
  | nil => rfl
  | @plain c text hc hopen _ ih =>
      have hhere : ∀ after, c = '"' → text ++ threeQuotes ++ rest ≠ '"' :: '"' :: after := by
        rintro after rfl heq
        -- the delimiter is long enough for the next two characters to lie before the rest
        have hnext : ['"', '"'] <+: text ++ threeQuotes :=
          List.prefix_of_prefix_length_le ⟨after, heq.symm⟩ (List.prefix_append _ rest)
            (by simp [threeQuotes])
        exact hopen (List.cons_prefix_cons.mpr ⟨rfl, hnext⟩)
      rw [List.cons_append, List.cons_append, closeTextBlock, ih, lineAfter_add_newlines]
      · simp [hc]
      · simp [hc]
      · exact hhere
  | @escaped c text _ ih =>
      rw [List.cons_append, List.cons_append, List.cons_append, List.cons_append, closeTextBlock,
        ih, lineAfter_add_newlines, newlines_cons_of_ne (c := '\\') (by decide)]

/-! ## Single lexemes -/

theorem isBlank_of_continuesWord {c : Char} (h : continuesWord c = true) :
    Text.isBlank c = false := by
  refine Bool.eq_false_iff.mpr fun hblank => ?_
  have hmarks : c ≠ '_' ∧ c ≠ '$' := by
    constructor <;> (rintro rfl; exact absurd hblank (by decide))
  simp [continuesWord, Text.isAlphanumeric_of_isBlank hblank, hmarks] at h

theorem continuesWord_of_startsWord {c : Char} (h : startsWord c = true) :
    continuesWord c = true := by
  simp only [startsWord, Bool.or_eq_true] at h
  rcases h with (h | h) | h <;> simp [continuesWord, Text.isAlphanumeric, h]

theorem Word.exists_cons (w : Word) :
    ∃ c text, w.text = c :: text ∧ startsWord c = true ∧ ∀ d ∈ text, continuesWord d = true := by
  obtain ⟨text, hword⟩ := w
  match text, hword with
  | c :: text, hword =>
      obtain ⟨hstart, htext⟩ := Bool.and_eq_true_iff.mp hword
      exact ⟨c, text, rfl, hstart, List.all_eq_true.mp htext⟩

theorem Word.continuesWord_of_mem (w : Word) {c : Char} (h : c ∈ w.text) :
    continuesWord c = true := by
  obtain ⟨d, text, hw, hstart, htext⟩ := w.exists_cons
  rcases List.mem_cons.mp (hw ▸ h) with rfl | hmem
  · exact continuesWord_of_startsWord hstart
  · exact htext c hmem

/-- A word stands on one line. -/
theorem Word.newlines_text (w : Word) : newlines w.text = 0 :=
  newlines_eq_zero fun h => absurd (isBlank_of_continuesWord (w.continuesWord_of_mem h)) (by decide)

theorem lexFrom_of_startsWord {c : Char} (hstart : startsWord c = true) (rest : List Char)
    (line : Nat) :
    lexFrom c rest line = .ok (.word (String.ofList (c :: rest.takeWhile continuesWord)),
      ⟨rest.dropWhile continuesWord, line⟩) := by
  unfold lexFrom
  split
  case h_14 => rw [if_pos hstart]
  -- no mark starts a word
  all_goals exact absurd hstart (by decide)

/-- A word is read up to the first character that does not continue it. -/
theorem lexFrom_word {c : Char} {text : List Char} (hstart : startsWord c = true)
    (htext : ∀ d ∈ text, continuesWord d = true) {rest : List Char}
    (hrest : ∀ d ∈ rest.head?, continuesWord d = false) (line : Nat) :
    lexFrom c (text ++ rest) line = .ok (.word (String.ofList (c :: text)), ⟨rest, line⟩) := by
  have htake : rest.takeWhile continuesWord = [] ∧ rest.dropWhile continuesWord = rest := by
    cases rest with
    | nil => exact ⟨rfl, rfl⟩
    | cons d rest => simp [hrest d rfl]
  rw [lexFrom_of_startsWord hstart, List.takeWhile_append_of_pos htext,
    List.dropWhile_append_of_pos htext, htake.1, htake.2, List.append_nil]

theorem lexFrom_mark {c : Char} (hmark : IsMark c) {rest : List Char}
    (hrest : c = '/' → ∀ d ∈ rest.head?, d ≠ '/' ∧ d ≠ '*') (line : Nat) :
    lexFrom c rest line = .ok (markToken c, ⟨rest, line⟩) := by
  obtain ⟨-, hstart, hstring, hcharacter⟩ := hmark
  unfold lexFrom
  split <;> simp_all [markToken]

/-- A comment on a line is read up to the newline. -/
theorem lexFrom_lineComment {text : List Char} (htext : '\n' ∉ text) {rest : List Char}
    (hrest : ∀ c ∈ rest.head?, c = '\n') (line : Nat) :
    lexFrom '/' ('/' :: text ++ rest) line = .ok (.comment, ⟨rest, line⟩) := by
  have hkept : ∀ c ∈ '/' :: text, (c != '\n') = true := by
    intro c hc
    rcases List.mem_cons.mp hc with rfl | hc
    · rfl
    · exact bne_iff_ne.mpr fun heq => htext (heq ▸ hc)
  have hstop : rest.dropWhile (· != '\n') = rest := by
    cases rest with
    | nil => rfl
    | cons d rest => simp [hrest d rfl]
  have hline : lexFrom '/' ('/' :: text ++ rest) line =
      .ok (.comment, ⟨('/' :: text ++ rest).dropWhile (· != '\n'), line⟩) := rfl
  rw [hline, List.dropWhile_append_of_pos hkept, hstop]

theorem lexFrom_blockComment {text : List Char} (hopen : text.head? ≠ some '*')
    (hclose : ¬ ['*', '/'] <:+: text) (rest : List Char) (line : Nat) :
    lexFrom '/' ('*' :: text ++ '*' :: '/' :: rest) line =
      .ok (.comment, ⟨rest, line + newlines text⟩) := by
  cases text with
  | nil => rfl
  | cons c text =>
      have hc : c ≠ '*' := fun h => hopen (h ▸ rfl)
      have hlex : lexFrom '/' ('*' :: (c :: text) ++ '*' :: '/' :: rest) line =
          (closeComment (c :: text ++ '*' :: '/' :: rest) line).lexed .comment
            fun _ => .comment := by
        simp [lexFrom, hc]
      rw [hlex, closeComment_append hclose]
      rfl

/-- A doc comment is read as one token that keeps its body. -/
theorem lexFrom_docComment {body : List Char} (hopen : body.head? ≠ some '/')
    (hclose : ¬ ['*', '/'] <:+: body) (rest : List Char) (line : Nat) :
    lexFrom '/' ('*' :: '*' :: body ++ '*' :: '/' :: rest) line =
      .ok (.docComment (String.ofList body), ⟨rest, line + newlines body⟩) := by
  have hlex : lexFrom '/' ('*' :: '*' :: body ++ '*' :: '/' :: rest) line =
      (closeComment (body ++ '*' :: '/' :: rest) line).lexed .comment
        fun body => .docComment (String.ofList body) := by
    cases body with
    | nil => rfl
    | cons c body =>
        have hc : c ≠ '/' := fun h => hopen (h ▸ rfl)
        simp [lexFrom, hc]
  rw [hlex, closeComment_append hclose]
  rfl

theorem lexFrom_stringLiteral {text : List Char} (htext : IsQuotedText '"' text) {rest : List Char}
    (hrest : text = [] → ∀ c ∈ rest.head?, c ≠ '"') (line : Nat) :
    lexFrom '"' (text ++ '"' :: rest) line = .ok (.literal, ⟨rest, line + newlines text⟩) := by
  -- the text does not begin with two quotes, so no text block is opened
  have hlex : lexFrom '"' (text ++ '"' :: rest) line =
      (closeQuote '"' (text ++ '"' :: rest) line).lexed .stringLiteral fun _ => .literal := by
    cases htext with
    | nil =>
        cases rest with
        | nil => rfl
        | cons c rest => simp [lexFrom, hrest rfl c rfl]
    | plain hc => simp [lexFrom, hc.2.1]
    | escaped => simp [lexFrom]
  rw [hlex, closeQuote_append (by decide) htext]
  rfl

theorem lexFrom_characterLiteral {text : List Char} (htext : IsQuotedText '\'' text)
    (rest : List Char) (line : Nat) :
    lexFrom '\'' (text ++ '\'' :: rest) line = .ok (.literal, ⟨rest, line + newlines text⟩) := by
  have hlex : lexFrom '\'' (text ++ '\'' :: rest) line =
      (closeQuote '\'' (text ++ '\'' :: rest) line).lexed .characterLiteral fun _ => .literal := by
    simp [lexFrom]
  rw [hlex, closeQuote_append (by decide) htext]
  rfl

theorem lexFrom_textBlock {text : List Char} (htext : IsBlockText text) (rest : List Char)
    (line : Nat) :
    lexFrom '"' ('"' :: '"' :: text ++ threeQuotes ++ rest) line =
      .ok (.literal, ⟨rest, line + newlines text⟩) := by
  have hlex : lexFrom '"' ('"' :: '"' :: text ++ threeQuotes ++ rest) line =
      (closeTextBlock (text ++ threeQuotes ++ rest) line).lexed .textBlock fun _ => .literal := by
    simp [lexFrom]
  rw [hlex, closeTextBlock_append htext]
  rfl

/-! ## Texts of lexemes -/

def Tokens.prepend (tokens : List Token) (more : Tokens) : Tokens :=
  ⟨tokens ++ more.tokens, more.ending⟩

theorem tokensFrom_eq (s : List Char) (line : Nat) :
    tokensFrom s line =
      match skipBlank s line with
      | ⟨[], last⟩ => ⟨[], .complete last⟩
      | ⟨c :: rest, current⟩ =>
          match lexFrom c rest current with
          | .error (kind, cursor) => ⟨[], .cutOff kind cursor.line⟩
          | .ok (token, after) => (tokensFrom after.rest after.line).prepend [token] := by
  rw [tokensFrom]
  split
  · next hskip => rw [hskip]
  · next hskip =>
      rw [hskip]
      dsimp only
      split
      · next hlex => simp only [hlex]
      · next hlex => simp only [hlex, Tokens.prepend, List.singleton_append]

/-- A blank character is passed over, and counted when it is a newline. -/
theorem tokensFrom_of_isBlank {c : Char} (hc : Text.isBlank c = true) (rest : List Char)
    (line : Nat) : tokensFrom (c :: rest) line = tokensFrom rest (lineAfter c line) := by
  rw [tokensFrom_eq, tokensFrom_eq rest, skipBlank, if_pos hc]

/-- A token that can be read comes first, then those of the text after it. -/
theorem tokensFrom_of_lexFrom {c : Char} (hc : Text.isBlank c = false) {rest : List Char}
    {line : Nat} {token : Token} {after : Cursor} (h : lexFrom c rest line = .ok (token, after)) :
    tokensFrom (c :: rest) line = (tokensFrom after.rest after.line).prepend [token] := by
  rw [tokensFrom_eq, skipBlank, if_neg (by simp [hc])]
  simp only [h]

/-- A lexeme is read as the token that it is, and reading goes on after it. -/
theorem tokensFrom_lexeme {l : Lexeme} {rest : List Char} (h : l.EndsBefore rest) (line : Nat) :
    tokensFrom (l.text ++ rest) line =
      (tokensFrom rest (line + newlines l.text)).prepend l.token?.toList := by
  cases l with
  | blank c hblank =>
      rw [Lexeme.text, List.singleton_append, tokensFrom_of_isBlank hblank,
        ← lineAfter_add_newlines]
      rfl
  | lineComment text hline =>
      have hlines : newlines ('/' :: '/' :: text) = 0 := newlines_eq_zero (by simp [hline])
      have hlex := lexFrom_lineComment hline h line
      rw [Lexeme.text, hlines, List.cons_append, tokensFrom_of_lexFrom (by decide) hlex]
      rfl
  | blockComment text hopen hclose =>
      have hlines : newlines ('/' :: '*' :: (text ++ ['*', '/'])) = newlines text := by
        simp [newlines]
      have hlex := lexFrom_blockComment hopen hclose rest line
      rw [Lexeme.text, hlines]
      simpa [Lexeme.token?] using tokensFrom_of_lexFrom (by decide) hlex
  | docComment body hopen hclose =>
      have hlines : newlines ('/' :: '*' :: '*' :: (body ++ ['*', '/'])) = newlines body := by
        simp [newlines]
      have hlex := lexFrom_docComment hopen hclose rest line
      rw [Lexeme.text, hlines]
      simpa [Lexeme.token?] using tokensFrom_of_lexFrom (by decide) hlex
  | word w =>
      obtain ⟨c, text, hw, hstart, htext⟩ := w.exists_cons
      have hlex := lexFrom_word hstart htext h line
      have hblank := isBlank_of_continuesWord (continuesWord_of_startsWord hstart)
      rw [Lexeme.text, w.newlines_text, hw, List.cons_append, tokensFrom_of_lexFrom hblank hlex,
        Lexeme.token?, Word.name, hw]
      rfl
  | mark c hmark =>
      have hline : c ≠ '\n' := by
        rintro rfl
        exact absurd hmark (by decide)
      have hlex := lexFrom_mark hmark h line
      rw [Lexeme.text, newlines_cons_of_ne hline, List.singleton_append,
        tokensFrom_of_lexFrom hmark.1 hlex]
      rfl
  | stringLiteral text htext =>
      have hlines : newlines ('"' :: (text ++ ['"'])) = newlines text := by
        simp [newlines]
      have hlex := lexFrom_stringLiteral htext h line
      rw [Lexeme.text, hlines]
      simpa [Lexeme.token?] using tokensFrom_of_lexFrom (by decide) hlex
  | characterLiteral text htext =>
      have hlines : newlines ('\'' :: (text ++ ['\''])) = newlines text := by
        simp [newlines]
      have hlex := lexFrom_characterLiteral htext rest line
      rw [Lexeme.text, hlines]
      simpa [Lexeme.token?] using tokensFrom_of_lexFrom (by decide) hlex
  | textBlock text htext =>
      have hlines : newlines (threeQuotes ++ (text ++ threeQuotes)) = newlines text := by
        simp [newlines, threeQuotes]
      have hlex := lexFrom_textBlock htext rest line
      rw [Lexeme.text, hlines]
      simpa [threeQuotes, Lexeme.token?] using tokensFrom_of_lexFrom (by decide) hlex

/-- Lexemes that are apart are read as the tokens that they are, and reading goes on after them. -/
theorem tokensFrom_textOf {lexemes : List Lexeme} {rest : List Char} (h : Apart lexemes rest)
    (line : Nat) :
    tokensFrom (textOf lexemes ++ rest) line =
      (tokensFrom rest (line + newlines (textOf lexemes))).prepend (tokensOf lexemes) := by
  induction lexemes generalizing line with
  | nil => rfl
  | cons l more ih =>
      rw [textOf_cons, List.append_assoc, tokensFrom_lexeme h.1, ih h.2, tokensOf_cons,
        newlines_append, Nat.add_assoc]
      simp [Tokens.prepend]

/-- Lexemes that are apart make up a source text that is read as the tokens that they are. -/
theorem tokens_textOf {lexemes : List Lexeme} (h : Apart lexemes []) :
    tokens (textOf lexemes) = ⟨tokensOf lexemes, .complete (1 + newlines (textOf lexemes))⟩ := by
  have hread := tokensFrom_textOf h 1
  rw [List.append_nil] at hread
  rw [tokens, hread, tokensFrom_eq]
  simp [Tokens.prepend, skipBlank]

end DocSentences.Declaration
