import DocSentences.Proofs.Declaration.Brackets
import DocSentences.Proofs.Declaration.Places
import DocSentences.Proofs.Text.Offsets

/-!
# Reading source text by position

A scanner that keeps the whole source text, an index into it and counters of open brackets takes its
tokens out by index and takes closed brackets away from the counters. It finds the same declarations
as reading the text from front to back; so no index ever lies outside the text, and no counter falls
below zero.
-/

namespace DocSentences.Declaration

open Text

section Scanner

variable (chars : List Char)

/-! ## Tokens -/

/-- A token and the place after it, or what is cut off on which line. -/
abbrev LexedAt := Except (Unterminated × Nat) (Token × Place)

/-- The given token, which ends at a place or is cut off. -/
def endingAt (kind : Unterminated) (token : Token) : Except Nat Place → LexedAt
  | .ok last => .ok (token, last)
  | .error line => .error (kind, line)

/-- The comment that begins at a place with a slash and a star. The body of a documentation comment
is taken out by index, from after the second star up to the delimiter at the end. -/
def blockCommentAt? (p : Place) : Option LexedAt :=
  match commentEnd chars ⟨p.index + 2, p.line⟩ with
  | .error line => some (.error (.comment, line))
  | .ok last =>
      if chars[p.index + 2]? = some '*' ∧ chars[p.index + 3]? ≠ some '/' then do
        let bodyEnd ← sub? last.index 2
        let body ← slice? chars (p.index + 2 + 1) bodyEnd
        return .ok (.docComment (String.ofList body), last)
      else some (.ok (.comment, last))

/-- The token that begins at a place with the character `c`, which is not blank. -/
def lexAt? (c : Char) (p : Place) : Option LexedAt :=
  if c = '/' ∧ chars[p.index + 1]? = some '/' then
    some (.ok (.comment, skipWhile chars (· != '\n') p))
  else if c = '/' ∧ chars[p.index + 1]? = some '*' then blockCommentAt? chars p
  else if c = '"' ∧ chars[p.index + 1]? = some '"' ∧ chars[p.index + 2]? = some '"' then
    some (endingAt .textBlock .literal (textBlockEnd chars ⟨p.index + 3, p.line⟩))
  else if c = '"' then
    some (endingAt .stringLiteral .literal (quoteEnd chars '"' (p.next c)))
  else if c = '\'' then
    some (endingAt .characterLiteral .literal (quoteEnd chars '\'' (p.next c)))
  else if startsWord c then do
    let last := skipWhile chars continuesWord p
    let text ← slice? chars p.index last.index
    return .ok (.word (String.ofList text), last)
  else some (.ok (markToken c, p.next c))

/-! ## Agreement on tokens -/

variable {chars} {s : List Char} {index line : Nat}

/-- What a token or its end is, with the rest of the text in the place of an index. -/
def LexedAt.lexed (chars : List Char) (found : LexedAt) :
    Except (Unterminated × Nat) (Token × Cursor) :=
  found.map fun (token, last) => (token, last.cursor chars)

/-- What a step of reading gives, where of a token that is cut off only the line matters. -/
def Lexed.lines (found : Lexed) : Except (Unterminated × Nat) (Token × Cursor) :=
  found.mapError fun (kind, cursor) => (kind, cursor.line)

/-- Where the ends agree, so do the tokens without content. -/
theorem lexed_endingAt {α : Type} {kind : Unterminated} {token : Token} {found : Except Nat Place}
    {closed : Closed α} (h : found.map (·.cursor chars) = closed.after) :
    (endingAt kind token found).lexed chars = (closed.lexed kind fun _ => token).lines := by
  cases found with
  | error line =>
      cases closed with
      | error cursor =>
          obtain rfl : line = cursor.line := Except.error.inj h
          rfl
      | ok => cases h
  | ok last =>
      cases closed with
      | error => cases h
      | ok more =>
          obtain ⟨content, after⟩ := more
          obtain rfl : last.cursor chars = after := Except.ok.inj h
          rfl

/-- The body of a documentation comment lies between its delimiters. -/
theorem blockCommentAt?_docComment {content : List Char} (hopen : content[0]? ≠ some '/')
    (h : chars.drop index = '/' :: '*' :: '*' :: content) (line : Nat) :
    (blockCommentAt? chars ⟨index, line⟩).map (·.lexed chars) =
      some ((closeComment content line).lexed .comment
        fun body => .docComment (String.ofList body)).lines := by
  have hstar : chars[index + 2]? = some '*' := getElem?_of_drop_eq h 2
  have hslash : chars[index + 3]? ≠ some '/' := by
    rw [getElem?_of_drop_eq h 3]
    exact hopen
  have hstart : chars.drop (index + 2) = '*' :: content :=
    drop_add_of_drop_eq (s := ['/', '*']) h
  have hcontent : chars.drop (index + 2 + 1) = content := drop_succ_of_drop_eq hstart
  have hend : commentEnd chars ⟨index + 2, line⟩ =
      (closeComment content line).place (index + 2 + 1) := by
    rw [commentEnd_cons hstart, if_neg (by simp [hopen]), lineAfter_of_ne (by decide),
      commentEnd_eq hcontent]
  unfold blockCommentAt?
  rw [hend]
  cases hclose : closeComment content line with
  | error => rfl
  | ok found =>
      obtain ⟨body, after⟩ := found
      have hsplit : chars.drop (index + 2 + 1) = body ++ '*' :: '/' :: after.rest := by
        rw [hcontent, eq_append_of_closeComment hclose]
      have hbody : slice? chars (index + 2 + 1) (index + 2 + 1 + body.length) = some body :=
        slice?_of_drop_eq (List.getElem?_eq_some_iff.mp hstar).1 hsplit
      have hrest : chars.drop (index + 2 + 1 + body.length + 2) = after.rest :=
        drop_add_of_drop_eq (s := ['*', '/']) (drop_add_of_drop_eq hsplit)
      dsimp only [Closed.place]
      rw [if_pos ⟨hstar, hslash⟩, sub?_of_add_eq rfl]
      simp only [Option.bind_eq_bind, Option.bind_some, hbody, Option.pure_def, Option.map_some]
      simp only [LexedAt.lexed, Except.map, Place.cursor, hrest]
      rfl

/-- A plain comment is the same token by index and by text. -/
theorem blockCommentAt?_comment {content : List Char} (h : chars.drop index = '/' :: '*' :: content)
    (hplain : ¬ (content[0]? = some '*' ∧ content[1]? ≠ some '/')) (line : Nat) :
    (blockCommentAt? chars ⟨index, line⟩).map (·.lexed chars) =
      some ((closeComment content line).lexed .comment fun _ => .comment).lines := by
  have hpeek : chars[index + 2]? = content[0]? := getElem?_of_drop_eq h 2
  have hnext : chars[index + 3]? = content[1]? := getElem?_of_drop_eq h 3
  have hcomment : blockCommentAt? chars ⟨index, line⟩ =
      some (endingAt .comment .comment (commentEnd chars ⟨index + 2, line⟩)) := by
    unfold blockCommentAt?
    dsimp only
    rw [hpeek, hnext]
    cases commentEnd chars ⟨index + 2, line⟩ with
    | error => rfl
    | ok last => exact if_neg hplain
  have hstart : chars.drop (index + 2) = content := drop_add_of_drop_eq (s := ['/', '*']) h
  rw [hcomment, Option.map_some, lexed_endingAt (map_cursor_commentEnd hstart line)]

theorem getElem?_zero_ne {d : Char} (h : ∀ t, s = d :: t → False) : s[0]? ≠ some d := by
  cases s with
  | nil => simp
  | cons c s => exact fun hd => h s (by rw [Option.some.inj hd])

/-- A word is taken out by index. -/
theorem lexAt?_word {c : Char} (hstart : startsWord c = true) (h : chars.drop index = c :: s) :
    (lexAt? chars c ⟨index, line⟩).map (·.lexed chars) =
      some (.ok (.word (String.ofList (c :: s.takeWhile continuesWord)),
        ⟨s.dropWhile continuesWord, line⟩)) := by
  have hother : c ≠ '/' ∧ c ≠ '"' ∧ c ≠ '\'' := by
    refine ⟨?_, ?_, ?_⟩ <;> (rintro rfl; exact absurd hstart (by decide))
  have hcontinues := continuesWord_of_startsWord hstart
  have hlast : (skipWhile chars continuesWord ⟨index, line⟩).cursor chars =
      ⟨s.dropWhile continuesWord, line⟩ := by
    rw [cursor_skipWhile_of_line continuesWord (by decide) h, List.dropWhile_cons_of_pos hcontinues]
  have hindex : (skipWhile chars continuesWord ⟨index, line⟩).index =
      index + (c :: s.takeWhile continuesWord).length := by
    rw [skipWhile_eq continuesWord h, List.takeWhile_cons_of_pos hcontinues]
  have hdrop : chars.drop index =
      (c :: s.takeWhile continuesWord) ++ s.dropWhile continuesWord := by
    rw [h, List.cons_append, List.takeWhile_append_dropWhile]
  have hinside : index < chars.length :=
    (List.getElem?_eq_some_iff.mp (getElem?_of_drop_eq h 0)).1
  have htext : slice? chars index (skipWhile chars continuesWord ⟨index, line⟩).index =
      some (c :: s.takeWhile continuesWord) := by
    rw [hindex, slice?_of_drop_eq (Nat.le_of_lt hinside) hdrop]
  simp [lexAt?, hother, hstart, htext, LexedAt.lexed, Except.map, hlast]

theorem lineAfter_of_not_isBlank {c : Char} (hblank : isBlank c = false) (line : Nat) :
    lineAfter c line = line :=
  lineAfter_of_ne (fun hc => absurd (hc ▸ hblank) (by decide)) line

/-- Any other character is a token of its own. -/
theorem lexAt?_mark {c : Char} (hblank : isBlank c = false) (hstart : startsWord c = false)
    (hquotes : c ≠ '"' ∧ c ≠ '\'') (hslash : c = '/' → s[0]? ≠ some '/' ∧ s[0]? ≠ some '*')
    (h : chars.drop index = c :: s) :
    (lexAt? chars c ⟨index, line⟩).map (·.lexed chars) = some (.ok (markToken c, ⟨s, line⟩)) := by
  have hpeek : chars[index + 1]? = s[0]? := getElem?_of_drop_eq h 1
  have hline := lineAfter_of_not_isBlank hblank line
  have hcomment : ¬ (c = '/' ∧ s[0]? = some '/') ∧ ¬ (c = '/' ∧ s[0]? = some '*') :=
    ⟨fun hc => (hslash hc.1).1 hc.2, fun hc => (hslash hc.1).2 hc.2⟩
  have hlex : lexAt? chars c ⟨index, line⟩ = some (.ok (markToken c, ⟨index + 1, line⟩)) := by
    simp [lexAt?, hpeek, hcomment, hquotes, hstart, Place.next, hline]
  rw [hlex]
  simp only [Option.map_some, LexedAt.lexed, Except.map, Place.cursor, drop_succ_of_drop_eq h]

/-- The token that begins at a place is the one that is read from there. -/
theorem lexAt?_eq {c : Char} (hblank : isBlank c = false) (h : chars.drop index = c :: s)
    (line : Nat) :
    (lexAt? chars c ⟨index, line⟩).map (·.lexed chars) = some (lexFrom c s line).lines := by
  -- the characters that are looked at by index are those at the beginning of the text
  have hpeek : chars[index + 1]? = s[0]? := getElem?_of_drop_eq h 1
  have hnext : chars[index + 2]? = s[1]? := getElem?_of_drop_eq h 2
  have hdrop := drop_succ_of_drop_eq h
  have hline := lineAfter_of_not_isBlank hblank line
  unfold lexFrom
  split
  case h_1 after =>
    have hcomment := cursor_skipWhile_of_line (· != '\n') (by decide) h line
    simp [lexAt?, hpeek, LexedAt.lexed, Except.map, hcomment]
    rfl
  case h_2 after =>
    have hcomment := blockCommentAt?_comment h (by simp) line
    have hlex : lexAt? chars '/' ⟨index, line⟩ = blockCommentAt? chars ⟨index, line⟩ := by
      simp [lexAt?, hpeek]
    rw [hlex, hcomment]
    rfl
  case h_3 content hopen =>
    have hcomment := blockCommentAt?_docComment (getElem?_zero_ne hopen) h line
    simpa [lexAt?, hpeek] using hcomment
  case h_4 content hdoc hopen =>
    have hcomment := blockCommentAt?_comment h (fun hstar => getElem?_zero_ne hopen hstar.1) line
    simpa [lexAt?, hpeek] using hcomment
  case h_5 content =>
    have hblock := map_cursor_textBlockEnd (drop_add_of_drop_eq (s := ['"', '"', '"']) h) line
    simpa [lexAt?, hpeek, hnext] using lexed_endingAt hblock
  case h_6 hopen =>
    have hquote := map_cursor_quoteEnd (show '"' ≠ '\n' by decide) hdrop line
    have hplain := not_two_of_ne hopen
    simpa [lexAt?, hpeek, hnext, hplain, Place.next, hline] using lexed_endingAt hquote
  case h_7 =>
    have hquote := map_cursor_quoteEnd (show '\'' ≠ '\n' by decide) hdrop line
    simpa [lexAt?, Place.next, hline] using lexed_endingAt hquote
  case h_14 hstring hcharacter hopen hclose hopenParen hcloseParen hsemicolon hat hline _ _ hblock
      _ =>
    split
    · next hstart => exact lexAt?_word hstart h
    · next hstart =>
        have hmark : markToken c = .other := by
          simp_all [markToken]
        rw [lexAt?_mark hblank (by simpa using hstart) ⟨hstring, hcharacter⟩ (fun hc =>
          ⟨getElem?_zero_ne fun t => hline t hc, getElem?_zero_ne fun t => hblock t hc⟩) h, hmark]
        rfl
  all_goals
    exact lexAt?_mark hblank (by decide) (by decide) (fun hc => absurd hc (by decide)) h

/-! ## Source texts -/

theorem skipBlank_eq (s : List Char) (line : Nat) :
    skipBlank s line = ⟨s.dropWhile isBlank, line + newlines (s.takeWhile isBlank)⟩ := by
  fun_induction skipBlank s line with
  | case1 => rfl
  | case2 c rest line hc ih =>
      rw [ih, lineAfter_add_newlines, List.dropWhile_cons_of_pos hc, List.takeWhile_cons_of_pos hc]
  | case3 c rest line hc => simp [hc]

theorem cursor_skipWhile_isBlank (p : Place) :
    (skipWhile chars isBlank p).cursor chars = skipBlank (chars.drop p.index) p.line := by
  rw [skipBlank_eq]
  exact cursor_skipWhile isBlank rfl

/-- The character at which blank characters end, with what follows it. -/
theorem skipBlank_of_getElem? {p : Place} {c : Char}
    (hpeek : chars[(skipWhile chars isBlank p).index]? = some c) :
    ∃ s, chars.drop (skipWhile chars isBlank p).index = c :: s ∧ isBlank c = false ∧
      skipBlank (chars.drop p.index) p.line = ⟨c :: s, (skipWhile chars isBlank p).line⟩ := by
  have hcursor := @cursor_skipWhile_isBlank chars p
  obtain ⟨hinside, hc⟩ := List.getElem?_eq_some_iff.mp hpeek
  have hdrop := List.drop_eq_getElem_cons hinside
  rw [hc] at hdrop
  rw [Place.cursor, hdrop] at hcursor
  refine ⟨_, hdrop, ?_, hcursor.symm⟩
  have hrest : c :: _ = (chars.drop p.index).dropWhile isBlank :=
    congrArg Cursor.rest (hcursor.trans (skipBlank_eq _ _))
  have hstop := List.head?_dropWhile_not isBlank (chars.drop p.index)
  rw [← hrest] at hstop
  simpa using hstop

theorem lexFrom_of_lexAt? {p last : Place} {c : Char} {token : Token} (hblank : isBlank c = false)
    (h : chars.drop p.index = c :: s) (hlex : lexAt? chars c p = some (.ok (token, last))) :
    lexFrom c s p.line = .ok (token, last.cursor chars) := by
  have hagree := lexAt?_eq hblank h p.line
  rw [hlex] at hagree
  cases hfrom : lexFrom c s p.line with
  | error => rw [hfrom] at hagree; cases hagree
  | ok found => rw [hfrom] at hagree; cases hagree; rfl

/-- A token that cannot be read by index cannot be read from the text, and is reported on the same
line. -/
theorem lexFrom_of_lexAt?_error {p : Place} {c : Char} {kind : Unterminated}
    (hblank : isBlank c = false) (h : chars.drop p.index = c :: s)
    (hlex : lexAt? chars c p = some (.error (kind, line))) :
    ∃ cursor, lexFrom c s p.line = .error (kind, cursor) ∧ cursor.line = line := by
  have hagree := lexAt?_eq hblank h p.line
  rw [hlex] at hagree
  cases hfrom : lexFrom c s p.line with
  | error found => rw [hfrom] at hagree; cases hagree; exact ⟨_, rfl, rfl⟩
  | ok => rw [hfrom] at hagree; cases hagree

/-- From blank characters to the end of the token after them. -/
theorem length_drop_lexAt? {p last : Place} {c : Char} {token : Token}
    (hpeek : chars[(skipWhile chars isBlank p).index]? = some c)
    (hlex : lexAt? chars c (skipWhile chars isBlank p) = some (.ok (token, last))) :
    (chars.drop last.index).length < (chars.drop p.index).length := by
  obtain ⟨s, hdrop, hblank, hskip⟩ := skipBlank_of_getElem? hpeek
  have hshort := length_skipBlank (chars.drop p.index) p.line
  rw [hskip] at hshort
  have hlast := length_lexFrom (lexFrom_of_lexAt? hblank hdrop hlex)
  exact Nat.lt_of_lt_of_le (Nat.lt_succ_of_le hlast) hshort

variable (chars)

def tokensAt? (p : Place) : Option Tokens :=
  match _h : chars[(skipWhile chars isBlank p).index]? with
  | none => some ⟨[], .complete (skipWhile chars isBlank p).line⟩
  | some c =>
      match _h : lexAt? chars c (skipWhile chars isBlank p) with
      | none => none
      | some (.error (kind, line)) => some ⟨[], .cutOff kind line⟩
      | some (.ok (token, last)) => (tokensAt? last).map (·.prepend [token])
termination_by (chars.drop p.index).length
decreasing_by exact length_drop_lexAt? ‹_› ‹_›

variable {chars}

/-- The tokens found by position are the tokens read from front to back. -/
theorem tokensAt?_eq (p : Place) :
    tokensAt? chars p = some (tokensFrom (chars.drop p.index) p.line) := by
  fun_induction tokensAt? chars p with
  | case1 p hpeek =>
      have hend : skipBlank (chars.drop p.index) p.line =
          ⟨[], (skipWhile chars isBlank p).line⟩ := by
        rw [← cursor_skipWhile_isBlank, Place.cursor,
          List.drop_eq_nil_of_le (List.getElem?_eq_none_iff.mp hpeek)]
      rw [tokensFrom_eq, hend]
  | case2 p c hpeek hlex =>
      obtain ⟨s, hdrop, hblank, -⟩ := skipBlank_of_getElem? hpeek
      have hagree := lexAt?_eq hblank hdrop (skipWhile chars isBlank p).line
      rw [hlex] at hagree
      -- reading by index never misses
      cases hagree
  | case3 p c hpeek kind line hlex =>
      obtain ⟨s, hdrop, hblank, hskip⟩ := skipBlank_of_getElem? hpeek
      obtain ⟨cursor, hfrom, rfl⟩ := lexFrom_of_lexAt?_error hblank hdrop hlex
      rw [tokensFrom_eq, hskip]
      simp only [hfrom]
  | case4 p c hpeek token last hlex ih =>
      obtain ⟨s, hdrop, hblank, hskip⟩ := skipBlank_of_getElem? hpeek
      have hfrom := lexFrom_of_lexAt? hblank hdrop hlex
      rw [ih, tokensFrom_eq (chars.drop p.index), hskip]
      simp only [hfrom, Option.map_some]
      rfl

end Scanner

/-! ## Counters of brackets -/

/-- How many braces and how many parentheses are open around the current token. -/
structure Depths where
  braces : Nat
  parentheses : Nat

/-- The counters that say what the nesting is. -/
def Nesting.depths : Nesting → Depths
  | .topLevel => ⟨0, 0⟩
  | .parentheses deeper => ⟨0, deeper + 1⟩
  | .braces deeper => ⟨deeper + 1, 0⟩

/-- A computation that may find an error, or take away more than there is. -/
abbrev Counted := ExceptT SourceError Option

namespace Outline

/-- An outline as it is outside of brackets. -/
def flat (o : Outline) : Outline := { o with nesting := .topLevel }

/-- After one more token, with the brackets counted beside a flat outline. -/
def count? (state : Depths × Outline) (token : Token) : Counted (Depths × Outline) := do
  let (depths, o) := state
  if 0 < depths.parentheses then
    match token with
    | .openParen => return ({ depths with parentheses := depths.parentheses + 1 }, o)
    | .closeParen =>
        let left ← sub? depths.parentheses 1
        return ({ depths with parentheses := left }, o)
    | _ => return (depths, o)
  else if 0 < depths.braces then
    match token with
    | .openBrace => return ({ depths with braces := depths.braces + 1 }, o)
    | .closeBrace =>
        let left ← sub? depths.braces 1
        return ({ depths with braces := left }, o)
    | _ => return (depths, o)
  else
    let after ← ofExcept (o.step token)
    return (after.nesting.depths, after.flat)

/-- The brackets of an outline as counters beside it. -/
def counted (o : Outline) : Depths × Outline := (o.nesting.depths, o.flat)

/-- Counting a bracket is what a step does to the nesting. -/
theorem count?_counted (o : Outline) (t : Token) :
    count? o.counted t = ExceptT.mk (some ((o.step t).map counted)) := by
  obtain ⟨nesting, pending, expected, afterAt, found⟩ := o
  cases nesting with
  | topLevel =>
      have hcount : count? (counted ⟨.topLevel, pending, expected, afterAt, found⟩) t =
          (do
            let after ← ofExcept (step ⟨.topLevel, pending, expected, afterAt, found⟩ t)
            return counted after) := rfl
      rw [hcount]
      cases step ⟨.topLevel, pending, expected, afterAt, found⟩ t <;> rfl
  | parentheses deeper =>
      cases t with
      | closeParen => cases deeper <;> rfl
      | _ => rfl
  | braces deeper =>
      cases t with
      | closeBrace => cases deeper <;> rfl
      | _ => rfl

/-- Counting brackets is what reading the tokens does to the nesting. -/
theorem foldlM_count? (o : Outline) (tokens : List Token) :
    tokens.foldlM count? o.counted = ExceptT.mk (some ((o.run tokens).map counted)) := by
  induction tokens generalizing o with
  | nil => rfl
  | cons t tokens ih =>
      rw [List.foldlM_cons, count?_counted]
      cases hstep : o.step t with
      | error e => rw [run, List.foldlM_cons, hstep]; rfl
      | ok after =>
          rw [run_cons hstep, ← ih]
          rfl

end Outline

/-- The declarations found, once the text has ended with the given brackets open. -/
def Depths.finish (depths : Depths) (found : List Declaration) (ending : Ending) :
    Except SourceError (List Declaration) :=
  match ending with
  | .cutOff kind line => .error (.unterminated kind line)
  | .complete line =>
      if 0 < depths.parentheses then .error (.unbalancedParentheses line)
      else if depths.braces ≠ 0 then .error .unclosedBlock
      else .ok found.reverse

/-- The counters decide at the end of a text what the nesting does. -/
theorem Outline.finish_counted (o : Outline) (ending : Ending) :
    o.nesting.depths.finish o.found ending = o.finish ending := by
  obtain ⟨nesting, pending, expected, afterAt, found⟩ := o
  cases ending <;> cases nesting <;> rfl

/-- The types declared at the top level of a source text that is read by position. -/
def topLevel? (source : List Char) : Counted (List Declaration) := do
  let ⟨tokens, ending⟩ ← tokensAt? source ⟨0, 1⟩
  let (depths, outline) ← tokens.foldlM Outline.count? Outline.start.counted
  ofExcept (depths.finish outline.found ending)

/-- Reading by position never goes wrong, and finds the same declarations. -/
theorem topLevel?_eq (source : List Char) :
    topLevel? source = ExceptT.mk (some (topLevel source)) := by
  have htokens : tokensAt? source ⟨0, 1⟩ = some (tokens source) := tokensAt?_eq ⟨0, 1⟩
  have hcount := Outline.foldlM_count? Outline.start (tokens source).tokens
  have hread : topLevel? source = (do
      let (depths, outline) ← (tokens source).tokens.foldlM Outline.count? Outline.start.counted
      ofExcept (depths.finish outline.found (tokens source).ending)) := by
    rw [topLevel?, htokens]
    rfl
  rw [hread, hcount, topLevel_eq]
  cases Outline.start.run (tokens source).tokens with
  | error => rfl
  | ok last =>
      refine (congrArg ofExcept (last.finish_counted (tokens source).ending)).trans ?_
      dsimp only [Except.bind]
      cases last.finish (tokens source).ending <;> rfl

end DocSentences.Declaration
