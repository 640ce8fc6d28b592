import DocSentences.Proofs.Declaration.Acceptance
import DocSentences.Proofs.Declaration.Layout
import DocSentences.Proofs.Declaration.LineCount
import Mathlib

/-!
# Literals that are cut off

A literal that has to end on its line is cut off by a line feed that is not escaped, or by the end
of the text. Either way the line on which reading stops is reported. At the end of the text this is
the last line. But a line feed has been read before reading stops, so for a literal that it cuts off
the line after the cut is reported.
-/

namespace DocSentences.Declaration

/-! ## Open literals -/

/-- What cuts an open literal off: a line feed, or the end of the text, be it right after a
backslash. -/
inductive CutsOff : List Char → Prop
  | newline (after : List Char) : CutsOff ('\n' :: after)
  | nothing : CutsOff []
  | backslash : CutsOff ['\\']

/-- A text leaves a literal open if it is made of lexemes, the quote of the literal and something
that can stand after it. -/
def LeavesOpen (kind : Unterminated) (before : List Char) : Prop :=
  ∃ lexemes quote text, before = textOf lexemes ++ quote :: text ∧ Apart lexemes [quote] ∧
    kind.quote? = some quote ∧ IsQuotedText quote text

/-- A literal that is left open is left open as well after one more lexeme in front. -/
theorem LeavesOpen.lexeme {kind : Unterminated} {before tail : List Char}
    (h : LeavesOpen kind before) {l : Lexeme} (hl : l.EndsBefore (before ++ tail)) :
    LeavesOpen kind (l.text ++ before) := by
  obtain ⟨lexemes, quote, text, rfl, hapart, hquote, htext⟩ := h
  refine ⟨l :: lexemes, quote, text, by simp, ⟨?_, hapart⟩, hquote, htext⟩
  refine (l.endsBefore_congr ?_).mp hl
  cases hlexemes : textOf lexemes <;> rfl

/-! ## Reading up to the cut -/

section Reading

variable {quote : Char} {text tail : List Char}

/-- A literal that is cut off is reported on the line reached with what cuts it off. -/
theorem closeQuote_cutOff (hquote : quote ≠ '\\' ∧ quote ≠ '\n') (htext : IsQuotedText quote text)
    (htail : CutsOff tail) (line : Nat) :
    closeQuote quote (text ++ tail) line =
      .error ⟨tail.drop 1, line + newlines (text ++ tail.take 1)⟩ := by
  induction htext generalizing line with
  | nil =>
      cases htail with
      | newline after =>
          rw [List.nil_append, closeQuote, if_neg hquote.2.symm, if_pos rfl]
          · rfl
          · simp
          · simp
      | nothing => rfl
      | backslash => rfl
  | @plain c text hc _ ih =>
      rw [List.cons_append, closeQuote, if_neg hc.2.1, if_neg hc.2.2, ih, List.cons_append,
        newlines_cons_of_ne hc.2.2]
      · simp [hc.1]
      · simp [hc.1]
  | @escaped c text _ ih =>
      rw [List.cons_append, List.cons_append, closeQuote, ih, lineAfter_add_newlines,
        List.cons_append, List.cons_append, newlines_cons_of_ne (c := '\\') (by decide)]

/-- A literal that is not closed is a quoted text that something cuts off. -/
theorem exists_of_closeQuote_error {s : List Char} {line : Nat} {cursor : Cursor}
    (h : closeQuote quote s line = .error cursor) :
    ∃ text tail, s = text ++ tail ∧ IsQuotedText quote text ∧ CutsOff tail := by
  fun_induction closeQuote quote s line with
  | case1 => exact ⟨[], [], rfl, .nil, .nothing⟩
  | case2 => exact ⟨[], ['\\'], rfl, .nil, .backslash⟩
  | case3 c rest line ih =>
      obtain ⟨text, tail, rfl, htext, htail⟩ := ih h
      exact ⟨'\\' :: c :: text, tail, rfl, .escaped htext, htail⟩
  | case4 => simp at h
  | case5 rest => exact ⟨[], '\n' :: rest, rfl, .nil, .newline rest⟩
  | case6 c rest line hlast hmore hquote hline ih =>
      obtain ⟨text, tail, rfl, htext, htail⟩ := ih h
      exact ⟨c :: text, tail, rfl, .plain ⟨ne_backslash hlast hmore, hquote, hline⟩ htext, htail⟩

variable {kind : Unterminated}

/-- Reading a token stops where the literal it begins is cut off. -/
theorem lexFrom_cutOff (hkind : kind.quote? = some quote) (htext : IsQuotedText quote text)
    (htail : CutsOff tail) (line : Nat) :
    lexFrom quote (text ++ tail) line =
      .error (kind, ⟨tail.drop 1, line + newlines (text ++ tail.take 1)⟩) := by
  cases kind with
  | stringLiteral =>
      obtain rfl : '"' = quote := Option.some.inj hkind
      -- neither the text nor what cuts it off begins with a quote, so no text block is opened
      have hlex : lexFrom '"' (text ++ tail) line =
          (closeQuote '"' (text ++ tail) line).lexed .stringLiteral fun _ => .literal := by
        cases htext with
        | nil => cases htail <;> rfl
        | plain hc => simp [lexFrom, hc.2.1]
        | escaped => simp [lexFrom]
      rw [hlex, closeQuote_cutOff (by decide) htext htail]
      rfl
  | characterLiteral =>
      obtain rfl : '\'' = quote := Option.some.inj hkind
      have hlex : lexFrom '\'' (text ++ tail) line =
          (closeQuote '\'' (text ++ tail) line).lexed .characterLiteral fun _ => .literal := by
        simp [lexFrom]
      rw [hlex, closeQuote_cutOff (by decide) htext htail]
      rfl
  | comment | textBlock => cases hkind

theorem isBlank_of_quote? (hkind : kind.quote? = some quote) : Text.isBlank quote = false := by
  cases kind <;> cases hkind <;> decide

/-- Reading stops after the first character of what cuts a literal off, and there its line is
taken. -/
theorem ending_of_leavesOpen {before : List Char} (h : LeavesOpen kind before)
    (htail : CutsOff tail) :
    (tokens (before ++ tail)).ending = .cutOff kind (1 + newlines (before ++ tail.take 1)) := by
  obtain ⟨lexemes, quote, text, rfl, hapart, hkind, htext⟩ := h
  have hblank := isBlank_of_quote? hkind
  have hline : quote ≠ '\n' := fun hquote => absurd (hquote ▸ hblank) (by decide)
  have hhead : [quote].head? = (quote :: (text ++ tail)).head? := rfl
  have hnext := (apart_congr hhead lexemes).mp hapart
  have hcut := tokensFrom_of_lexFrom_error hblank
    (lexFrom_cutOff hkind htext htail (1 + newlines (textOf lexemes)))
  have hsplit : textOf lexemes ++ quote :: text ++ tail =
      textOf lexemes ++ quote :: (text ++ tail) := by
    simp
  have hlines : newlines (textOf lexemes ++ quote :: text ++ tail.take 1) =
      newlines (textOf lexemes) + newlines (text ++ tail.take 1) := by
    rw [List.append_assoc, List.cons_append, newlines_append, newlines_cons_of_ne hline]
  rw [hsplit, hlines, ← Nat.add_assoc, tokens, tokensFrom_textOf hnext, hcut]
  rfl

end Reading

section Sources

variable {kind : Unterminated} {source : List Char} {line : Nat}

/-- A token with delimiters fails only as its own kind, where it is not closed. -/
theorem lexed_eq_error {α : Type} {found : Unterminated} {token : α → Token} {closed : Closed α}
    {cursor : Cursor} (h : closed.lexed kind token = .error (found, cursor)) :
    found = kind ∧ closed = .error cursor := by
  cases closed with
  | ok => simp [Closed.lexed] at h
  | error =>
      obtain ⟨rfl, rfl⟩ := by simpa [Closed.lexed] using h
      exact ⟨rfl, rfl⟩

/-- A literal is cut off only where its closing quote is looked for. -/
theorem lexFrom_eq_error {c : Char} {rest : List Char} {cursor : Cursor}
    (h : lexFrom c rest line = .error (kind, cursor)) (hkind : kind.quote? ≠ none) :
    kind.quote? = some c ∧ closeQuote c rest line = .error cursor := by
  unfold lexFrom at h
  split at h
  case h_3 | h_4 | h_5 =>
    obtain ⟨rfl, -⟩ := lexed_eq_error h
    exact absurd rfl hkind
  case h_6 | h_7 =>
    obtain ⟨rfl, hclose⟩ := lexed_eq_error h
    exact ⟨rfl, hclose⟩
  case h_14 => split at h <;> cases h
  all_goals cases h

/-- Tokens end with a literal that is cut off only if it is left open before. -/
theorem exists_leavesOpen_of_ending {s : List Char} {last : Nat}
    (h : (tokensFrom s line).ending = .cutOff kind last) (hkind : kind.quote? ≠ none) :
    ∃ before tail, s = before ++ tail ∧ LeavesOpen kind before ∧ CutsOff tail := by
  induction s, line using reading_induction with
  | nil line =>
      rw [tokensFrom_eq] at h
      cases h
  | blank c rest line hblank ih =>
      rw [tokensFrom_of_isBlank hblank] at h
      obtain ⟨before, tail, rfl, hopen, htail⟩ := ih h
      have hends : (Lexeme.blank c hblank).EndsBefore (before ++ tail) := trivial
      exact ⟨c :: before, tail, rfl, hopen.lexeme hends, htail⟩
  | cutOff c rest line found cursor hblank hlex =>
      rw [tokensFrom_of_lexFrom_error hblank hlex] at h
      obtain ⟨rfl, -⟩ := Ending.cutOff.inj h
      obtain ⟨hquote, hclose⟩ := lexFrom_eq_error hlex hkind
      obtain ⟨text, tail, rfl, htext, htail⟩ := exists_of_closeQuote_error hclose
      exact ⟨c :: text, tail, rfl, ⟨[], c, text, rfl, trivial, hquote, htext⟩, htail⟩
  | token c rest line token after hblank hlex ih =>
      rw [tokensFrom_of_lexFrom hblank hlex] at h
      obtain ⟨before, tail, hrest, hopen, htail⟩ := ih h
      obtain ⟨l, hl, hends⟩ := beginsWithLexeme_of_lexFrom hblank hlex
      rw [hrest] at hl hends
      exact ⟨l.text ++ before, tail, by rw [List.append_assoc, hl], hopen.lexeme hends, htail⟩

/-! ## Failing texts -/

theorem Outline.step_eq_error {o : Outline} {t : Token} {error : SourceError}
    (h : o.step t = .error error) : error = .unbalancedBrace := by
  obtain ⟨nesting, pending, expected, afterAt, found⟩ := o
  cases nesting with
  | topLevel =>
      cases t with
      | closeBrace =>
          cases h
          rfl
      | _ => cases h
  | parentheses deeper => cases t <;> cases deeper <;> cases h
  | braces deeper => cases t <;> cases deeper <;> cases h

/-- Tokens are refused only for a brace that nothing opens. -/
theorem Outline.run_eq_error {o : Outline} {tokens : List Token} {error : SourceError}
    (h : o.run tokens = .error error) : error = .unbalancedBrace := by
  induction tokens generalizing o with
  | nil => cases h
  | cons t tokens ih =>
      cases hstep : o.step t with
      | error found =>
          rw [run, List.foldlM_cons, hstep] at h
          cases h
          exact step_eq_error hstep
      | ok next =>
          rw [run_cons hstep] at h
          exact ih h

theorem ending_of_topLevel (h : topLevel source = .error (.unterminated kind line)) :
    (tokens source).ending = .cutOff kind line := by
  rw [topLevel_eq] at h
  cases hrun : Outline.start.run (tokens source).tokens with
  | error error =>
      rw [hrun] at h
      obtain rfl : error = .unterminated kind line := Except.error.inj h
      cases Outline.run_eq_error hrun
  | ok last =>
      rw [hrun] at h
      obtain ⟨nesting, pending, expected, afterAt, found⟩ := last
      cases hending : (tokens source).ending with
      | cutOff =>
          rw [hending] at h
          cases h
          rfl
      | complete =>
          rw [hending] at h
          cases nesting <;> cases h

/-- A source text has no declarations because a literal, which is open after `before`, is cut off
there by `tail`. -/
structure FailsAt (source : List Char) (kind : Unterminated) (before tail : List Char) : Prop where
  written : before ++ tail = source
  leavesOpen : LeavesOpen kind before
  cutsOff : CutsOff tail
  fails : ∃ line, topLevel source = .error (.unterminated kind line)

/-- A source text is reported with a token that is cut off on the given line. -/
def Reports (source : List Char) (kind : Unterminated) (line : Nat) : Prop :=
  ∃ error, topLevel source = .error error ∧ error.message = s!"{kind.message} (line {line})"

/-- The message leaves no doubt about the line. -/
theorem Reports.line_eq {other : Nat} (h : Reports source kind line)
    (hother : Reports source kind other) : line = other := by
  obtain ⟨error, herror, hmessage⟩ := h
  obtain ⟨same, hsame, hsays⟩ := hother
  obtain rfl : error = same := Except.error.inj (herror.symm.trans hsame)
  have hline := hmessage.symm.trans hsays
  simp only [String.append_left_inj, String.append_right_inj] at hline
  exact Nat.repr_inj.mp hline

/-- A text that fails at a literal reports the line reached with what cuts it off. -/
theorem FailsAt.reports {before tail : List Char} (h : FailsAt source kind before tail) :
    Reports source kind (1 + newlines (before ++ tail.take 1)) := by
  obtain ⟨rfl, hopen, htail, found, hfound⟩ := h
  have hending := (ending_of_topLevel hfound).symm.trans (ending_of_leavesOpen hopen htail)
  obtain ⟨-, rfl⟩ := Ending.cutOff.inj hending
  exact ⟨_, hfound, rfl⟩

/-- Every reported literal is begun somewhere in the text and cut off there. -/
theorem exists_failsAt (h : topLevel source = .error (.unterminated kind line))
    (hkind : kind.quote? ≠ none) : ∃ before tail, FailsAt source kind before tail := by
  obtain ⟨before, tail, rfl, hopen, htail⟩ :=
    exists_leavesOpen_of_ending (ending_of_topLevel h) hkind
  exact ⟨before, tail, rfl, hopen, htail, line, h⟩

/-- A literal that is cut off by a newline is reported one line too late. -/
theorem FailsAt.reports_newline {before after : List Char}
    (h : FailsAt source kind before ('\n' :: after)) :
    Reports source kind (1 + newlines before + 1) := by
  have hreports := h.reports
  rwa [newlines_append, ← Nat.add_assoc] at hreports

/-- Lines are counted, and a literal that a line feed cuts off is reported with the line that this
line feed ends. -/
structure ReportsCutLines (source : List Char) : Prop where
  counted : CountsLines source
  reported : ∀ kind before after, FailsAt source kind before ('\n' :: after) →
    Reports source kind (1 + newlines before)

/-- Lines are always counted. But a line feed that cuts a literal off is counted before the line is
reported, so that it is reported with the line after its own, and never with its own. A literal that
is cut off by the end of the text is reported with the last line. -/
theorem reportsCutLines_iff (source : List Char) :
    (ReportsCutLines source ↔ ∀ kind before after, ¬ FailsAt source kind before ('\n' :: after)) ∧
    CountsLines source ∧
    (∀ kind before after, FailsAt source kind before ('\n' :: after) →
      Reports source kind (1 + newlines before + 1)) ∧
    (∀ kind line, kind.quote? ≠ none → topLevel source = .error (.unterminated kind line) →
      (∃ before after, FailsAt source kind before ('\n' :: after)) ∨
        line = 1 + newlines source) := by
  refine ⟨⟨?_, ?_⟩, countsLines source, fun _ _ _ h => h.reports_newline, ?_⟩
  · intro h kind before after hfails
    have hsame := (h.reported kind before after hfails).line_eq hfails.reports_newline
    omega
  · intro hnone
    exact ⟨countsLines source, fun kind before after h => absurd h (hnone kind before after)⟩
  · intro kind line hkind hread
    obtain ⟨before, tail, hfails⟩ := exists_failsAt hread hkind
    have hline : line = 1 + newlines (before ++ tail.take 1) :=
      Reports.line_eq ⟨_, hread, rfl⟩ hfails.reports
    have hwritten := hfails.written
    cases hfails.cutsOff with
    | newline after => exact .inl ⟨before, after, hfails⟩
    | nothing | backslash =>
        rw [← hwritten]
        exact .inr hline

/-- A class with a string literal that ends nowhere on its line. -/
def unclosedString : List Char := "class Box \x7b String s = \"oops\n; \x7d".toList

theorem isMark_equals : IsMark '=' := by decide

/-- The part of it before the literal. -/
def beforeString : List Lexeme :=
  [.word (keyword .classType), space, .word ⟨"Box".toList, by decide⟩, space, openingBrace, space,
    .word ⟨"String".toList, by decide⟩, space, .word ⟨['s'], by decide⟩, space,
    .mark '=' isMark_equals, space]

theorem failsAt_unclosedString :
    FailsAt unclosedString .stringLiteral (textOf beforeString ++ '"' :: "oops".toList)
      ('\n' :: "; \x7d".toList) where
  written := by decide
  leavesOpen := by
    have hapart : Apart beforeString ['"'] := by decide
    have htext : IsQuotedText '"' "oops".toList :=
      .plain (by decide) (.plain (by decide) (.plain (by decide) (.plain (by decide) .nil)))
    exact ⟨beforeString, '"', "oops".toList, rfl, hapart, rfl, htext⟩
  cutsOff := .newline _
  fails := ⟨2, by cbv⟩

/-- The literal is cut off on the first line, and the second one is reported. -/
theorem not_forall_reportsCutLines : ¬ ∀ source, ReportsCutLines source := by
  intro h
  have hexpected := (h unclosedString).reported _ _ _ failsAt_unclosedString
  have hfound := failsAt_unclosedString.reports_newline
  have hlines : newlines (textOf beforeString ++ '"' :: "oops".toList) = 0 := by decide
  rw [hlines] at hexpected hfound
  exact absurd (hexpected.line_eq hfound) (by decide)

end Sources

end DocSentences.Declaration
