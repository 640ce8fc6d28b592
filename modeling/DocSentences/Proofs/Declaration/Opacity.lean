import DocSentences.Proofs.Declaration.Acceptance
import DocSentences.Proofs.Declaration.Layout

/-!
# Hidden parts of a source text

What stands between matching brackets at the top level, in a plain comment or in a literal is
hidden: the declarations of a source text are found all the same without it, or with something else
in its place.
-/

namespace DocSentences.Declaration

/-! ## Exchanging a part of a text -/

section Exchange

variable {source : List Char} {before later other : List Lexeme}

/-- The lexemes at the end of a text can be exchanged for others that begin with the same
character: those before them still end there. -/
theorem IsCutInto.exchange (h : IsCutInto source (before ++ later)) (hother : Apart other [])
    (hhead : (textOf other).head? = (textOf later).head?) :
    IsCutInto (textOf (before ++ other)) (before ++ other) where
  written := rfl
  apart := by
    obtain ⟨hbefore, -⟩ := (apart_append before later []).mp h.apart
    refine (apart_append before other []).mpr ⟨?_, hother⟩
    refine (apart_congr ?_ before).mpr hbefore
    rw [List.append_nil, List.append_nil, hhead]

/-- An exchange that makes no difference to what is known in the end makes none to the
declarations. -/
theorem IsCutInto.topLevel_exchange (h : IsCutInto source (before ++ later))
    {declarations : List Declaration} (hread : topLevel source = .ok declarations)
    (hother : Apart other []) (hhead : (textOf other).head? = (textOf later).head?)
    (hrun : Outline.start.run (tokensOf (before ++ other)) =
      Outline.start.run (tokensOf (before ++ later))) :
    topLevel (textOf (before ++ other)) = .ok declarations := by
  obtain ⟨o, hlater, ho, hfound⟩ := h.topLevel_eq_ok_iff.mp hread
  exact (h.exchange hother hhead).topLevel_eq_ok_iff.mpr ⟨o, hrun.trans hlater, ho, hfound⟩

end Exchange

/-! ## Brackets in a text -/

namespace Bracket

def openingLexeme : Bracket → Lexeme
  | parenthesis => openingParenthesis
  | brace => openingBrace

def closingLexeme : Bracket → Lexeme
  | parenthesis => closingParenthesis
  | brace => closingBrace

theorem tokensOf_openingLexeme_cons (b : Bracket) (lexemes : List Lexeme) :
    tokensOf (b.openingLexeme :: lexemes) = b.opening :: tokensOf lexemes := by
  cases b <;> rfl

theorem tokensOf_closingLexeme_cons (b : Bracket) (lexemes : List Lexeme) :
    tokensOf (b.closingLexeme :: lexemes) = b.closing :: tokensOf lexemes := by
  cases b <;> rfl

/-- No other lexeme is read as a closing bracket. -/
theorem eq_closingLexeme {b : Bracket} {l : Lexeme} (h : l.token? = some b.closing) :
    l = b.closingLexeme := by
  cases l with
  | mark c hmark =>
      have htoken : markToken c = b.closing := Option.some.inj h
      cases b with
      | parenthesis =>
          obtain rfl : c = ')' := by grind [markToken, closing]
          rfl
      | brace =>
          obtain rfl : c = '\x7d' := by grind [markToken, closing]
          rfl
  | _ => cases b <;> cases h

theorem apart_cons (b : Bracket) {after : List Lexeme} (h : Apart after []) :
    Apart (b.openingLexeme :: b.closingLexeme :: after) [] := by
  cases b with
  | parenthesis => exact ⟨fun hc => absurd hc (by decide), fun hc => absurd hc (by decide), h⟩
  | brace => exact ⟨fun hc => absurd hc (by decide), fun hc => absurd hc (by decide), h⟩

end Bracket

/-- A closing bracket among the tokens of some lexemes stands among the lexemes. -/
theorem exists_eq_append_closingLexeme {b : Bracket} {lexemes : List Lexeme}
    {inner rest : List Token} (h : tokensOf lexemes = inner ++ b.closing :: rest) :
    ∃ inside after, lexemes = inside ++ b.closingLexeme :: after ∧ tokensOf inside = inner := by
  obtain ⟨first, second, rfl, hfirst, hsecond⟩ := List.filterMap_eq_append_iff.mp h
  obtain ⟨blanks, l, after, rfl, hblanks, hl, -⟩ := List.filterMap_eq_cons_iff.mp hsecond
  obtain rfl := Bracket.eq_closingLexeme hl
  refine ⟨first ++ blanks, after, by rw [List.append_assoc], ?_⟩
  have hnone : tokensOf blanks = [] := List.filterMap_eq_nil_iff.mpr hblanks
  rw [tokensOf_append, hnone, List.append_nil]
  exact hfirst

/-! ## Texts inside delimiters -/

/-- Two lexemes that differ at most in the text between their delimiters, and are not for
documentation. -/
inductive Lexeme.Resembles : Lexeme → Lexeme → Prop
  | lineComment {text other : List Char} (htext : '\n' ∉ text) (hother : '\n' ∉ other) :
      Resembles (.lineComment text htext) (.lineComment other hother)
  | blockComment {text other : List Char} (hopen : text.head? ≠ some '*')
      (hclose : ¬ ['*', '/'] <:+: text) (hopen' : other.head? ≠ some '*')
      (hclose' : ¬ ['*', '/'] <:+: other) :
      Resembles (.blockComment text hopen hclose) (.blockComment other hopen' hclose')
  | stringLiteral {text other : List Char} (htext : IsQuotedText '"' text)
      (hother : IsQuotedText '"' other) :
      Resembles (.stringLiteral text htext) (.stringLiteral other hother)
  | characterLiteral {text other : List Char} (htext : IsQuotedText '\'' text)
      (hother : IsQuotedText '\'' other) :
      Resembles (.characterLiteral text htext) (.characterLiteral other hother)
  | textBlock {text other : List Char} (htext : IsBlockText text) (hother : IsBlockText other) :
      Resembles (.textBlock text htext) (.textBlock other hother)

namespace Lexeme.Resembles

variable {l other : Lexeme}

/-- Lexemes that resemble each other are read as the same token. -/
theorem token?_eq (h : l.Resembles other) : other.token? = l.token? := by
  cases h <;> rfl

/-- Lexemes that resemble each other begin with the same character. -/
theorem head?_text (h : l.Resembles other) (rest : List Char) :
    (other.text ++ rest).head? = (l.text ++ rest).head? := by
  cases h <;> rfl

end Lexeme.Resembles

/-! ## Hidden parts -/

section Hidden

variable {source : List Char} {declarations : List Declaration} {before after : List Lexeme}

/-- A bracket that is opened at the top level of an accepted text is closed. -/
theorem IsCutInto.exists_matching {b : Bracket} {rest : List Lexeme}
    (h : IsCutInto source (before ++ b.openingLexeme :: rest))
    (hread : topLevel source = .ok declarations) (hbefore : WellBracketed (tokensOf before)) :
    ∃ inner after, rest = inner ++ b.closingLexeme :: after ∧ Balanced b (tokensOf inner) := by
  obtain ⟨o, hrun, ho⟩ := Outline.exists_run_of_wellBracketed (o := .start) rfl hbefore
  obtain ⟨last, hlast, htop, -⟩ := h.topLevel_eq_ok_iff.mp hread
  rw [tokensOf_append, Outline.run_append hrun, b.tokensOf_openingLexeme_cons] at hlast
  obtain ⟨inner, tokens, htokens, hinner⟩ := Outline.exists_group_of_run ho hlast htop
  obtain ⟨inside, after, rfl, rfl⟩ := exists_eq_append_closingLexeme htokens
  exact ⟨inside, after, rfl, hinner⟩

/-- What stands between brackets at the top level can be left out. -/
theorem IsCutInto.topLevel_leftOut {b : Bracket} {inner : List Lexeme}
    (h : IsCutInto source (before ++ b.openingLexeme :: (inner ++ b.closingLexeme :: after)))
    (hread : topLevel source = .ok declarations) (hbefore : WellBracketed (tokensOf before))
    (hinner : Balanced b (tokensOf inner)) :
    topLevel (textOf (before ++ b.openingLexeme :: b.closingLexeme :: after)) =
      .ok declarations := by
  have hafter : Apart after [] := by
    obtain ⟨-, -, hrest⟩ := (apart_append before _ []).mp h.apart
    obtain ⟨-, -, hafter⟩ := (apart_append inner _ []).mp hrest
    exact hafter
  refine h.topLevel_exchange hread (b.apart_cons hafter) (by cases b <;> rfl) ?_
  obtain ⟨o, hrun, ho⟩ := Outline.exists_run_of_wellBracketed (o := .start) rfl hbefore
  obtain ⟨next, -, hgroup⟩ := Outline.exists_run_group ho b
  rw [tokensOf_append, tokensOf_append, Outline.run_append hrun, Outline.run_append hrun,
    b.tokensOf_openingLexeme_cons, b.tokensOf_openingLexeme_cons, tokensOf_append,
    b.tokensOf_closingLexeme_cons]
  exact (hgroup [] _ .nil).trans (hgroup _ _ hinner).symm

/-- The text inside a plain comment or a literal can be exchanged. -/
theorem IsCutInto.topLevel_exchangeInside {l other : Lexeme}
    (h : IsCutInto source (before ++ l :: after)) (hread : topLevel source = .ok declarations)
    (hother : l.Resembles other) (hends : other.EndsBefore (textOf after)) :
    topLevel (textOf (before ++ other :: after)) = .ok declarations := by
  obtain ⟨-, -, hafter⟩ := (apart_append before _ []).mp h.apart
  refine h.topLevel_exchange hread ⟨by rwa [List.append_nil], hafter⟩ (hother.head?_text _) ?_
  rw [tokensOf_append, tokensOf_append, tokensOf_cons, tokensOf_cons, hother.token?_eq]

/-- The declarations of an accepted text stay the same when the text between matching brackets at
the top level is left out, and when that inside a plain comment or a literal is exchanged for any
other one that leaves the comment or literal complete. -/
theorem topLevel_hidden (h : topLevel source = .ok declarations) :
    (∃ lexemes, IsCutInto source lexemes) ∧ ∀ lexemes, IsCutInto source lexemes →
      (∀ (b : Bracket) (before rest : List Lexeme), lexemes = before ++ b.openingLexeme :: rest →
        WellBracketed (tokensOf before) →
        (∃ inner after, rest = inner ++ b.closingLexeme :: after ∧ Balanced b (tokensOf inner)) ∧
        ∀ inner after, rest = inner ++ b.closingLexeme :: after → Balanced b (tokensOf inner) →
          topLevel (textOf (before ++ b.openingLexeme :: b.closingLexeme :: after)) =
            .ok declarations) ∧
      ∀ (before after : List Lexeme) (l other : Lexeme), lexemes = before ++ l :: after →
        l.Resembles other → other.EndsBefore (textOf after) →
        topLevel (textOf (before ++ other :: after)) = .ok declarations := by
  refine ⟨exists_isCutInto_of_topLevel h, fun lexemes hcut => ⟨?_, ?_⟩⟩
  · rintro b before rest rfl hbefore
    refine ⟨hcut.exists_matching h hbefore, ?_⟩
    rintro inner after rfl hinner
    exact hcut.topLevel_leftOut h hbefore hinner
  · rintro before after l other rfl hother hends
    exact hcut.topLevel_exchangeInside h hother hends

theorem isQuotedText_parenthesis : IsQuotedText '"' [')'] := .plain (by decide) .nil

def argument : Lexeme := .stringLiteral [')'] isQuotedText_parenthesis

/-- An annotation with a parenthesis in its argument. -/
def taggedName : List Lexeme :=
  [atSign, .word ⟨['T'], by decide⟩, openingParenthesis, argument, closingParenthesis]

/-- The inside of a class that has a documented class of its own. -/
def innerClass : List Lexeme :=
  [.docComment " B. ".toList (by decide) (by decide +kernel), .word (keyword .classType), space,
    .word ⟨['B'], by decide⟩, openingBrace, closingBrace]

def outerName : List Lexeme := [.word (keyword .classType), space, .word ⟨['A'], by decide⟩]

theorem taggedClass_hidden :
    topLevel "@T(\")\")class A\x7b/** B. */class B\x7b\x7d\x7d".toList =
        .ok [⟨.classType, "A", none⟩] ∧
      topLevel "@T(\")\")class A\x7b\x7d".toList = .ok [⟨.classType, "A", none⟩] ∧
      topLevel "@T()class A\x7b/** B. */class B\x7b\x7d\x7d".toList =
        .ok [⟨.classType, "A", none⟩] ∧
      topLevel "@T(\"\x7b\")class A\x7b/** B. */class B\x7b\x7d\x7d".toList =
        .ok [⟨.classType, "A", none⟩] := by
  have hcut : IsCutInto "@T(\")\")class A\x7b/** B. */class B\x7b\x7d\x7d".toList
      (taggedName ++ outerName ++ openingBrace :: (innerClass ++ [closingBrace])) :=
    ⟨by decide, by decide⟩
  have hread : topLevel "@T(\")\")class A\x7b/** B. */class B\x7b\x7d\x7d".toList =
      .ok [⟨.classType, "A", none⟩] :=
    hcut.topLevel_eq_ok_iff.mpr ⟨.between none none [⟨.classType, "A", none⟩], rfl, rfl, rfl⟩
  obtain ⟨hbrackets, hinside⟩ := (topLevel_hidden hread).2 _ hcut
  have hrun : Outline.start.run (tokensOf (taggedName ++ outerName)) =
      .ok (.between none none [⟨.classType, "A", none⟩]) := rfl
  have hname := Outline.wellBracketed_of_run rfl hrun rfl
  have htag : WellBracketed (tokensOf [atSign, .word ⟨['T'], by decide⟩]) :=
    .token (by decide) (by decide) (by decide) (.token (by decide) (by decide) (by decide) .nil)
  refine ⟨hread, ?_, ?_, ?_⟩
  · exact (hbrackets .brace (taggedName ++ outerName) (innerClass ++ [closingBrace]) rfl hname).2
      innerClass [] rfl (.token (by decide) (by decide) (.token (by decide) (by decide)
        (.token (by decide) (by decide) (.group .nil .nil))))
  · exact (hbrackets .parenthesis _ _ rfl htag).2 [argument] _ rfl
      (.token (by decide) (by decide) .nil)
  · exact hinside [atSign, .word ⟨['T'], by decide⟩, openingParenthesis] _ argument
      (.stringLiteral ['\x7b'] (.plain (by decide) .nil)) rfl (.stringLiteral _ _)
      (fun h => absurd h (by decide))

end Hidden

end DocSentences.Declaration
