import DocSentences.Declaration.TopLevel

/-!
# Brackets around tokens

What stands in braces is passed over up to the brace that closes them, and so is what stands in
parentheses at the top level. Either way only brackets of the one kind are counted.
-/

namespace DocSentences.Declaration

/-! ## Balanced tokens -/

/-- The kinds of bracket that are passed over with what stands in them. -/
inductive Bracket
  | parenthesis
  | brace
  deriving DecidableEq

namespace Bracket

def opening : Bracket → Token
  | parenthesis => .openParen
  | brace => .openBrace

def closing : Bracket → Token
  | parenthesis => .closeParen
  | brace => .closeBrace

/-- Inside `deeper + 1` brackets. -/
def inside : Bracket → Nat → Nesting
  | parenthesis => .parentheses
  | brace => .braces

end Bracket

/-- Tokens among which each bracket of the given kind has its counterpart. -/
inductive Balanced (b : Bracket) : List Token → Prop
  | nil : Balanced b []
  | token {t : Token} {rest : List Token} (hopening : t ≠ b.opening) (hclosing : t ≠ b.closing)
      (hrest : Balanced b rest) : Balanced b (t :: rest)
  | group {inner rest : List Token} (hinner : Balanced b inner) (hrest : Balanced b rest) :
      Balanced b (b.opening :: (inner ++ b.closing :: rest))

/-! ## Passing over brackets -/

namespace Outline

/-- After some more tokens. -/
def run (o : Outline) (tokens : List Token) : Except SourceError Outline :=
  tokens.foldlM step o

@[simp] theorem run_nil (o : Outline) : o.run [] = .ok o := rfl

theorem run_cons {o after : Outline} {t : Token} (h : o.step t = .ok after) (rest : List Token) :
    o.run (t :: rest) = after.run rest := by
  rw [run, List.foldlM_cons, h]
  rfl

theorem run_append {o after : Outline} {tokens : List Token} (h : o.run tokens = .ok after)
    (rest : List Token) : o.run (tokens ++ rest) = after.run rest := by
  rw [run, List.foldlM_append]
  rw [run] at h
  rw [h]
  rfl

/-- A word opens and closes no bracket. -/
theorem nesting_word (o : Outline) (text : String) : (o.word text).nesting = o.nesting := by
  unfold word
  split
  · rfl
  · split <;> rfl

variable (o : Outline) (b : Bracket) (deeper : Nat)

theorem step_opening :
    step { o with nesting := b.inside deeper } b.opening =
      .ok { o with nesting := b.inside (deeper + 1) } := by
  cases b <;> rfl

theorem step_closing_inner :
    step { o with nesting := b.inside (deeper + 1) } b.closing =
      .ok { o with nesting := b.inside deeper } := by
  cases b <;> rfl

theorem step_closing_outer :
    step { o with nesting := b.inside 0 } b.closing = .ok { o with nesting := .topLevel } := by
  cases b <;> rfl

theorem step_inside {t : Token} (hopening : t ≠ b.opening) (hclosing : t ≠ b.closing) :
    step { o with nesting := b.inside deeper } t = .ok { o with nesting := b.inside deeper } := by
  cases b <;> cases t <;> first | rfl | contradiction

/-- Balanced tokens inside brackets leave everything as it was. -/
theorem run_balanced {tokens : List Token} (h : Balanced b tokens) :
    run { o with nesting := b.inside deeper } tokens =
      .ok { o with nesting := b.inside deeper } := by
  induction h generalizing deeper with
  | nil => rfl
  | token hopening hclosing _ ih => rw [run_cons (step_inside o b deeper hopening hclosing), ih]
  | group _ _ ihInner ihRest =>
      rw [run_cons (step_opening o b deeper), run_append (ihInner (deeper + 1)),
        run_cons (step_closing_inner o b deeper), ihRest]

/-- From the inside of brackets up to the one that closes them. -/
theorem run_closing {inner : List Token} (h : Balanced b inner) (rest : List Token) :
    run { o with nesting := b.inside 0 } (inner ++ b.closing :: rest) =
      run { o with nesting := .topLevel } rest := by
  rw [run_append (run_balanced o b 0 h), run_cons (step_closing_outer o b)]

/-- At the top level parentheses matter as little as a mark. -/
theorem run_parentheses {inner : List Token} (h : Balanced .parenthesis inner)
    (rest : List Token) (ho : o.nesting = .topLevel) :
    o.run (.openParen :: (inner ++ .closeParen :: rest)) =
      run { o with afterAt := false } rest := by
  obtain ⟨nesting, pending, expected, afterAt, found⟩ := o
  subst ho
  exact run_closing ⟨.topLevel, pending, expected, false, found⟩ .parenthesis h rest

/-- At the top level braces end whatever was expected. -/
theorem run_braces {inner : List Token} (h : Balanced .brace inner) (rest : List Token)
    (ho : o.nesting = .topLevel) :
    o.run (.openBrace :: (inner ++ .closeBrace :: rest)) =
      run { o with pending := none, expected := none, afterAt := false } rest := by
  obtain ⟨nesting, pending, expected, afterAt, found⟩ := o
  subst ho
  exact run_closing ⟨.topLevel, none, none, false, found⟩ .brace h rest

end Outline

/-- The declarations of a text are read off its tokens, and then off its end. -/
theorem topLevel_eq (source : List Char) :
    topLevel source = (Outline.start.run (tokens source).tokens).bind fun last =>
      last.finish (tokens source).ending :=
  rfl

end DocSentences.Declaration
