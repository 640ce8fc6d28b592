import DocSentences.Proofs.Declaration.Brackets
import DocSentences.Proofs.Declaration.Cutting
import DocSentences.Proofs.Extraction.Description

/-!
# Source texts that are accepted

A source text has a list of declarations just in case it is cut into lexemes up to its end and its
tokens are well bracketed. Brackets of the two kinds hide each other: what is written in braces may
have parentheses without counterpart, and the other way round.
-/

namespace DocSentences.Declaration

/-! ## Well-bracketed tokens -/

/-- Tokens among which each bracket that is opened at the top level is closed, and no brace is
closed there that was not opened. A parenthesis may be. -/
inductive WellBracketed : List Token → Prop
  | nil : WellBracketed []
  | token {t : Token} {rest : List Token} (hparen : t ≠ .openParen) (hopen : t ≠ .openBrace)
      (hclose : t ≠ .closeBrace) (hrest : WellBracketed rest) : WellBracketed (t :: rest)
  | group (b : Bracket) {inner rest : List Token} (hinner : Balanced b inner)
      (hrest : WellBracketed rest) : WellBracketed (b.opening :: (inner ++ b.closing :: rest))

namespace Bracket

/-- Inside as many brackets. -/
def around (b : Bracket) : Nat → Nesting
  | 0 => .topLevel
  | deeper + 1 => b.inside deeper

end Bracket

namespace Outline

variable {o last : Outline} {b : Bracket} {tokens : List Token}

/-! ## Matching brackets -/

theorem step_closing (o : Outline) (b : Bracket) (count : Nat) :
    step { o with nesting := b.inside count } b.closing =
      .ok { o with nesting := b.around count } := by
  cases count with
  | zero => exact step_closing_outer o b
  | succ count => exact step_closing_inner o b count

/-- Tokens that lead from the inside of a bracket to the top level have the counterpart of that
bracket among them. -/
theorem exists_balanced_of_run (count : Nat)
    (hrun : run { o with nesting := b.inside count } tokens = .ok last)
    (hlast : last.nesting = .topLevel) :
    ∃ inner rest, tokens = inner ++ b.closing :: rest ∧ Balanced b inner ∧
      run { o with nesting := b.around count } rest = .ok last := by
  induction hn : tokens.length using Nat.strongRecOn generalizing tokens count with
  | ind n ih =>
      cases tokens with
      | nil =>
          rw [run_nil] at hrun
          cases hrun
          cases b <;> cases hlast
      | cons t rest =>
          have hrest : rest.length < n := hn ▸ Nat.lt_succ_self _
          by_cases hopening : t = b.opening
          · subst hopening
            rw [run_cons (step_opening o b count)] at hrun
            -- the inner bracket is closed first, and then the one around it
            obtain ⟨inner, after, rfl, hinner, hafter⟩ := ih _ hrest (count + 1) hrun rfl
            have hshorter : after.length < n := by
              simp only [List.length_append, List.length_cons] at hrest
              omega
            obtain ⟨more, outside, rfl, hmore, houtside⟩ := ih _ hshorter count hafter rfl
            refine ⟨b.opening :: (inner ++ b.closing :: more), outside, ?_, ?_, houtside⟩
            · simp
            · exact .group hinner hmore
          · by_cases hclosing : t = b.closing
            · subst hclosing
              rw [run_cons (step_closing o b count)] at hrun
              exact ⟨[], rest, rfl, .nil, hrun⟩
            · rw [run_cons (step_inside o b count hopening hclosing)] at hrun
              obtain ⟨inner, after, rfl, hinner, hafter⟩ := ih _ hrest count hrun rfl
              exact ⟨t :: inner, after, rfl, .token hopening hclosing hinner, hafter⟩

/-! ## Steps at the top level -/

/-- At the top level, every token that is no bracket is taken and leaves the reader there. -/
theorem exists_step_of_ne (ho : o.nesting = .topLevel) {t : Token} (hparen : t ≠ .openParen)
    (hopen : t ≠ .openBrace) (hclose : t ≠ .closeBrace) :
    ∃ next, o.step t = .ok next ∧ next.nesting = .topLevel := by
  have hnesting := nesting_word o
  obtain ⟨nesting, pending, expected, afterAt, found⟩ := o
  subst ho
  cases t with
  | openParen => contradiction
  | openBrace => contradiction
  | closeBrace => contradiction
  | word text => exact ⟨_, rfl, hnesting text⟩
  | _ => exact ⟨_, rfl, rfl⟩

theorem exists_step_opening (ho : o.nesting = .topLevel) (b : Bracket) :
    ∃ next : Outline, o.step b.opening = .ok { next with nesting := b.inside 0 } := by
  obtain ⟨nesting, pending, expected, afterAt, found⟩ := o
  subst ho
  cases b with
  | parenthesis => exact ⟨⟨.topLevel, pending, expected, false, found⟩, rfl⟩
  | brace => exact ⟨⟨.topLevel, none, none, false, found⟩, rfl⟩

/-- What is known after brackets does not depend on what stands in them. -/
theorem exists_run_group (ho : o.nesting = .topLevel) (b : Bracket) :
    ∃ next : Outline, next.nesting = .topLevel ∧ ∀ inner rest, Balanced b inner →
      o.run (b.opening :: (inner ++ b.closing :: rest)) = next.run rest := by
  obtain ⟨next, hstep⟩ := exists_step_opening ho b
  refine ⟨{ next with nesting := .topLevel }, rfl, ?_⟩
  intro inner rest hinner
  rw [run_cons hstep, run_closing next b hinner]

/-! ## Runs from the top level to the top level -/

/-- Well-bracketed tokens are read to the end, back at the top level. -/
theorem exists_run_of_wellBracketed (ho : o.nesting = .topLevel) (h : WellBracketed tokens) :
    ∃ last, o.run tokens = .ok last ∧ last.nesting = .topLevel := by
  induction h generalizing o with
  | nil => exact ⟨o, rfl, ho⟩
  | token hparen hopen hclose _ ih =>
      obtain ⟨next, hstep, hnext⟩ := exists_step_of_ne ho hparen hopen hclose
      obtain ⟨last, hrun, hlast⟩ := ih hnext
      exact ⟨last, (run_cons hstep _).trans hrun, hlast⟩
  | group b hinner _ ih =>
      obtain ⟨next, hnext, hgroup⟩ := exists_run_group ho b
      obtain ⟨last, hrun, hlast⟩ := ih hnext
      exact ⟨last, (hgroup _ _ hinner).trans hrun, hlast⟩

/-- A bracket that is opened at the top level has a counterpart, if the top level is reached again
at the end. -/
theorem exists_group_of_run (ho : o.nesting = .topLevel)
    (hrun : o.run (b.opening :: tokens) = .ok last) (hlast : last.nesting = .topLevel) :
    ∃ inner rest, tokens = inner ++ b.closing :: rest ∧ Balanced b inner := by
  obtain ⟨next, hstep⟩ := exists_step_opening ho b
  rw [run_cons hstep] at hrun
  obtain ⟨inner, rest, htokens, hinner, -⟩ := exists_balanced_of_run 0 hrun hlast
  exact ⟨inner, rest, htokens, hinner⟩

/-- Tokens that are read from the top level to the top level are well bracketed. -/
theorem wellBracketed_of_run (ho : o.nesting = .topLevel) (hrun : o.run tokens = .ok last)
    (hlast : last.nesting = .topLevel) : WellBracketed tokens := by
  -- by induction on the length, as a whole group is taken at once
  induction hn : tokens.length using Nat.strongRecOn generalizing tokens o with
  | ind n ih =>
      have hgroup : ∀ {b rest}, tokens = Bracket.opening b :: rest → WellBracketed tokens := by
        rintro b rest rfl
        obtain ⟨inner, after, rfl, hinner⟩ := exists_group_of_run ho hrun hlast
        obtain ⟨next, hnext, heq⟩ := exists_run_group ho b
        rw [heq inner after hinner] at hrun
        have hshorter : after.length < n := by
          simp only [List.length_append, List.length_cons] at hn
          omega
        exact .group b hinner (ih _ hshorter hnext hrun rfl)
      cases tokens with
      | nil => exact .nil
      | cons t rest =>
          by_cases hparen : t = .openParen
          · exact hgroup (b := .parenthesis) (by rw [hparen]; rfl)
          by_cases hopen : t = .openBrace
          · exact hgroup (b := .brace) (by rw [hopen]; rfl)
          by_cases hclose : t = .closeBrace
          · have hstep : o.step t = .error .unbalancedBrace := by rw [hclose, step, ho]
            rw [run, List.foldlM_cons, hstep] at hrun
            cases hrun
          · obtain ⟨next, hstep, hnext⟩ := exists_step_of_ne ho hparen hopen hclose
            rw [run_cons hstep] at hrun
            exact .token hparen hopen hclose (ih _ (hn ▸ Nat.lt_succ_self _) hnext hrun rfl)

end Outline

/-! ## Accepted texts -/

variable {source : List Char} {lexemes : List Lexeme} {declarations : List Declaration}

theorem IsCutInto.tokens_eq (h : IsCutInto source lexemes) :
    tokens source = ⟨tokensOf lexemes, .complete (1 + newlines source)⟩ := by
  rw [← h.written]
  exact tokens_textOf h.apart

/-- Reading ends well exactly if the text is complete and no bracket is open. -/
theorem finish_eq_ok_iff {o : Outline} {ending : Ending} :
    o.finish ending = .ok declarations ↔
      ∃ line, ending = .complete line ∧ o.nesting = .topLevel ∧ o.found.reverse = declarations := by
  obtain ⟨nesting, pending, expected, afterAt, found⟩ := o
  cases ending <;> cases nesting <;> simp [Outline.finish]

/-- A text is accepted exactly if its tokens are taken one by one and reading ends well. -/
theorem topLevel_eq_ok_iff :
    topLevel source = .ok declarations ↔
      ∃ o, Outline.start.run (tokens source).tokens = .ok o ∧
        o.finish (tokens source).ending = .ok declarations := by
  rw [topLevel_eq]
  cases Outline.start.run (tokens source).tokens <;> simp [Except.bind]

/-- A text that is accepted is cut into lexemes. -/
theorem exists_isCutInto_of_topLevel (h : topLevel source = .ok declarations) :
    ∃ lexemes, IsCutInto source lexemes := by
  obtain ⟨o, -, hfinish⟩ := topLevel_eq_ok_iff.mp h
  obtain ⟨line, hending, -⟩ := finish_eq_ok_iff.mp hfinish
  exact exists_isCutInto_of_tokensFrom hending

/-- Of a text that is cut into lexemes only the tokens matter. -/
theorem IsCutInto.topLevel_eq_ok_iff (h : IsCutInto source lexemes) :
    topLevel source = .ok declarations ↔
      ∃ o, Outline.start.run (tokensOf lexemes) = .ok o ∧ o.nesting = .topLevel ∧
        o.found.reverse = declarations := by
  rw [Declaration.topLevel_eq_ok_iff, h.tokens_eq]
  simp [finish_eq_ok_iff]

/-- Of a text that is cut into lexemes the tokens decide whether it is accepted. -/
theorem IsCutInto.exists_topLevel_iff (h : IsCutInto source lexemes) :
    (∃ declarations, topLevel source = .ok declarations) ↔ WellBracketed (tokensOf lexemes) := by
  constructor
  · rintro ⟨declarations, hread⟩
    obtain ⟨o, hrun, ho, -⟩ := h.topLevel_eq_ok_iff.mp hread
    exact Outline.wellBracketed_of_run rfl hrun ho
  · intro hbracketed
    obtain ⟨o, hrun, ho⟩ := Outline.exists_run_of_wellBracketed (o := .start) rfl hbracketed
    exact ⟨_, h.topLevel_eq_ok_iff.mpr ⟨o, hrun, ho, rfl⟩⟩

/-- Source texts of which every token is complete and which are well bracketed. -/
def IsSourceText (source : List Char) : Prop :=
  ∃ lexemes, IsCutInto source lexemes ∧ WellBracketed (tokensOf lexemes)

/-- The declarations of a text are found just in case the text is cut into lexemes that are well
bracketed. Any other text is reported as malformed. -/
theorem topLevel_accepts (source : List Char) :
    ((∃ declarations, topLevel source = .ok declarations) ↔ IsSourceText source) ∧
      (¬ IsSourceText source → ∃ error, topLevel source = .error error ∧
        ∀ style name, Extraction.sourceDescription style name source =
          .error (.malformed error.message)) := by
  have haccepts : (∃ declarations, topLevel source = .ok declarations) ↔ IsSourceText source := by
    constructor
    · rintro ⟨declarations, hread⟩
      obtain ⟨lexemes, hcut⟩ := exists_isCutInto_of_topLevel hread
      exact ⟨lexemes, hcut, hcut.exists_topLevel_iff.mp ⟨declarations, hread⟩⟩
    · rintro ⟨lexemes, hcut, hbracketed⟩
      exact hcut.exists_topLevel_iff.mpr hbracketed
  refine ⟨haccepts, fun hrejected => ?_⟩
  cases hread : topLevel source with
  | ok declarations => exact absurd (haccepts.mp ⟨declarations, hread⟩) hrejected
  | error error =>
      exact ⟨error, rfl, fun style name => Extraction.sourceDescription_of_error hread style name⟩

end DocSentences.Declaration
