import DocSentences.Proofs.Comment.Prose
import DocSentences.Proofs.Text.LineEnds
import Mathlib

/-!
# Spellings of a comment

A comment is read from its lines without their decoration and without blank lines at both ends. So
two spellings of the same lines are read alike: with other line ends, or after stars instead of as
they stand.
-/

namespace DocSentences.DocComment

open Text

/-- A comment is read off its clean lines. -/
theorem read_eq_of_cleanLines {body other : List Char} (h : cleanLines body = cleanLines other) :
    read body = read other := by
  rw [read, read, h]

/-- The line ends of a comment do not matter. -/
theorem read_withReturns {body : List Char} (h : '\r' ∉ body) :
    read (withReturns body) = read body :=
  read_eq_of_cleanLines (by rw [cleanLines, cleanLines, lines_withReturns h])

theorem dropBlankEnds_append_nil (written : List (List Char)) :
    dropBlankEnds (written ++ [[]]) = dropBlankEnds written := by
  rw [dropBlankEnds, dropBlankEnds, List.dropWhile_append]
  split
  · next hnone =>
      rw [List.isEmpty_iff.mp hnone]
      rfl
  · rw [List.reverse_append]
    rfl

/-! ## Lines after stars and lines as they stand -/

/-- Whether a text is set off from a star by what stands between them. The text may begin with a
space or a tab only if there is one before it already. -/
def IsSeparator (separator text : List Char) : Prop :=
  separator = [' '] ∨ separator = ['\t'] ∨
    separator = [] ∧ text.head? ≠ some ' ' ∧ text.head? ≠ some '\t'

/-- What separates a star from a text separates it from the beginning of the text. -/
theorem IsSeparator.of_isPrefix {separator text cut : List Char} (h : IsSeparator separator text)
    (hcut : cut <+: text) : IsSeparator separator cut := by
  obtain ⟨more, rfl⟩ := hcut
  have hfirst : ∀ {c : Char}, (cut ++ more).head? ≠ some c → cut.head? ≠ some c := by
    intro c hne hc
    exact hne (by rw [List.head?_append, hc]; rfl)
  exact h.imp_right (.imp_right fun ⟨hnone, hspace, htab⟩ => ⟨hnone, hfirst hspace, hfirst htab⟩)

/-- A line of a comment, with what may stand before it: blank characters and a star. -/
structure CommentLine where
  indentation : List Char
  separator : List Char
  text : List Char
  indentation_blank : ∀ c ∈ indentation, c = ' ' ∨ c = '\t'
  isSeparator : IsSeparator separator text
  noBreak : '\n' ∉ text
  /-- The line has no star of its own at its start. -/
  noStar : (trimStart text).head? ≠ some '*'

/-- A line that begins with no star is left as it stands, unless it is blank. -/
theorem undecorate_of_noStar {text : List Char} (h : (trimStart text).head? ≠ some '*') :
    undecorate text = if isBlankText text then [] else text := by
  rw [undecorate]
  split <;> simp_all

/-- Of a line that begins with a star, the text after the star and its separator is left. -/
theorem undecorate_of_star {line separator text : List Char}
    (h : trimStart line = '*' :: (separator ++ text)) (hseparator : IsSeparator separator text) :
    undecorate line = if isBlankText text then [] else text := by
  rw [undecorate, h]
  rcases hseparator with rfl | rfl | ⟨rfl, hspace, htab⟩
  · rfl
  · rfl
  · cases text with
    | nil => rfl
    | cons c text =>
        simp_all

namespace CommentLine

/-- The line as it stands after a star. -/
def starred (line : CommentLine) : List Char :=
  line.indentation ++ '*' :: (line.separator ++ line.text)

/-- A line is undecorated to the same text with its star and without. -/
theorem undecorate_starred (line : CommentLine) :
    undecorate line.starred = undecorate line.text := by
  have hblank := isBlank_of_mem_indentation line.indentation_blank
  have htrim : trimStart line.starred = '*' :: (line.separator ++ line.text) := by
    rw [starred, trimStart, List.dropWhile_append_of_pos hblank]
    rfl
  rw [undecorate_of_star htrim line.isSeparator, undecorate_of_noStar line.noStar]

theorem not_mem_starred (line : CommentLine) : '\n' ∉ line.starred := by
  have hindentation := newline_not_mem_indentation line.indentation_blank
  have hseparator : '\n' ∉ line.separator := by
    rcases line.isSeparator with h | h | ⟨h, -⟩ <;> simp [h]
  simp [starred, hindentation, hseparator, line.noBreak]

/-- The line without a carriage return at its end. -/
def cut (line : CommentLine) : CommentLine :=
  { line with
    text := withoutReturn line.text
    isSeparator := line.isSeparator.of_isPrefix (isPrefix_withoutReturn line.text)
    noBreak := fun hmem => line.noBreak ((isPrefix_withoutReturn line.text).subset hmem)
    noStar := fun hstar =>
      line.noStar (head?_trimStart_of_isPrefix (isPrefix_withoutReturn line.text) hstar) }

/-- The return at the end of a line belongs to the text after its star. -/
theorem withoutReturn_starred (line : CommentLine) :
    withoutReturn line.starred = line.cut.starred := by
  have hseparator : withoutReturn (line.separator ++ line.text) =
      line.separator ++ withoutReturn line.text := by
    rcases line.isSeparator with h | h | ⟨h, -⟩ <;> rw [h]
    · exact withoutReturn_cons (by decide) line.text
    · exact withoutReturn_cons (by decide) line.text
    · rfl
  rw [starred, withoutReturn_append_cons, withoutReturn_cons (by decide), hseparator]
  rfl

/-- Lines are the same after stars, except that an empty last line is there only after one. -/
theorem map_undecorate_starred (comment : List CommentLine) :
    (lines (joinWith ['\n'] (comment.map starred))).map undecorate =
        (lines (joinWith ['\n'] (comment.map text))).map undecorate ∨
      (lines (joinWith ['\n'] (comment.map starred))).map undecorate =
        (lines (joinWith ['\n'] (comment.map text))).map undecorate ++ [[]] := by
  induction comment with
  | nil => exact .inl rfl
  | cons line rest ih =>
      cases rest with
      | nil =>
          have hne : line.starred ≠ [] := by simp [starred]
          rw [List.map_singleton, List.map_singleton, joinWith, joinWith,
            lines_eq_singleton hne line.not_mem_starred, List.map_singleton, undecorate_starred]
          -- a last line without a line feed is no line at all if it is empty
          by_cases htext : line.text = []
          · rw [htext]
            exact .inr rfl
          · rw [lines_eq_singleton htext line.noBreak]
            exact .inl rfl
      | cons next rest =>
          have hline : undecorate (withoutReturn line.starred) =
              undecorate (withoutReturn line.text) := by
            rw [withoutReturn_starred, undecorate_starred]
            rfl
          simp only [List.map_cons, lines_joinWith_cons line.not_mem_starred,
            lines_joinWith_cons line.noBreak, hline, List.cons_append, List.cons.injEq, true_and]
          exact ih

/-- A comment is read alike whether its lines stand after stars or not. -/
theorem read_starred (comment : List CommentLine) :
    read (joinWith ['\n'] (comment.map starred)) = read (joinWith ['\n'] (comment.map text)) := by
  apply read_eq_of_cleanLines
  rw [cleanLines, cleanLines]
  rcases map_undecorate_starred comment with h | h
  · rw [h]
  · rw [h, dropBlankEnds_append_nil]

/-- A line that stands after one space, a star and one space. -/
def spaced (text : String) (noBreak : '\n' ∉ text.toList)
    (noStar : (trimStart text.toList).head? ≠ some '*') : CommentLine where
  indentation := [' ']
  separator := [' ']
  text := text.toList
  indentation_blank := by simp
  isSeparator := .inl rfl
  noBreak := noBreak
  noStar := noStar

/-- A comment with a line that is indented after its star, a blank line without a separator, and a
block tag right after a star that is indented by a tab. -/
def scaleComment : List CommentLine :=
  [spaced "Draws a scale." (by decide) (by decide),
    spaced "  - in \x7b@code px\x7d" (by decide) (by decide),
    { indentation := [' ']
      separator := []
      text := []
      indentation_blank := by simp
      isSeparator := .inr (.inr ⟨rfl, by simp⟩)
      noBreak := by simp
      noStar := by simp [trimStart] },
    { indentation := ['\t']
      separator := []
      text := "@since 2.0".toList
      indentation_blank := by simp
      isSeparator := .inr (.inr ⟨rfl, by decide⟩)
      noBreak := by decide
      noStar := by decide }]

theorem read_scaleComment :
    read " * Draws a scale.\n *   - in \x7b@code px\x7d\n *\n\t*@since 2.0".toList =
      ⟨[.snippet "Draws a scale.\n  - in ", .inlineTag "code" " px"], [⟨"since", "2.0"⟩]⟩ := by
  have hstarred : joinWith ['\n'] (scaleComment.map starred) =
      " * Draws a scale.\n *   - in \x7b@code px\x7d\n *\n\t*@since 2.0".toList := by decide
  rw [← hstarred, read_starred scaleComment]
  cbv

end CommentLine

end DocSentences.DocComment
