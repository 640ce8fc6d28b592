import DocSentences.Proofs.Comment.InlineTags
import Mathlib

/-!
# Decoration of comment lines

Reading a comment drops blank characters and, at the start of a line, one star; everything else is
still there, in its order. So a line that is decorated with more than one star keeps all of them but
the first, and lines after several stars are never read like the same lines after one.
-/

namespace DocSentences.DocComment

open Text

/-! ## What is kept of a comment -/

/-- A block tag as it stands in a comment. -/
def writtenTag (tag : BlockTag) : List Char := '@' :: (tag.name.toList ++ tag.content.toList)

/-- What stands in a comment, apart from line ends. -/
def writtenComment (comment : DocComment) : List Char :=
  written comment.description ++ comment.blockTags.flatMap writtenTag

section Kept

variable {p : Char → Bool} (hp : ∀ c, isBlank c = true → p c = false)

include hp

theorem filter_joinWith_newline (parts : List (List Char)) :
    (joinWith ['\n'] parts).filter p = parts.flatMap (List.filter p) := by
  fun_induction joinWith ['\n'] parts with
  | case1 => rfl
  | case2 part => simp
  | case3 part next rest ih => simp [ih, hp '\n' rfl]

/-- A line is added to the block tags before it, or begins a new one. -/
theorem filter_addTagLine {tags : List BlockTag} {line : List Char}
    (h : tags ≠ [] ∨ startsTag line = true) :
    addTagLine tags line ≠ [] ∧ ((addTagLine tags line).reverse.flatMap writtenTag).filter p =
      (tags.reverse.flatMap writtenTag).filter p ++ line.filter p := by
  unfold addTagLine
  split
  next tag htag =>
    have hline : line.filter p = ('@' :: tag).filter p := by rw [← htag, filter_trimStart hp]
    have htag : (tag.takeWhile (!isBlank ·) ++ trim (tag.dropWhile (!isBlank ·))).filter p =
        tag.filter p := by
      rw [List.filter_append, filter_trim hp, ← List.filter_append, List.takeWhile_append_dropWhile]
    refine ⟨List.cons_ne_nil _ _, ?_⟩
    rw [hline, List.reverse_cons, List.flatMap_append, List.filter_append]
    simp only [List.flatMap_singleton, writtenTag, String.toList_ofList, List.filter_cons, htag]
  next hplain =>
    have htag : (trimStart line).head? = some '@' := by simpa [startsTag] using h
    obtain ⟨tag, htag⟩ := List.head?_eq_some_iff.mp htag
    exact absurd htag (hplain tag)
  next latest earlier hplain =>
    refine ⟨List.cons_ne_nil _ _, ?_⟩
    -- a further line: only a newline is added, which the test fails
    have hcontent : (if latest.content.isEmpty then String.ofList (trim line)
        else latest.content ++ "\n" ++ String.ofList (trim line)).toList.filter p =
          latest.content.toList.filter p ++ line.filter p := by
      split
      next hempty =>
        obtain hempty : latest.content = "" := by simpa using hempty
        simp [hempty, filter_trim hp]
      next => simp [filter_trim hp, hp '\n' rfl]
    rw [List.reverse_cons, List.reverse_cons, List.flatMap_append, List.flatMap_append,
      List.filter_append, List.filter_append, List.append_assoc]
    simp only [List.flatMap_singleton, writtenTag, List.filter_cons, List.filter_append, hcontent]
    split <;> simp

/-- Reading lines as tags keeps every character that passes the test. -/
theorem filter_foldl_addTagLine (tags : List BlockTag) {lines : List (List Char)}
    (h : tags ≠ [] ∨ ∀ line ∈ lines.head?, startsTag line = true) :
    ((lines.foldl addTagLine tags).reverse.flatMap writtenTag).filter p =
      (tags.reverse.flatMap writtenTag).filter p ++ lines.flatMap (List.filter p) := by
  induction lines generalizing tags with
  | nil => simp
  | cons line lines ih =>
      obtain ⟨hne, hline⟩ := filter_addTagLine hp (h.imp_right fun hhead => hhead line rfl)
      rw [List.foldl_cons, ih _ (.inl hne), hline, List.flatMap_cons, List.append_assoc]

/-- Of the lines of a comment without their decoration nothing but blank characters is lost. -/
theorem filter_writtenComment_read (body : List Char) :
    (writtenComment (read body)).filter p = ((lines body).flatMap undecorate).filter p := by
  have htagged : ∀ line ∈ ((cleanLines body).dropWhile (!startsTag ·)).head?,
      startsTag line = true := by
    intro line hline
    have hfirst := List.head?_dropWhile_not (!startsTag ·) (cleanLines body)
    rw [Option.mem_def.mp hline] at hfirst
    simpa using hfirst
  have htags := filter_foldl_addTagLine hp [] (.inr htagged)
  rw [writtenComment, read]
  dsimp only
  rw [List.filter_append, readBlockTags, htags, written_readDescription, filter_trim hp,
    filter_joinWith_newline hp, List.reverse_nil, List.flatMap_nil, List.filter_nil,
    List.nil_append, ← List.flatMap_append, List.takeWhile_append_dropWhile, cleanLines,
    flatMap_dropBlankEnds List.filter_nil, List.flatMap_map, List.filter_flatMap]

end Kept

/-- A comment keeps every character that is not blank as often as its lines have it. -/
theorem count_writtenComment_read {c : Char} (hc : isBlank c = false) (body : List Char) :
    (writtenComment (read body)).count c = ((lines body).flatMap undecorate).count c := by
  have hblank : ∀ d, isBlank d = true → (d == c) = false := fun d hd => by
    simpa using fun hdc : d = c => Bool.false_ne_true (hc.symm.trans (hdc ▸ hd))
  rw [List.count_eq_length_filter, filter_writtenComment_read hblank,
    ← List.count_eq_length_filter]

/-! ## Stars before a line -/

/-- A line with stars before it, which stand after blank characters and before a space. -/
def decorated (indentation : List Char) (stars : Nat) (text : List Char) : List Char :=
  indentation ++ (List.replicate stars '*' ++ ' ' :: text)

/-- All stars but the first are a part of the line. -/
theorem undecorate_decorated {indentation : List Char} (h : ∀ c ∈ indentation, isBlank c = true)
    (more : Nat) (text : List Char) :
    undecorate (decorated indentation (more + 1) text) =
      if more = 0 then if isBlankText text then [] else text
      else List.replicate more '*' ++ ' ' :: text := by
  have htrim : trimStart (decorated indentation (more + 1) text) =
      '*' :: (List.replicate more '*' ++ ' ' :: text) := by
    rw [decorated, trimStart, List.dropWhile_append_of_pos h]
    rfl
  rw [undecorate, htrim]
  cases more with
  | zero => rfl
  | succ more => simp [List.replicate_succ, isBlankText, isBlank]

/-- Of the stars in front of a line all but one are kept. -/
theorem count_undecorate_decorated {indentation : List Char}
    (h : ∀ c ∈ indentation, isBlank c = true) (more : Nat) (text : List Char) :
    (undecorate (decorated indentation (more + 1) text)).count '*' = more + text.count '*' := by
  rw [undecorate_decorated h]
  split
  next hmore =>
    subst hmore
    split
    next hblank =>
      have hnone : '*' ∉ text := fun hstar =>
        absurd (List.all_eq_true.mp hblank '*' hstar) (by decide)
      simp [List.count_eq_zero.mpr hnone]
    · simp
  · simp [List.count_append]

/-- A line of a comment with stars before it. -/
structure StarredLine where
  indentation : List Char
  stars : Nat
  text : List Char
  indentation_blank : ∀ c ∈ indentation, c = ' ' ∨ c = '\t'
  stars_pos : 0 < stars
  noBreak : '\n' ∉ text
  /-- The line has no stars of its own at its start. -/
  noStar : (trimStart text).head? ≠ some '*'

namespace StarredLine

/-- The line as it stands in a comment. -/
def written (line : StarredLine) : List Char :=
  decorated line.indentation line.stars line.text

/-- The same line after a single star. -/
def single (line : StarredLine) : StarredLine :=
  { line with stars := 1, stars_pos := Nat.one_pos }

/-- The body of the comment that has the given lines. -/
def body (lines : List StarredLine) : List Char := joinWith ['\n'] (lines.map written)

theorem not_mem_written (line : StarredLine) : '\n' ∉ line.written := by
  have hindentation := newline_not_mem_indentation line.indentation_blank
  simp [written, decorated, hindentation, line.noBreak, List.mem_replicate]

theorem written_ne_nil (line : StarredLine) : line.written ≠ [] := by
  simp [written, decorated]

/-- The return at the end of a line belongs to the text after its stars. -/
theorem withoutReturn_written (line : StarredLine) :
    withoutReturn line.written =
      decorated line.indentation line.stars (withoutReturn line.text) := by
  rw [written, decorated, ← List.append_assoc, withoutReturn_append_cons, decorated,
    List.append_assoc]
  cases htext : line.text <;> rfl

/-- One star is dropped from a line, whatever its text is cut down to. -/
theorem count_undecorate (line : StarredLine) (text : List Char) :
    (undecorate (decorated line.indentation line.stars text)).count '*' =
      line.stars - 1 + text.count '*' := by
  obtain ⟨more, hmore⟩ := Nat.exists_eq_add_of_lt line.stars_pos
  rw [Nat.zero_add] at hmore
  rw [hmore, count_undecorate_decorated (isBlank_of_mem_indentation line.indentation_blank),
    Nat.add_sub_cancel]

/-- The lines of a body are read one by one. -/
theorem lines_body_cons (line next : StarredLine) (rest : List StarredLine) :
    Text.lines (body (line :: next :: rest)) =
      withoutReturn line.written :: Text.lines (body (next :: rest)) :=
  lines_joinWith_cons line.not_mem_written next.written (rest.map written)

/-- How many stars are kept of the lines of a comment. -/
def starsKept (written : List StarredLine) : Nat :=
  (written.map fun line => line.stars - 1 + line.text.count '*').sum

/-- The lines of a body keep as many stars as are expected to be left. -/
theorem count_lines_body (written : List StarredLine) :
    ((Text.lines (body written)).flatMap undecorate).count '*' = starsKept written := by
  induction written with
  | nil => rfl
  | cons line rest ih =>
      cases rest with
      | nil =>
          have hlines : Text.lines (body [line]) = [line.written] :=
            lines_eq_singleton line.written_ne_nil line.not_mem_written
          rw [hlines, List.flatMap_singleton, written, count_undecorate]
          simp [starsKept]
      | cons next rest =>
          have hreturn : (withoutReturn line.text).count '*' = line.text.count '*' := by
            rcases eq_withoutReturn line.text with h | h
            · rw [← h]
            · conv_rhs => rw [h]
              simp
          rw [lines_body_cons, List.flatMap_cons, List.count_append, ih, withoutReturn_written,
            count_undecorate, hreturn]
          rfl

/-- Of the stars of a comment those are kept that are not the first ones of their lines. -/
theorem count_read_body (written : List StarredLine) :
    (writtenComment (read (body written))).count '*' = starsKept written := by
  rw [count_writtenComment_read rfl, count_lines_body]

/-- Compared with single stars, all further ones are left. -/
theorem starsKept_eq (written : List StarredLine) :
    starsKept written =
      (written.map fun line => line.stars - 1).sum + starsKept (written.map single) := by
  induction written with
  | nil => rfl
  | cons line rest ih =>
      simp only [starsKept, List.map_cons, List.sum_cons, single] at ih ⊢
      omega

theorem map_single_eq_self {written : List StarredLine} (h : ∀ line ∈ written, line.stars = 1) :
    written.map single = written := by
  have hline : ∀ line ∈ written, single line = line := by
    intro line hline
    have hstars := h line hline
    cases line
    cases hstars
    rfl
  rw [List.map_congr_left hline, List.map_id']

/-- Lines after stars are read like the same lines after single stars only if they are those. -/
theorem read_body_eq_iff (written : List StarredLine) :
    read (body written) = read (body (written.map single)) ↔ ∀ line ∈ written, line.stars = 1 := by
  constructor
  · intro heq line hline
    have hkept : starsKept written = starsKept (written.map single) := by
      rw [← count_read_body, heq, count_read_body]
    have hmore : (written.map fun line => line.stars - 1).sum = 0 := by
      have := starsKept_eq written
      omega
    have hnone : line.stars - 1 = 0 :=
      List.sum_eq_zero_iff_forall_eq_nat.mp hmore _ (List.mem_map_of_mem hline)
    have := line.stars_pos
    omega
  · intro h
    rw [map_single_eq_self h]

/-- A block tag on a line after two stars. -/
def sinceTag : StarredLine where
  indentation := []
  stars := 2
  text := "@since 1.2".toList
  indentation_blank := by simp
  stars_pos := by simp
  noBreak := by decide
  noStar := by decide

/-- A block tag on a line after two stars is read as a description. -/
theorem not_forall_read_body :
    ¬ ∀ written : List StarredLine, read (body written) = read (body (written.map single)) := by
  intro h
  have hseveral : read (body [sinceTag]) = ⟨[.snippet "* @since 1.2"], []⟩ := by cbv
  have hsingle : read (body ([sinceTag].map single)) = ⟨[], [⟨"since", "1.2"⟩]⟩ := by cbv
  have heq := h [sinceTag]
  rw [hseveral, hsingle] at heq
  simp at heq

end StarredLine

end DocSentences.DocComment
