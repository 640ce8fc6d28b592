import DocSentences.Comment.Reading
import DocSentences.Proofs.Text.Lines

/-!
# Text of documentation comments

Every element that is read from a comment has a text. A comment of plain lines, each written after a
star, is read as one element; its text has the words of the lines, and no character that is not in
one of them but line feeds.
-/

namespace DocSentences.DocComment

open Text

/-! ## Elements that are read -/

/-- Whether an element has a text. -/
def hasText : DocElement → Bool
  | .unrecognized _ => false
  | _ => true

theorem hasText_of_mem_snippet? {text : List Char} {element : DocElement}
    (h : element ∈ snippet? text) : hasText element = true := by
  unfold snippet? at h
  split at h
  · cases h
  · rw [List.mem_singleton.mp h]
    rfl

/-- Every element that is read has a text. -/
theorem hasText_of_mem_readDescription {s : List Char} {element : DocElement}
    (h : element ∈ readDescription s) : hasText element = true := by
  fun_induction readDescription s with
  | case1 => exact hasText_of_mem_snippet? h
  | case2 => exact hasText_of_mem_snippet? h
  | case3 s before inside _ content after _ ih =>
      rcases List.mem_append.mp h with hbefore | hrest
      · exact hasText_of_mem_snippet? hbefore
      · rcases List.mem_cons.mp hrest with rfl | hafter
        · rfl
        · exact ih hafter

/-- Elements that have a text are written as one. -/
theorem exists_elementsText {elements : List DocElement}
    (h : ∀ element ∈ elements, hasText element = true) :
    ∃ text, elementsText elements = .ok text := by
  induction elements with
  | nil => exact ⟨[], rfl⟩
  | cons element elements ih =>
      obtain ⟨more, hmore⟩ := ih fun other hother => h other (List.mem_cons_of_mem element hother)
      have helement := h element List.mem_cons_self
      cases element with
      | unrecognized => cases helement
      | snippet text => exact ⟨text.toList ++ more, by simp only [elementsText, elementText, hmore]⟩
      | inlineTag name content =>
          exact ⟨trim content.toList ++ more, by simp only [elementsText, elementText, hmore]⟩

/-- Every comment that is read has a text. -/
theorem exists_text_read (body : List Char) : ∃ text, (read body).text = .ok text :=
  exists_elementsText fun _ => hasText_of_mem_readDescription

/-! ## Lines after stars -/

/-- Whether a line of a comment is read as it stands: it has no line feed, opens no inline tag and
no block tag, and does not close the comment. -/
structure IsProse (line : List Char) : Prop where
  noBreak : '\n' ∉ line
  noInlineTag : ¬ ['{', '@'] <:+: line
  noBlockTag : (trimStart line).head? ≠ some '@'
  noEnd : ¬ ['*', '/'] <:+: line

/-- The body of a comment that has each of the given lines after a star. -/
def starred (lines : List (List Char)) : List Char :=
  '\n' :: ((lines.map fun line => ' ' :: '*' :: ' ' :: line).flatMap (· ++ ['\n']) ++ [' '])

/-- What is left of a line after a star. -/
def tidy (line : List Char) : List Char :=
  if isBlankText (withoutReturn line) then [] else withoutReturn line

theorem isPrefix_tidy (line : List Char) : tidy line <+: line := by
  unfold tidy
  split
  · exact List.nil_prefix
  · exact isPrefix_withoutReturn line

@[simp] theorem words_tidy (line : List Char) : words (tidy line) = words line := by
  unfold tidy
  split
  · next hblank => rw [← words_withoutReturn line, words_of_isBlankText hblank, words_nil]
  · exact words_withoutReturn line

/-- Tidying a line that opens no tag leaves it so. -/
theorem startsTag_tidy {line : List Char} (h : (trimStart line).head? ≠ some '@') :
    startsTag (tidy line) = false := by
  refine Bool.eq_false_iff.mpr fun htag => h ?_
  exact head?_trimStart_of_isPrefix (isPrefix_tidy line) (by simpa [startsTag] using htag)

/-- The lines that are read from lines after stars. -/
theorem map_undecorate_starred {written : List (List Char)} (h : ∀ line ∈ written, '\n' ∉ line) :
    (lines (starred written)).map undecorate = [] :: (written.map tidy ++ [[]]) := by
  have hstars : ∀ line ∈ written.map fun line => ' ' :: '*' :: ' ' :: line, '\n' ∉ line := by
    intro line hline
    obtain ⟨plain, hplain, rfl⟩ := List.mem_map.mp hline
    simpa using h plain hplain
  have hlines : lines (starred written) = [] :: lines _ := rfl
  rw [hlines, lines_flatMap hstars, List.map_cons, List.map_append, List.map_map, List.map_map]
  rfl

/-! ## Indentation -/

section Indentation

variable {indentation : List Char} (h : ∀ c ∈ indentation, c = ' ' ∨ c = '\t')

include h

theorem isBlank_of_mem_indentation : ∀ c ∈ indentation, isBlank c = true := by
  intro c hc
  rcases h c hc with rfl | rfl <;> rfl

theorem newline_not_mem_indentation : '\n' ∉ indentation := by
  intro hmem
  simpa using h '\n' hmem

end Indentation

/-! ## Blank lines at both ends -/

/-- Without the blank lines at both ends, the lines are a contiguous part of all lines. -/
theorem isInfix_dropBlankEnds (written : List (List Char)) :
    dropBlankEnds written <:+: written := by
  have hfront := List.dropWhile_suffix List.isEmpty (l := written)
  have hback := List.dropWhile_suffix List.isEmpty (l := (written.dropWhile List.isEmpty).reverse)
  rw [← List.reverse_prefix, List.reverse_reverse] at hback
  exact hback.isInfix.trans hfront.isInfix

theorem flatMap_of_isEmpty {α : Type} {f : List Char → List α} (hf : f [] = [])
    {written : List (List Char)} (h : ∀ line ∈ written, line.isEmpty = true) :
    written.flatMap f = [] :=
  List.flatMap_eq_nil_iff.mpr fun line hline => by
    rw [List.isEmpty_iff.mp (h line hline), hf]

theorem isEmpty_of_mem_takeWhile {written : List (List Char)} {line : List Char}
    (h : line ∈ written.takeWhile List.isEmpty) : line.isEmpty = true :=
  List.all_eq_true.mp List.all_takeWhile line h

/-- What the lines hold, if nothing is what an empty line holds, is what is left of them. -/
theorem flatMap_dropBlankEnds {α : Type} {f : List Char → List α} (hf : f [] = [])
    (written : List (List Char)) : (dropBlankEnds written).flatMap f = written.flatMap f := by
  let kept := written.dropWhile List.isEmpty
  have hfront : (written.takeWhile List.isEmpty).flatMap f = [] :=
    flatMap_of_isEmpty hf fun _ => isEmpty_of_mem_takeWhile
  have hback : (kept.reverse.takeWhile List.isEmpty).reverse.flatMap f = [] :=
    flatMap_of_isEmpty hf fun _ hline => isEmpty_of_mem_takeWhile (List.mem_reverse.mp hline)
  calc (dropBlankEnds written).flatMap f
      = (kept.reverse.takeWhile List.isEmpty ++
          kept.reverse.dropWhile List.isEmpty).reverse.flatMap f := by
        rw [List.reverse_append, List.flatMap_append, hback, List.append_nil]
        rfl
    _ = kept.flatMap f := by rw [List.takeWhile_append_dropWhile, List.reverse_reverse]
    _ = (written.takeWhile List.isEmpty ++ kept).flatMap f := by
        rw [List.flatMap_append, hfront, List.nil_append]
    _ = written.flatMap f := by rw [List.takeWhile_append_dropWhile]

/-! ## Comments of plain lines -/

theorem breakAtTag_eq_none {s : List Char} (h : ¬ ['{', '@'] <:+: s) : breakAtTag s = none := by
  fun_induction breakAtTag s with
  | case1 => rfl
  | case2 rest => exact absurd (List.prefix_append ['{', '@'] rest).isInfix h
  | case3 c rest _ ih => rw [ih fun hrest => h (List.infix_cons hrest)]; rfl

/-- Text without inline tags is one element. -/
theorem elementsText_readDescription {s : List Char} (h : ¬ ['{', '@'] <:+: s) :
    elementsText (readDescription s) = .ok s := by
  have hread : readDescription s = snippet? s := by
    rw [readDescription]
    split
    · rfl
    · next hbreak => rw [breakAtTag_eq_none h] at hbreak; cases hbreak
  rw [hread, snippet?]
  split
  · next hempty => rw [List.isEmpty_iff.mp hempty]; rfl
  · simp [elementsText, elementText]

variable {written : List (List Char)}

/-- The delimiter that closes a comment does not stand before its end. -/
theorem not_close_infix_starred (h : ∀ line ∈ written, ¬ ['*', '/'] <:+: line) :
    ¬ ['*', '/'] <:+: starred written := by
  have hstars : ∀ line ∈ written.map fun line => ' ' :: '*' :: ' ' :: line,
      ¬ ['*', '/'] <:+: line := by
    intro line hline
    obtain ⟨plain, hplain, rfl⟩ := List.mem_map.mp hline
    exact not_pair_infix_append_cons (b := ' ') (s := [' ', '*']) (by decide) (by decide)
      (by decide) (h plain hplain)
  exact not_pair_infix_append_cons (s := []) (by decide) (by decide) (by decide)
    (not_pair_infix_flatMap (by decide) (by decide) hstars (by decide))

/-- The lines of a starred comment are tidied, without the blank ones at both ends. -/
theorem cleanLines_starred (h : ∀ line ∈ written, '\n' ∉ line) :
    cleanLines (starred written) = dropBlankEnds ([] :: (written.map tidy ++ [[]])) := by
  rw [cleanLines, map_undecorate_starred h]

theorem mem_cleanLines_starred (h : ∀ line ∈ written, '\n' ∉ line) {line : List Char}
    (hline : line ∈ cleanLines (starred written)) :
    line = [] ∨ ∃ plain ∈ written, line = tidy plain := by
  rw [cleanLines_starred h] at hline
  have hmem := (isInfix_dropBlankEnds _).subset hline
  simp only [List.mem_cons, List.mem_append, List.mem_map, List.not_mem_nil, or_false] at hmem
  rcases hmem with rfl | ⟨plain, hplain, rfl⟩ | rfl
  · exact .inl rfl
  · exact .inr ⟨plain, hplain, rfl⟩
  · exact .inl rfl

/-- The words of a starred comment are those of its lines. -/
theorem words_cleanLines_starred (h : ∀ line ∈ written, '\n' ∉ line) :
    (cleanLines (starred written)).flatMap words = written.flatMap words := by
  rw [cleanLines_starred h, flatMap_dropBlankEnds words_nil]
  simp [List.flatMap_map]

/-- No line of the comment begins a block tag, so all of them belong to the description. -/
theorem takeWhile_cleanLines_starred (h : ∀ line ∈ written, IsProse line) :
    (cleanLines (starred written)).takeWhile (!startsTag ·) = cleanLines (starred written) := by
  have huntagged : ∀ line ∈ cleanLines (starred written), (!startsTag line) = true := by
    intro line hline
    rcases mem_cleanLines_starred (fun line hline => (h line hline).noBreak) hline with
      rfl | ⟨plain, hplain, rfl⟩
    · rfl
    · rw [startsTag_tidy (h plain hplain).noBlockTag]
      rfl
  have htake : (cleanLines (starred written) ++ []).takeWhile (!startsTag ·) =
      cleanLines (starred written) ++ [] := List.takeWhile_append_of_pos huntagged
  rwa [List.append_nil] at htake

/-- Lines of prose open no tag, not even across the end of a line. -/
theorem not_tag_infix_starred (h : ∀ line ∈ written, IsProse line) :
    ¬ ['{', '@'] <:+: joinWith ['\n'] (cleanLines (starred written)) := by
  refine not_pair_infix_joinWith (by decide) (by decide) fun line hline hpair => ?_
  rcases mem_cleanLines_starred (fun line hline => (h line hline).noBreak) hline with
    rfl | ⟨plain, hplain, rfl⟩
  · exact absurd hpair (by decide)
  · exact (h plain hplain).noInlineTag (hpair.trans (isPrefix_tidy plain).isInfix)

/-- A comment of plain lines has a text with the words of the lines. -/
theorem text_read_starred (h : ∀ line ∈ written, IsProse line) :
    ∃ text, (read (starred written)).text = .ok text ∧ words text = written.flatMap words ∧
      ∀ c ∈ text, c = '\n' ∨ ∃ line ∈ written, c ∈ line := by
  have hbreaks : ∀ line ∈ written, '\n' ∉ line := fun line hline => (h line hline).noBreak
  have hread : (read (starred written)).text = elementsText (readDescription
      (trim (joinWith ['\n'] ((cleanLines (starred written)).takeWhile (!startsTag ·))))) := rfl
  rw [takeWhile_cleanLines_starred h] at hread
  refine ⟨trim (joinWith ['\n'] (cleanLines (starred written))), ?_, ?_, ?_⟩
  · rw [hread]
    exact elementsText_readDescription fun hpair =>
      not_tag_infix_starred h (hpair.trans (isInfix_trim _))
  · rw [words_trim, words_joinWith (by decide), words_cleanLines_starred hbreaks]
  · intro c hc
    rcases mem_joinWith ((isInfix_trim _).subset hc) with hbreak | ⟨line, hline, hmem⟩
    · exact .inl (List.mem_singleton.mp hbreak)
    · rcases mem_cleanLines_starred hbreaks hline with rfl | ⟨plain, hplain, rfl⟩
      · cases hmem
      · exact .inr ⟨plain, hplain, (isPrefix_tidy plain).subset hmem⟩

end DocSentences.DocComment
