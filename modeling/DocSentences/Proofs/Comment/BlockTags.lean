import DocSentences.Proofs.Comment.Spellings
import DocSentences.Proofs.Text.Collapse

/-!
# Block tags

Every line of a comment belongs to the description or to the block tag that begins at it or is the
nearest one before it. So block tags that are written line by line after a description are read
back, and the description is what it is without them.
-/

namespace DocSentences.DocComment

open Text

/-! ## Lines after stars -/

/-- The lines of a comment, each after a star, with nothing around them. -/
def starredLines (written : List (List Char)) : List Char :=
  joinWith ['\n'] (written.map fun line => ' ' :: '*' :: ' ' :: line)

/-- What is left of a line after a star if no line end follows it. -/
def tidyEnd (line : List Char) : List Char := if isBlankText line then [] else line

theorem isPrefix_tidyEnd (line : List Char) : tidyEnd line <+: line := by
  unfold tidyEnd
  split
  · exact List.nil_prefix
  · exact List.prefix_rfl

theorem tidyEnd_of_trim_eq {line : List Char} (h : trim line = line) : tidyEnd line = line := by
  unfold tidyEnd
  split
  · next hblank => exact (eq_nil_of_trim_eq h hblank).symm
  · rfl

theorem tidy_of_trim_eq {line : List Char} (h : trim line = line) : tidy line = line := by
  rw [tidy, withoutReturn_of_trim_eq h]
  exact tidyEnd_of_trim_eq h

/-- After their stars all lines are tidied, and the last one has no line end to lose. -/
theorem map_undecorate_starredLines {written : List (List Char)} {last : List Char}
    (h : ∀ line ∈ written ++ [last], '\n' ∉ line) :
    (lines (starredLines (written ++ [last]))).map undecorate =
      written.map tidy ++ [tidyEnd last] := by
  have hstars : ∀ line ∈ (written ++ [last]).map fun line => ' ' :: '*' :: ' ' :: line,
      '\n' ∉ line := by
    intro line hline
    obtain ⟨plain, hplain, rfl⟩ := List.mem_map.mp hline
    simpa using h plain hplain
  rw [List.map_append, List.map_singleton, List.forall_mem_append] at hstars
  rw [starredLines, List.map_append, List.map_singleton, joinWith_concat, lines_flatMap hstars.1,
    lines_eq_singleton (List.cons_ne_nil _ _) (hstars.2 _ List.mem_cons_self), List.map_append,
    List.map_map, List.map_map]
  rfl

/-- If the last line is trimmed, all lines are tidied alike. -/
theorem map_undecorate_starredLines_of_trim {written : List (List Char)}
    (h : ∀ line ∈ written, '\n' ∉ line) (hlast : ∀ line ∈ written.getLast?, trim line = line) :
    (lines (starredLines written)).map undecorate = written.map tidy := by
  rcases List.eq_nil_or_concat' written with rfl | ⟨before, last, rfl⟩
  · rfl
  · have htrim : trim last = last := hlast last (by simp)
    rw [map_undecorate_starredLines h, List.map_append, List.map_singleton,
      tidyEnd_of_trim_eq htrim, tidy_of_trim_eq htrim]

/-- What is left of a line after its star is the beginning of that line. -/
theorem isPrefix_of_mem_lines_starredLines {written : List (List Char)}
    (h : ∀ line ∈ written, '\n' ∉ line) {line : List Char}
    (hline : line ∈ (lines (starredLines written)).map undecorate) :
    ∃ plain ∈ written, line <+: plain := by
  induction written using List.reverseRecOn with
  | nil => cases hline
  | append_singleton written last _ =>
      rw [map_undecorate_starredLines h] at hline
      rcases List.mem_append.mp hline with hmem | hmem
      · obtain ⟨plain, hplain, rfl⟩ := List.mem_map.mp hmem
        exact ⟨plain, List.mem_append_left _ hplain, isPrefix_tidy plain⟩
      · rw [List.mem_singleton.mp hmem]
        exact ⟨last, List.mem_append_right _ List.mem_cons_self, isPrefix_tidyEnd last⟩

/-- Whether a carriage return at the end of the last line belongs to it makes no difference. -/
theorem trim_joinWith_starredLines {written : List (List Char)}
    (h : ∀ line ∈ written, '\n' ∉ line) :
    trim (joinWith ['\n'] ((lines (starredLines written)).map undecorate)) =
      trim (joinWith ['\n'] (written.map tidy)) := by
  induction written using List.reverseRecOn with
  | nil => rfl
  | append_singleton written last _ =>
      rw [map_undecorate_starredLines h, List.map_append, List.map_singleton, joinWith_concat,
        joinWith_concat]
      rcases eq_withoutReturn last with hlast | hlast
      · have htidy : tidyEnd last = tidy last := by rw [tidy, ← hlast]; rfl
        rw [htidy]
      · have hblank : isBlankText last = isBlankText (withoutReturn last) := by
          conv_lhs => rw [hlast]
          simp [isBlankText, isBlank]
        rw [tidyEnd, tidy, hblank]
        split
        · rfl
        · conv_lhs => rw [hlast]
          rw [← List.append_assoc]
          exact trim_append_of_blank_right _ (by decide)

/-! ## Blank lines at both ends -/

theorem trim_joinWith_dropWhile (written : List (List Char)) :
    trim (joinWith ['\n'] (written.dropWhile List.isEmpty)) = trim (joinWith ['\n'] written) := by
  induction written with
  | nil => rfl
  | cons line written ih =>
      cases line with
      | cons c line => rfl
      | nil =>
          rw [List.dropWhile_cons_of_pos rfl, ih]
          cases written with
          | nil => rfl
          | cons next rest =>
              exact (trim_append_of_blank_left (s := ['\n']) (by decide) _).symm

theorem trim_joinWith_dropWhile_reverse (written : List (List Char)) :
    trim (joinWith ['\n'] (written.reverse.dropWhile List.isEmpty).reverse) =
      trim (joinWith ['\n'] written) := by
  induction written using List.reverseRecOn with
  | nil => rfl
  | append_singleton written last ih =>
      rw [List.reverse_concat]
      cases last with
      | cons c last =>
          rw [List.dropWhile_cons_of_neg (by simp), List.reverse_cons, List.reverse_reverse]
      | nil =>
          rw [List.dropWhile_cons_of_pos rfl, ih]
          rcases List.eq_nil_or_concat' written with rfl | ⟨before, line, rfl⟩
          · rfl
          · rw [joinWith_concat _ [], joinWith_concat, List.append_nil, List.flatMap_append,
              List.flatMap_singleton, ← List.append_assoc]
            exact (trim_append_of_blank_right _ (by decide)).symm

/-- Blank lines at both ends do not show in a trimmed text. -/
theorem trim_joinWith_dropBlankEnds (written : List (List Char)) :
    trim (joinWith ['\n'] (dropBlankEnds written)) = trim (joinWith ['\n'] written) := by
  rw [dropBlankEnds, trim_joinWith_dropWhile_reverse, trim_joinWith_dropWhile]

/-- Blank lines in front are dropped before lines of which the first and the last are not empty. -/
theorem dropBlankEnds_append {written tagged : List (List Char)} (hne : tagged ≠ [])
    (hfirst : [] ∉ tagged.head?) (hlast : [] ∉ tagged.getLast?) :
    dropBlankEnds (written ++ tagged) = written.dropWhile List.isEmpty ++ tagged := by
  have hkeep : ∀ {lines : List (List Char)}, [] ∉ lines.head? →
      lines.dropWhile List.isEmpty = lines := by
    intro lines hline
    cases lines with
    | nil => rfl
    | cons line rest => exact List.dropWhile_cons_of_neg (by simpa using hline)
  have hfront : (written ++ tagged).dropWhile List.isEmpty =
      written.dropWhile List.isEmpty ++ tagged := by
    rw [List.dropWhile_append, hkeep hfirst]
    split
    · next hnone => rw [List.isEmpty_iff.mp hnone, List.nil_append]
    · rfl
  have hback : [] ∉ (written.dropWhile List.isEmpty ++ tagged).reverse.head? := by
    rwa [List.head?_reverse, List.getLast?_append_of_ne_nil _ hne]
  rw [dropBlankEnds, hfront, hkeep hback, List.reverse_reverse]

/-! ## Block tags as they are written -/

/-- A block tag as it is written: its name, and the lines of its content. -/
structure TagText where
  name : List Char
  first : List Char
  further : List (List Char)
  name_noBlank : ∀ c ∈ name, isBlank c = false
  first_ne_nil : first ≠ []
  noBreak : ∀ line ∈ first :: further, '\n' ∉ line
  trimmed : ∀ line ∈ first :: further, trim line = line
  /-- No later line begins a block tag of its own. -/
  noTag : ∀ line ∈ further, line.head? ≠ some '@'

namespace TagText

/-- The lines of the content. -/
def content (tag : TagText) : List (List Char) := tag.first :: tag.further

/-- The line that the tag begins with. -/
def opening (tag : TagText) : List Char := '@' :: (tag.name ++ ' ' :: tag.first)

/-- The lines of a block tag. -/
def lines (tag : TagText) : List (List Char) := tag.opening :: tag.further

/-- The block tag that is written. -/
def blockTag (tag : TagText) : BlockTag :=
  ⟨String.ofList tag.name, String.ofList (joinWith ['\n'] tag.content)⟩

theorem trim_opening (tag : TagText) : trim tag.opening = tag.opening := by
  apply trim_eq_self
  · rintro c h
    obtain rfl : '@' = c := Option.some.inj h
    rfl
  · intro c h
    have hfirst : trim tag.first = tag.first := tag.trimmed _ List.mem_cons_self
    rw [opening, ← List.cons_append, List.getLast?_append_of_ne_nil _ (List.cons_ne_nil _ _),
      List.getLast?_cons_of_ne_nil tag.first_ne_nil, ← hfirst] at h
    exact not_isBlank_of_getLast?_trim h

/-- Every line of a tag is trimmed. -/
theorem trim_of_mem_lines {tag : TagText} {line : List Char} (h : line ∈ tag.lines) :
    trim line = line := by
  rcases List.mem_cons.mp h with rfl | hmem
  · exact tag.trim_opening
  · exact tag.trimmed line (List.mem_cons_of_mem _ hmem)

theorem not_mem_of_mem_lines {tag : TagText} {line : List Char} (h : line ∈ tag.lines) :
    '\n' ∉ line := by
  rcases List.mem_cons.mp h with rfl | hmem
  · have hname : '\n' ∉ tag.name := fun hc => absurd (tag.name_noBlank _ hc) (by decide)
    simp [opening, hname, tag.noBreak tag.first List.mem_cons_self]
  · exact tag.noBreak line (List.mem_cons_of_mem _ hmem)

/-- A line that begins a tag ends the one before it. -/
theorem addTagLine_opening (tag : TagText) (tags : List BlockTag) :
    addTagLine tags tag.opening =
      ⟨String.ofList tag.name, String.ofList tag.first⟩ :: tags := by
  have hname : ∀ c ∈ tag.name, (!isBlank c) = true := fun c hc => by simp [tag.name_noBlank c hc]
  have htake : (tag.name ++ ' ' :: tag.first).takeWhile (!isBlank ·) = tag.name := by
    rw [List.takeWhile_append_of_pos hname]
    simp [isBlank]
  have hdrop : (tag.name ++ ' ' :: tag.first).dropWhile (!isBlank ·) = [' '] ++ tag.first := by
    rw [List.dropWhile_append_of_pos hname]
    rfl
  have htrim : trim ([' '] ++ tag.first) = tag.first := by
    rw [trim_append_of_blank_left (by decide), tag.trimmed _ List.mem_cons_self]
  unfold addTagLine
  split
  next rest hrest =>
    obtain rfl : tag.name ++ ' ' :: tag.first = rest := (List.cons.inj hrest).2
    rw [htake, hdrop, htrim]
  next hplain => exact absurd rfl (hplain _)
  next hplain => exact absurd rfl (hplain _)

end TagText

/-- A line that begins no tag is added to the latest one. -/
theorem addTagLine_of_head?_ne {line : List Char} (htrim : trim line = line)
    (hline : line.head? ≠ some '@') {name content : List Char} (hcontent : content ≠ [])
    (tags : List BlockTag) :
    addTagLine (⟨String.ofList name, String.ofList content⟩ :: tags) line =
      ⟨String.ofList name, String.ofList (content ++ ['\n'] ++ line)⟩ :: tags := by
  have hstart : trimStart line = line :=
    dropWhile_isBlank_eq_self fun c hc => not_isBlank_of_head?_trim (htrim.symm ▸ hc)
  unfold addTagLine
  rw [hstart]
  split
  next => exact absurd rfl hline
  next h => cases h
  next latest earlier _ h =>
    obtain ⟨rfl, rfl⟩ := List.cons.inj h
    have hempty : (String.ofList content).isEmpty = false := by simpa using hcontent
    dsimp only
    rw [hempty, htrim, if_neg Bool.false_ne_true, String.ofList_append, String.ofList_append]

/-- Lines that open no tag are joined to the content of the last one. -/
theorem foldl_addTagLine_further {further : List (List Char)}
    (htrim : ∀ line ∈ further, trim line = line) (hline : ∀ line ∈ further, line.head? ≠ some '@')
    (name : List Char) {content : List Char} (hcontent : content ≠ []) (tags : List BlockTag) :
    further.foldl addTagLine (⟨String.ofList name, String.ofList content⟩ :: tags) =
      ⟨String.ofList name, String.ofList (joinWith ['\n'] (content :: further))⟩ :: tags := by
  induction further generalizing content with
  | nil => rfl
  | cons line further ih =>
      rw [List.forall_mem_cons] at htrim hline
      rw [List.foldl_cons, addTagLine_of_head?_ne htrim.1 hline.1 hcontent,
        ih htrim.2 hline.2 (by simp)]
      cases further with
      | nil => rfl
      | cons next rest => simp only [joinWith, List.append_assoc]

/-- Tags are read back from their lines, in order. -/
theorem readBlockTags_lines (tags : List TagText) :
    readBlockTags (tags.flatMap TagText.lines) = tags.map TagText.blockTag := by
  suffices h : ∀ earlier, (tags.flatMap TagText.lines).foldl addTagLine earlier =
      (tags.map TagText.blockTag).reverse ++ earlier by
    rw [readBlockTags, h, List.append_nil, List.reverse_reverse]
  induction tags with
  | nil => exact fun _ => rfl
  | cons tag tags ih =>
      intro earlier
      have htrim : ∀ line ∈ tag.further, trim line = line := fun line hline =>
        tag.trimmed line (List.mem_cons_of_mem _ hline)
      rw [List.flatMap_cons, List.foldl_append, TagText.lines, List.foldl_cons,
        TagText.addTagLine_opening, foldl_addTagLine_further htrim tag.noTag _ tag.first_ne_nil, ih,
        List.map_cons, List.reverse_cons, List.append_assoc]
      rfl

/-! ## Comments with block tags -/

variable {prose : List (List Char)} {tags : List TagText}

/-- The beginning of a line that opens no tag opens none. -/
theorem startsTag_of_isPrefix {line plain : List Char} (h : line <+: plain)
    (hplain : (trimStart plain).head? ≠ some '@') : startsTag line = false := by
  refine Bool.eq_false_iff.mpr fun htag => hplain ?_
  exact head?_trimStart_of_isPrefix h (by simpa [startsTag] using htag)

/-- A comment in which no line begins a block tag is a description. -/
theorem read_starredLines_of_noTag (hbreak : ∀ line ∈ prose, '\n' ∉ line)
    (htag : ∀ line ∈ prose, (trimStart line).head? ≠ some '@') :
    read (starredLines prose) =
      ⟨readDescription (trim (joinWith ['\n'] (prose.map tidy))), []⟩ := by
  have huntagged : ∀ line ∈ cleanLines (starredLines prose), (!startsTag line) = true := by
    intro line hline
    obtain ⟨plain, hplain, hprefix⟩ := isPrefix_of_mem_lines_starredLines hbreak
      ((isInfix_dropBlankEnds _).subset hline)
    rw [startsTag_of_isPrefix hprefix (htag plain hplain)]
    rfl
  have htake : (cleanLines (starredLines prose)).takeWhile (!startsTag ·) =
      cleanLines (starredLines prose) := List.takeWhile_eq_self_iff.mpr huntagged
  have hdrop : (cleanLines (starredLines prose)).dropWhile (!startsTag ·) = [] :=
    List.dropWhile_eq_nil_iff.mpr huntagged
  rw [read, htake, hdrop, cleanLines, trim_joinWith_dropBlankEnds,
    trim_joinWith_starredLines hbreak]
  rfl

/-- The lines of tags are trimmed and have no newline in them. -/
theorem mem_lines_of_mem_tags {line : List Char} (h : line ∈ tags.flatMap TagText.lines) :
    '\n' ∉ line ∧ trim line = line := by
  obtain ⟨tag, -, hmem⟩ := List.mem_flatMap.mp h
  exact ⟨TagText.not_mem_of_mem_lines hmem, TagText.trim_of_mem_lines hmem⟩

/-- The lines of tags begin with the opening of the first one. -/
theorem exists_cons_lines (hne : tags ≠ []) :
    ∃ (tag : TagText) (rest : List (List Char)),
      tags.flatMap TagText.lines = tag.opening :: rest := by
  obtain ⟨tag, more, rfl⟩ := List.exists_cons_of_ne_nil hne
  exact ⟨tag, _, rfl⟩

/-- The lines of the tags are kept as they are, and so is what stands before them but for blank
lines at its start. -/
theorem cleanLines_starredLines_tags (hbreak : ∀ line ∈ prose, '\n' ∉ line) (hne : tags ≠ [])
    (hlast : [] ∉ (tags.flatMap TagText.lines).getLast?) :
    cleanLines (starredLines (prose ++ tags.flatMap TagText.lines)) =
      (prose.map tidy).dropWhile List.isEmpty ++ tags.flatMap TagText.lines := by
  obtain ⟨first, rest, htags⟩ := exists_cons_lines hne
  have hbreaks : ∀ line ∈ prose ++ tags.flatMap TagText.lines, '\n' ∉ line :=
    List.forall_mem_append.mpr ⟨hbreak, fun _ hline => (mem_lines_of_mem_tags hline).1⟩
  have htidy : (tags.flatMap TagText.lines).map tidy = tags.flatMap TagText.lines := by
    have hline : ∀ line ∈ tags.flatMap TagText.lines, tidy line = line :=
      fun line hline => tidy_of_trim_eq (mem_lines_of_mem_tags hline).2
    rw [List.map_congr_left hline, List.map_id']
  have htrim : ∀ line ∈ (prose ++ tags.flatMap TagText.lines).getLast?, trim line = line := by
    intro line hline
    rw [List.getLast?_append_of_ne_nil _ (by simp [htags])] at hline
    exact (mem_lines_of_mem_tags (List.mem_of_mem_getLast? hline)).2
  rw [cleanLines, map_undecorate_starredLines_of_trim hbreaks htrim, List.map_append, htidy]
  exact dropBlankEnds_append (by simp [htags]) (by simp [htags, TagText.opening]) hlast

/-- Block tags are read back as they are written, and the lines before them are read as they are
without the tags. So each line is a part of the description or of the nearest tag before it. -/
theorem read_starredLines_tags (prose : List (List Char)) (tags : List TagText)
    (hbreak : ∀ line ∈ prose, '\n' ∉ line)
    (htag : ∀ line ∈ prose, (trimStart line).head? ≠ some '@') (hne : tags ≠ [])
    (hlast : [] ∉ (tags.flatMap TagText.lines).getLast?) :
    read (starredLines (prose ++ tags.flatMap TagText.lines)) =
        ⟨(read (starredLines prose)).description, tags.map TagText.blockTag⟩ ∧
      (read (starredLines prose)).blockTags = [] := by
  obtain ⟨first, rest, htags⟩ := exists_cons_lines hne
  have hprose := read_starredLines_of_noTag hbreak htag
  -- the prose ends where the first tag opens
  have huntagged : ∀ line ∈ (prose.map tidy).dropWhile List.isEmpty, (!startsTag line) = true := by
    intro line hline
    obtain ⟨plain, hplain, rfl⟩ := List.mem_map.mp ((List.dropWhile_sublist _).subset hline)
    rw [startsTag_tidy (htag plain hplain)]
    rfl
  have hopening : startsTag first.opening = true := rfl
  constructor
  · rw [read, cleanLines_starredLines_tags hbreak hne hlast,
      List.takeWhile_append_of_pos huntagged, List.dropWhile_append_of_pos huntagged, hprose]
    rw [htags, List.takeWhile_cons_of_neg (by simp [hopening]),
      List.dropWhile_cons_of_neg (by simp [hopening]), ← htags, List.append_nil,
      trim_joinWith_dropWhile, readBlockTags_lines]
  · rw [hprose]

/-- A tag whose content goes on after an empty line, and one with a single line. -/
def planTags : List TagText :=
  [{ name := "param".toList
     first := "parts <em>what</em> to build with,".toList
     further := [[], "in the order of \x7b@link Plan\x7d".toList]
     name_noBlank := by simp [isBlank]
     first_ne_nil := by decide
     noBreak := by decide
     trimmed := by decide
     noTag := by decide },
   { name := "since".toList
     first := "1.2".toList
     further := []
     name_noBlank := by simp [isBlank]
     first_ne_nil := by decide
     noBreak := by decide
     trimmed := by decide
     noTag := by decide }]

theorem read_planTags :
    read (starredLines
        (["", "Builds a \x7b@link Plan\x7d. ", "   ", "\tTwice.\r"].map String.toList ++
          planTags.flatMap TagText.lines)) =
      ⟨[.snippet "Builds a ", .inlineTag "link" " Plan", .snippet ". \n\n\tTwice."],
        [⟨"param", "parts <em>what</em> to build with,\n\nin the order of \x7b@link Plan\x7d"⟩,
          ⟨"since", "1.2"⟩]⟩ := by
  rw [(read_starredLines_tags _ planTags (by decide) (by decide) (by decide) (by decide)).1]
  cbv

end DocSentences.DocComment
