import DocSentences.Comment.Reading
import DocSentences.Proofs.Text.Offsets

/-!
# Reading documentation comments by offset

The parts of a comment may be cut out by byte offsets that are found beforehand, each by a loop of
its own: where a tag opens, how long its brace group is, where its name ends. All of the parts are
there, and they are the ones that reading from front to back gives.
-/

namespace DocSentences.DocComment

open Text

/-! ## Inline tags -/

/-- The byte offset of the first `{@`. -/
def tagOffset? : List Char → Option Nat
  | [] => none
  | '{' :: '@' :: _ => some 0
  | c :: rest => (tagOffset? rest).map (c.utf8Size + ·)

/-- The number of bytes up to the end of the brace group that a text begins with, or `none` if it is
never closed. `offset` bytes lie before the text and `depth` groups are open there; one of them has
to be open for a brace to be closed. -/
def groupLength? (depth offset : Nat) : List Char → Option (Option Nat)
  | [] => some none
  | c :: rest =>
      if c = '{' then groupLength? (depth + 1) (offset + c.utf8Size) rest
      else if c = '}' then
        match sub? depth 1 with
        | none => none
        | some 0 => some (some (offset + 1))
        | some (outer + 1) => groupLength? (outer + 1) (offset + c.utf8Size) rest
      else groupLength? depth (offset + c.utf8Size) rest

/-- An inline tag, from what stands inside of its braces. -/
def inlineTag? (inside : List Char) : Option DocElement := do
  let (name, content) ← splitBytes? (findByte isBlank inside) inside
  return .inlineTag (String.ofList name) (String.ofList content)

/-- What stands before the first inline tag, inside and after it. -/
def splitTag? (s : List Char) : Option (Option (List Char × List Char × List Char)) :=
  match tagOffset? s with
  | none => some none
  | some start => do
      let (before, group) ← splitBytes? start s
      match ← groupLength? 0 0 group with
      | none => return none
      | some length =>
          let last ← sub? (start + length) 1
          let inside ← sliceBytes? s (start + 2) last
          let (_, after) ← splitBytes? (start + length) s
          return some (before, inside, after)

/-! ### Agreement -/

/-- The offset of the first tag is the byte length of what stands before it. -/
theorem tagOffset?_eq (s : List Char) :
    tagOffset? s = (breakAtTag s).map fun parts => byteLength parts.1 := by
  fun_induction breakAtTag s with
  | case1 => rfl
  | case2 rest => rfl
  | case3 c rest hopen ih =>
      rw [tagOffset?, ih]
      · cases breakAtTag rest <;> simp
      · exact hopen

theorem eq_append_of_breakAtTag {s before inside : List Char}
    (h : breakAtTag s = some (before, inside)) : s = before ++ '{' :: '@' :: inside := by
  fun_induction breakAtTag s generalizing before with
  | case1 => simp at h
  | case2 rest =>
      simp only [Option.some.injEq, Prod.mk.injEq] at h
      obtain ⟨rfl, rfl⟩ := h
      rfl
  | case3 c rest _ ih =>
      obtain ⟨⟨b, i⟩, hi, heq⟩ := Option.map_eq_some_iff.1 h
      cases heq
      exact congrArg (c :: ·) (ih hi)

theorem eq_append_of_breakAtClose {s inside after : List Char} {depth : Nat}
    (h : breakAtClose depth s = some (inside, after)) : s = inside ++ '}' :: after := by
  fun_induction breakAtClose depth s generalizing inside with
  | case1 => simp at h
  | case2 depth rest ih | case4 rest outer ih | case5 depth c rest _ _ ih =>
      obtain ⟨⟨b, i⟩, hi, heq⟩ := Option.map_eq_some_iff.1 h
      cases heq
      exact congrArg (List.cons _) (ih hi)
  | case3 rest =>
      simp only [Option.some.injEq, Prod.mk.injEq] at h
      obtain ⟨rfl, rfl⟩ := h
      rfl

/-- Inside of a group no brace is closed that is not open, and the length is what stands up to the
closing brace. -/
theorem groupLength?_eq (depth offset : Nat) (s : List Char) :
    groupLength? (depth + 1) offset s =
      some ((breakAtClose depth s).map fun parts => offset + byteLength parts.1 + 1) := by
  fun_induction breakAtClose depth s generalizing offset with
  | case1 => rfl
  | case2 depth rest ih =>
      rw [groupLength?, if_pos rfl, ih]
      cases breakAtClose (depth + 1) rest <;> simp [Nat.add_assoc]
  | case3 rest => rfl
  | case4 rest outer ih =>
      rw [groupLength?, if_neg (by decide), if_pos rfl, sub?_of_add_eq rfl]
      dsimp only
      rw [ih]
      cases breakAtClose outer rest <;> simp [Nat.add_assoc]
  | case5 depth c rest hopen hclose ih =>
      rw [groupLength?, if_neg hopen, if_neg hclose, ih]
      cases breakAtClose depth rest <;> simp [Nat.add_assoc]

/-- What stands before the first inline tag, inside and after it, read from front to back. -/
def splitTag (s : List Char) : Option (List Char × List Char × List Char) := do
  let (before, rest) ← breakAtTag s
  let (inside, after) ← breakAtClose 0 rest
  return (before, inside, after)

/-- The length of a tag is that of its inside and of the three characters around it. -/
theorem groupLength?_tag (inside : List Char) :
    groupLength? 0 0 ('{' :: '@' :: inside) =
      some ((breakAtClose 0 inside).map fun parts => byteLength parts.1 + 3) := by
  have hgroup : groupLength? 0 0 ('{' :: '@' :: inside) = groupLength? 1 2 inside := rfl
  rw [hgroup, groupLength?_eq]
  cases breakAtClose 0 inside <;> simp; omega

/-- What stands inside of a tag is taken out from after its opening up to its closing brace. -/
theorem sliceBytes?_tag (before inside after : List Char) :
    sliceBytes? (before ++ '{' :: '@' :: (inside ++ '}' :: after)) (byteLength before + 2)
      (byteLength before + 2 + byteLength inside) = some inside := by
  have hopen : byteLength (before ++ ['{', '@']) = byteLength before + 2 :=
    byteLength_append before ['{', '@']
  have hslice := sliceBytes?_append (before ++ ['{', '@']) inside ('}' :: after)
  rwa [hopen, List.append_assoc] at hslice

/-- A tag ends where its brace group does. -/
theorem splitBytes?_tag (before inside after : List Char) :
    splitBytes? (byteLength before + (byteLength inside + 3))
      (before ++ '{' :: '@' :: (inside ++ '}' :: after)) =
        some (before ++ ['{', '@'] ++ inside ++ ['}'], after) := by
  have hlength : byteLength (before ++ ['{', '@'] ++ inside ++ ['}']) =
      byteLength before + (byteLength inside + 3) := by
    have hbraces : byteLength ['{', '@'] = 2 ∧ byteLength ['}'] = 1 := ⟨rfl, rfl⟩
    simp only [byteLength_append, hbraces]
    omega
  rw [← hlength, ← splitBytes?_append]
  simp

/-- Splitting at a tag by offset never misses. -/
theorem splitTag?_eq (s : List Char) : splitTag? s = some (splitTag s) := by
  unfold splitTag? splitTag
  rw [tagOffset?_eq]
  cases htag : breakAtTag s with
  | none => rfl
  | some parts =>
      obtain ⟨before, rest⟩ := parts
      obtain rfl := eq_append_of_breakAtTag htag
      have hstart := splitBytes?_append before ('{' :: '@' :: rest)
      cases hclose : breakAtClose 0 rest with
      | none => simp [hstart, groupLength?_tag, hclose]
      | some parts =>
          obtain ⟨inside, after⟩ := parts
          obtain rfl := eq_append_of_breakAtClose hclose
          have hlast : sub? (byteLength before + (byteLength inside + 3)) 1 =
              some (byteLength before + 2 + byteLength inside) := sub?_of_add_eq (by omega)
          simp [hstart, groupLength?_tag, hclose, hlast, sliceBytes?_tag, splitBytes?_tag]

theorem inlineTag?_eq (inside : List Char) : inlineTag? inside = some (inlineTag inside) := by
  rw [inlineTag?, splitBytes?_findByte]
  rfl

/-- Less is left after a tag. -/
theorem length_splitTag {s before inside after : List Char}
    (h : splitTag s = some (before, inside, after)) : after.length < s.length := by
  unfold splitTag at h
  cases htag : breakAtTag s with
  | none => rw [htag] at h; cases h
  | some parts =>
      obtain ⟨first, rest⟩ := parts
      have hrest := length_breakAtTag htag
      cases hclose : breakAtClose 0 rest with
      | none => simp [htag, hclose] at h
      | some parts =>
          obtain ⟨content, last⟩ := parts
          have hlast := length_breakAtClose hclose
          simp only [htag, hclose, Option.bind_eq_bind, Option.bind_some, Option.pure_def,
            Option.some.injEq, Prod.mk.injEq] at h
          obtain ⟨-, -, rfl⟩ := h
          omega

/-- The elements of a description, cut out by offset. -/
def readDescription? (s : List Char) : Option (List DocElement) :=
  match _h : splitTag? s with
  | none => none
  | some none => some (snippet? s)
  | some (some (before, inside, after)) => do
      let tag ← inlineTag? inside
      let more ← readDescription? after
      return snippet? before ++ tag :: more
termination_by s.length
decreasing_by
  rw [splitTag?_eq] at _h
  exact length_splitTag (Option.some.inj _h)

theorem readDescription?_of_splitTag_none {s : List Char} (h : splitTag s = none) :
    readDescription? s = some (snippet? s) := by
  have hsplit := splitTag?_eq s
  rw [readDescription?]
  split <;> simp_all

theorem readDescription?_of_splitTag {s before inside after : List Char}
    (h : splitTag s = some (before, inside, after)) :
    readDescription? s =
      (readDescription? after).map fun more => snippet? before ++ inlineTag inside :: more := by
  have hsplit := splitTag?_eq s
  rw [readDescription?]
  split
  · simp_all
  · simp_all
  · next first content last hparts =>
      rw [hsplit, h] at hparts
      cases hparts
      rw [inlineTag?_eq]
      cases readDescription? after <;> rfl

/-- The elements cut out by offset are the elements read from front to back. -/
theorem readDescription?_eq (s : List Char) : readDescription? s = some (readDescription s) := by
  fun_induction readDescription s with
  | case1 s htag => exact readDescription?_of_splitTag_none (by simp [splitTag, htag])
  | case2 s before inside htag hclose =>
      exact readDescription?_of_splitTag_none (by simp [splitTag, htag, hclose])
  | case3 s before inside htag content after hclose ih =>
      have hsplit : splitTag s = some (before, content, after) := by simp [splitTag, htag, hclose]
      rw [readDescription?_of_splitTag hsplit, ih]
      rfl

/-! ## Block tags -/

/-- One more line of the block tags, with the name of a tag cut out by offset. -/
def addTagLine? (tags : List BlockTag) (line : List Char) : Option (List BlockTag) :=
  match trimStart line with
  | '@' :: tag => do
      let (name, content) ← splitBytes? (findByte isBlank tag) tag
      return ⟨String.ofList name, String.ofList (trim content)⟩ :: tags
  | _ => some (addTagLine tags line)

theorem addTagLine?_eq (tags : List BlockTag) (line : List Char) :
    addTagLine? tags line = some (addTagLine tags line) := by
  unfold addTagLine?
  split
  · next tag htag =>
      rw [splitBytes?_findByte, addTagLine.eq_def, htag]
      rfl
  · rfl

theorem foldlM_addTagLine? (tags : List BlockTag) (lines : List (List Char)) :
    lines.foldlM addTagLine? tags = some (lines.foldl addTagLine tags) := by
  induction lines generalizing tags with
  | nil => rfl
  | cons line lines ih =>
      rw [List.foldlM_cons, addTagLine?_eq]
      exact ih _

/-! ## Comments -/

/-- Removes the first line as long as there is an empty one. -/
def dropEmpty? (lines : List (List Char)) : Option (List (List Char)) :=
  if lines.head?.any List.isEmpty then
    match _h : remove? lines 0 with
    | none => none
    | some rest => dropEmpty? rest
  else some lines
termination_by lines.length
decreasing_by exact length_remove? _h

/-- The lines of a comment body without decoration. -/
def cleanLines? (body : List Char) : Option (List (List Char)) := do
  let kept ← dropEmpty? ((lines body).map undecorate)
  return (kept.reverse.dropWhile List.isEmpty).reverse

/-- The comment with the given body, its parts cut out by index and by offset. -/
def read? (body : List Char) : Option DocComment := do
  let cleaned ← cleanLines? body
  let first := cleaned.findIdx startsTag
  let prose ← slice? cleaned 0 first
  let tagged ← slice? cleaned first cleaned.length
  let description ← readDescription? (trim (joinWith ['\n'] prose))
  let tags ← tagged.foldlM addTagLine? []
  return ⟨description, tags.reverse⟩

theorem dropEmpty?_eq (lines : List (List Char)) :
    dropEmpty? lines = some (lines.dropWhile List.isEmpty) := by
  induction lines with
  | nil => rw [dropEmpty?]; rfl
  | cons line rest ih =>
      rw [dropEmpty?]
      cases hline : line.isEmpty with
      | true =>
          rw [if_pos (by simp [hline]), List.dropWhile_cons_of_pos hline, ← ih]
          split <;> simp_all
      | false => simp [hline]

/-- Cleaning the lines of a comment by index never misses. -/
theorem cleanLines?_eq (body : List Char) : cleanLines? body = some (cleanLines body) := by
  rw [cleanLines?, dropEmpty?_eq]
  rfl

/-- The comment read by position is the comment read from front to back. -/
theorem read?_eq (body : List Char) : read? body = some (read body) := by
  obtain ⟨hprose, htagged⟩ := slice?_findIdx startsTag (cleanLines body)
  rw [read?, cleanLines?_eq]
  simp only [Option.bind_eq_bind, Option.bind_some, hprose, htagged, readDescription?_eq,
    foldlM_addTagLine?]
  rfl

end DocSentences.DocComment
