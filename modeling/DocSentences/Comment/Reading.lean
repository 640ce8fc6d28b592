import DocSentences.Comment.Basic
import DocSentences.Text.Lines

/-!
# Reading documentation comments

The body of a comment is read line by line: the star that decorates a line is dropped, blank lines
at both ends are dropped, and the first line that starts with `@` begins the block tags. Inline tags
are brace groups that open with `{@`; a group that is never closed is plain text.
-/

namespace DocSentences.DocComment

open Text

/-- A line without its decoration: a star after blank characters, and one space or tab after it. A
line with nothing but blank characters left is empty. -/
def undecorate (line : List Char) : List Char :=
  let stripped :=
    match trimStart line with
    | '*' :: ' ' :: rest => rest
    | '*' :: '\t' :: rest => rest
    | '*' :: rest => rest
    | _ => line
  if isBlankText stripped then [] else stripped

/-- Drops the empty lines at both ends. -/
def dropBlankEnds (lines : List (List Char)) : List (List Char) :=
  ((lines.dropWhile List.isEmpty).reverse.dropWhile List.isEmpty).reverse

/-- The lines of a comment body without decoration. -/
def cleanLines (body : List Char) : List (List Char) :=
  dropBlankEnds ((lines body).map undecorate)

/-- Whether a line begins a block tag. -/
def startsTag (line : List Char) : Bool :=
  (trimStart line).head? == some '@'

/-- Splits a text before its first `{@`. -/
def breakAtTag : List Char → Option (List Char × List Char)
  | [] => none
  | '{' :: '@' :: rest => some ([], rest)
  | c :: rest => (breakAtTag rest).map fun (before, inside) => (c :: before, inside)

/-- Splits a text at the brace that closes the group it lies in, where `depth` more groups are open
around it. -/
def breakAtClose (depth : Nat) : List Char → Option (List Char × List Char)
  | [] => none
  | '{' :: rest => (breakAtClose (depth + 1) rest).map fun (inside, after) => ('{' :: inside, after)
  | '}' :: rest =>
      match depth with
      | 0 => some ([], rest)
      | outer + 1 => (breakAtClose outer rest).map fun (inside, after) => ('}' :: inside, after)
  | c :: rest => (breakAtClose depth rest).map fun (inside, after) => (c :: inside, after)

theorem length_breakAtTag {s before inside : List Char} (h : breakAtTag s = some (before, inside)) :
    inside.length < s.length := by
  fun_induction breakAtTag s generalizing before with
  | case1 => simp at h
  | case2 rest =>
      simp only [Option.some.injEq, Prod.mk.injEq] at h
      obtain ⟨-, rfl⟩ := h
      simp only [List.length_cons]; omega
  | case3 c rest _ ih =>
      obtain ⟨⟨b, i⟩, hi, heq⟩ := Option.map_eq_some_iff.1 h
      cases heq
      have := ih hi
      simp only [List.length_cons]; omega

theorem length_breakAtClose {s inside after : List Char} {depth : Nat}
    (h : breakAtClose depth s = some (inside, after)) : after.length < s.length := by
  fun_induction breakAtClose depth s generalizing inside with
  | case1 => simp at h
  | case2 depth rest ih | case5 depth c rest _ _ ih =>
      obtain ⟨⟨b, i⟩, hi, heq⟩ := Option.map_eq_some_iff.1 h
      cases heq
      have := ih hi
      simp only [List.length_cons]; omega
  | case3 rest => simp_all
  | case4 rest outer ih =>
      obtain ⟨⟨b, i⟩, hi, heq⟩ := Option.map_eq_some_iff.1 h
      cases heq
      have := ih hi
      simp only [List.length_cons]; omega

/-- The inline tag written inside a group: the name reaches to the first blank character. -/
def inlineTag (inside : List Char) : DocElement :=
  .inlineTag (String.ofList (inside.takeWhile (!isBlank ·)))
    (String.ofList (inside.dropWhile (!isBlank ·)))

/-- Plain text as an element, unless there is none. -/
def snippet? (text : List Char) : List DocElement :=
  if text.isEmpty then [] else [.snippet (String.ofList text)]

/-- The elements of a description. -/
def readDescription (s : List Char) : List DocElement :=
  match _h : breakAtTag s with
  | none => snippet? s
  | some (before, inside) =>
      match _h : breakAtClose 0 inside with
      | none => snippet? s
      | some (content, after) => snippet? before ++ inlineTag content :: readDescription after
termination_by s.length
decreasing_by
  have := length_breakAtTag ‹breakAtTag s = _›
  have := length_breakAtClose ‹breakAtClose 0 inside = _›
  omega

/-- One more line of the block tags, of which the latest comes first: a new tag, or more content of
the latest. -/
def addTagLine (tags : List BlockTag) (line : List Char) : List BlockTag :=
  match trimStart line, tags with
  | '@' :: tag, _ =>
      ⟨String.ofList (tag.takeWhile (!isBlank ·)),
        String.ofList (trim (tag.dropWhile (!isBlank ·)))⟩ :: tags
  | _, [] => []
  | _, latest :: earlier =>
      let more := String.ofList (trim line)
      ⟨latest.name,
        if latest.content.isEmpty then more else latest.content ++ "\n" ++ more⟩ :: earlier

/-- The block tags that lines hold. -/
def readBlockTags (lines : List (List Char)) : List BlockTag :=
  (lines.foldl addTagLine []).reverse

/-- The comment with the given body, the text between the delimiters. -/
def read (body : List Char) : DocComment :=
  let cleaned := cleanLines body
  let prose := cleaned.takeWhile (!startsTag ·)
  let tagged := cleaned.dropWhile (!startsTag ·)
  ⟨readDescription (trim (joinWith ['\n'] prose)), readBlockTags tagged⟩

end DocSentences.DocComment
