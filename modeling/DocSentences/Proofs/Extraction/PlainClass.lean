import DocSentences.Extraction.Records
import DocSentences.Proofs.Declaration.Layout
import DocSentences.Proofs.Extraction.Description
import DocSentences.Proofs.Text.Utf8

/-!
# Records of a class with a plain comment

A source file that declares a class after a comment without any markup gives the sentences of the
lines of that comment, with whatever stands between the comment and the class name and in the body.
-/

namespace DocSentences.Extraction

open Declaration Text

/-- A class with a comment of plain lines before it. -/
structure PlainClass where
  lines : List (List Char)
  hlines : ∀ line ∈ lines, DocComment.IsProse line
  hmarkup : ∀ line ∈ lines, '<' ∉ line ∧ '&' ∉ line
  /-- Modifiers and annotations, with the blank characters after them. -/
  modifiers : List Piece
  hmodifiers : ∀ l ∈ outerOf modifiers, l.settlesComment = false
  hapart : Apart (lexemesOf modifiers) "class".toList
  name : Word
  body : List Lexeme
  hbody : Balanced .brace (tokensOf body)
  hend : Apart body "\x7d".toList

namespace PlainClass

def text (c : PlainClass) : List Char :=
  "/**\n".toList ++ c.lines.flatMap (fun line => " * ".toList ++ line ++ "\n".toList) ++
    " */\n".toList ++ textOf (lexemesOf c.modifiers) ++ "class ".toList ++ c.name.text ++
      " \x7b".toList ++ textOf c.body ++ "\x7d".toList

def comment (c : PlainClass) : Lexeme :=
  .docComment (DocComment.starred c.lines) (by simp [DocComment.starred])
    (DocComment.not_close_infix_starred fun line hline => (c.hlines line hline).noEnd)

/-- The declaration of the class, with the comment. -/
def source (c : PlainClass) : TypeSource where
  prelude := .lexeme c.comment rfl :: .lineFeed :: c.modifiers
  kind := .classType
  gap := [space]
  hgap := isGap_of_mem_space
  name := c.name
  header := [.space]
  body := c.body
  hbody := c.hbody

/-- The comment of a plain class stands on lines that begin with a star. -/
theorem text_comment (c : PlainClass) :
    c.comment.text ++ ['\n'] =
      "/**\n".toList ++ c.lines.flatMap (fun line => " * ".toList ++ line ++ "\n".toList) ++
        " */\n".toList := by
  have hlines : (c.lines.map fun line => ' ' :: '*' :: ' ' :: line).flatMap (· ++ ['\n']) =
      c.lines.flatMap fun line => " * ".toList ++ line ++ "\n".toList := List.flatMap_map ..
  have hopen : "/**\n".toList = ['/', '*', '*', '\n'] := rfl
  have hclose : " */\n".toList = [' ', '*', '/', '\n'] := rfl
  have htext : c.comment.text = '/' :: '*' :: '*' :: (DocComment.starred c.lines ++ ['*', '/']) :=
    rfl
  rw [htext, DocComment.starred, hlines, hopen, hclose]
  simp

theorem textOf_source (c : PlainClass) : textOf c.source.lexemes = c.text := by
  have hprelude : textOf (lexemesOf c.source.prelude) =
      (c.comment.text ++ ['\n']) ++ textOf (lexemesOf c.modifiers) := by
    simp [source, lexemesOf, Piece.lexemes, Lexeme.text]
  have hannouncement : textOf (announcement c.source.kind) ++ textOf c.source.gap =
      "class ".toList := rfl
  have hheader : textOf (lexemesOf c.source.header) ++ ['\x7b'] = " \x7b".toList := rfl
  calc textOf c.source.lexemes
      = textOf (lexemesOf c.source.prelude) ++
          (textOf (announcement c.source.kind) ++ textOf c.source.gap) ++ c.name.text ++
            (textOf (lexemesOf c.source.header) ++ ['\x7b']) ++ textOf c.body ++ ['\x7d'] := by
        simp only [TypeSource.lexemes, textOf_append, textOf_cons, textOf_nil, Lexeme.text,
          List.append_assoc, List.append_nil]
        rfl
    _ = c.text := by
        rw [hprelude, hannouncement, hheader, text_comment]
        rfl

theorem apart_source (c : PlainClass) : Apart c.source.lexemes [] := by
  have hmodifiers : ∀ rest, Apart (lexemesOf c.modifiers) ('c' :: rest) := fun rest =>
    (apart_congr (show "class".toList.head? = ('c' :: rest).head? from rfl) _).mp c.hapart
  have hword : ∀ (w : Word) (rest : List Char), (Lexeme.word w).EndsBefore (' ' :: rest) :=
    fun w rest d hd => Option.some.inj hd ▸ by decide
  have hbrace : ∀ (c : Char) (hmark : IsMark c) (rest : List Char), c ≠ '/' →
      (Lexeme.mark c hmark).EndsBefore rest := fun c hmark rest hc h => absurd h hc
  simp only [TypeSource.lexemes, apart_append]
  refine ⟨⟨⟨⟨⟨?prelude, ?keyword⟩, ?gap⟩, ?name⟩, ?body⟩, ?close⟩
  case prelude => exact ⟨trivial, trivial, hmodifiers _⟩
  case keyword => exact ⟨hword _ _, trivial⟩
  case gap => exact ⟨trivial, trivial⟩
  case name => exact ⟨hword _ _, trivial, trivial⟩
  case body => exact ⟨hbrace _ _ _ (by decide), c.hend⟩
  case close => exact ⟨hbrace _ _ _ (by decide), trivial⟩

/-- A plain class declares its name, with its whole comment. -/
theorem declaration_source (c : PlainClass) :
    c.source.declaration =
      ⟨.classType, c.name.name, some (String.ofList (DocComment.starred c.lines))⟩ := by
  have hcomment : attached none (outerOf c.source.prelude ++ [space]) =
      some (String.ofList (DocComment.starred c.lines)) := by
    refine attached_eq_some_iff.mpr ⟨[], c.comment,
      lineFeed :: (outerOf c.modifiers ++ [space]), rfl, rfl, ?_⟩
    intro other hother
    simp only [List.mem_cons, List.mem_append, List.not_mem_nil, or_false] at hother
    rcases hother with rfl | hmodifier | rfl
    · rfl
    · exact c.hmodifiers other hmodifier
    · rfl
  exact congrArg (Declaration.mk .classType c.name.name) hcomment

/-- A plain class is the one declaration of its file. -/
theorem topLevel_text (c : PlainClass) : topLevel c.text = .ok [c.source.declaration] := by
  have hlayout : layout [c.source] [] = c.source.lexemes := by
    simp [layout, lexemesOf]
  have hrun := run_layout [c.source] []
  rw [hlayout] at hrun
  rw [← textOf_source, topLevel_textOf c.apart_source hrun]
  rfl

/-- The plain text of the comment is its lines, with a single space between any two words. -/
theorem commentDescription_starred (c : PlainClass) (style : Markup.PlainStyle) :
    commentDescription style (some (String.ofList (DocComment.starred c.lines))) =
      .ok (some (collapse (joinWith ['\n'] c.lines))) := by
  obtain ⟨text, hread, hwords, hchars⟩ := DocComment.text_read_starred c.hlines
  have hplain : text.any Markup.isMarkupChar = false := by
    refine List.any_eq_false.mpr fun d hd hmarkup => ?_
    rcases hchars d hd with rfl | ⟨line, hline, hmem⟩
    · exact absurd hmarkup (by decide)
    · have hplain := c.hmarkup line hline
      simp only [Markup.isMarkupChar, Bool.or_eq_true, decide_eq_true_eq] at hmarkup
      rcases hmarkup with rfl | rfl
      · exact hplain.1 hmem
      · exact hplain.2 hmem
  have hcollapse : collapse text = collapse (joinWith ['\n'] c.lines) := by
    rw [collapse, collapse, hwords, words_joinWith (by decide)]
  rw [commentDescription, String.toList_ofList, hread]
  simp only [Markup.normalize, hplain, hcollapse]
  rfl

end PlainClass

/-- The records of a class with a plain comment are the sentences of the lines of the comment, under
the key of its file. -/
theorem recordsOfFile_plainClass (settings : Settings) (segmenter : Segmenter) (document : Document)
    (c : PlainClass) (hformat : document.format = .structured)
    (hstem : document.stem = c.name.name) :
    recordsOfFile settings segmenter document (.ok (Utf8.encode c.text)) =
      .ok ((((segmenter (collapse (joinWith ['\n'] c.lines))).map trim).filter fun sentence =>
        settings.minSentenceChars ≤ sentence.length).map fun sentence =>
          ⟨document.key, String.ofList sentence⟩) := by
  have hfound : ([c.source.declaration].find? (·.name = document.stem)).bind (·.comment) =
      some (String.ofList (DocComment.starred c.lines)) := by
    rw [c.declaration_source, hstem, List.find?_cons_of_pos (by simp)]
    rfl
  have hdescription : sourceDescription settings.style document.stem c.text =
      .ok (some (collapse (joinWith ['\n'] c.lines))) := by
    rw [sourceDescription_of_topLevel c.topLevel_text, hfound, c.commentDescription_starred]
  rw [recordsOfFile]
  simp only [Utf8.decode?_encode, recordsOfSource, hformat, hdescription]
  rfl

/-- A class whose comment has braces, stars and slashes in its lines. -/
def widgetClass : PlainClass where
  lines := ["Builds \x7bwidgets\x7d.".toList, [], "  * Fast /and* safe.".toList]
  hlines := List.forall_mem_cons.mpr ⟨⟨by decide, by decide +kernel, by decide, by decide +kernel⟩,
    List.forall_mem_cons.mpr ⟨⟨by decide, by decide, by decide, by decide⟩,
      List.forall_mem_singleton.mpr ⟨by decide, by decide +kernel, by decide, by decide +kernel⟩⟩⟩
  hmarkup := by decide
  modifiers := [.annotationOf ⟨"Since".toList, by decide⟩ (by decide),
    .parentheses [.word ⟨"value".toList, by decide⟩, .mark '=' (by decide),
        .stringLiteral ['1', ')'] (.plain (by decide) (.plain (by decide) .nil))]
      (.token (by decide) (by decide) (.token (by decide) (by decide)
        (.token (by decide) (by decide) .nil))),
    .space, .lexeme (.word ⟨"final".toList, by decide⟩) rfl, .space]
  hmodifiers := by decide
  hapart := by decide
  name := ⟨"Widget".toList, by decide⟩
  body := [openingBrace, .characterLiteral ['\x7b'] (.plain (by decide) .nil), closingBrace]
  hbody := .group (.token (by decide) (by decide) .nil) .nil
  hend := by decide

def widgetDocument : Document := ⟨.ofString "acme/Widget.java", .structured, "acme.Widget"⟩

theorem widgetClass_records :
    widgetDocument.format = .structured ∧ widgetDocument.stem = widgetClass.name.name ∧
      recordsOfFile {} (Segmenter.between '.') widgetDocument (.ok (Utf8.encode
          ("/**\n * Builds \x7bwidgets\x7d.\n * \n *   * Fast /and* safe.\n */\n".toList ++
            "@Since(value=\"1)\") final class Widget \x7b\x7b'\x7b'\x7d\x7d".toList))) =
        .ok [⟨"acme.Widget", "Builds \x7bwidgets\x7d"⟩, ⟨"acme.Widget", "* Fast /and* safe"⟩] := by
  have hstem : widgetDocument.stem = widgetClass.name.name := by decide +kernel
  have htext : widgetClass.text =
      "/**\n * Builds \x7bwidgets\x7d.\n * \n *   * Fast /and* safe.\n */\n".toList ++
        "@Since(value=\"1)\") final class Widget \x7b\x7b'\x7b'\x7d\x7d".toList := by decide
  refine ⟨rfl, hstem, ?_⟩
  rw [← htext, recordsOfFile_plainClass {} (Segmenter.between '.') widgetDocument widgetClass rfl
    hstem]
  exact congrArg Except.ok (by decide +kernel)

end DocSentences.Extraction
