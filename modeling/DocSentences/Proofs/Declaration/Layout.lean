import DocSentences.Proofs.Declaration.Brackets
import DocSentences.Proofs.Declaration.Lexemes

/-!
# Source texts laid out from declarations

A source text is laid out from its type declarations, each with all that is written around it. The
declarations are found again, in order, each with the comment attached to it.
-/

namespace DocSentences.Declaration

/-! ## Comments and the lexemes after them -/

namespace Lexeme

/-- The body of a documentation comment. -/
def docBody? : Lexeme → Option String
  | docComment body _ _ => some (String.ofList body)
  | _ => none

/-- Whether a lexeme outside brackets settles which comment is attached: a documentation comment is
attached itself; a plain comment, a semicolon and the word that opens a package or import statement
leave none attached. -/
def settlesComment : Lexeme → Bool
  | docComment .. | lineComment .. | blockComment .. => true
  | word w => w.name = "package" || w.name = "import"
  | mark c _ => c = ';'
  | _ => false

def isBlank : Lexeme → Bool
  | blank .. => true
  | _ => false

def isGap : Lexeme → Bool
  | blank .. | lineComment .. | blockComment .. | docComment .. => true
  | _ => false

end Lexeme

/-- The comment that is attached after some lexemes outside brackets, if `before` was attached
before them. Of the lexemes that settle it the last one decides. -/
def attached (before : Option String) (lexemes : List Lexeme) : Option String :=
  match lexemes.reverse.find? Lexeme.settlesComment with
  | some l => l.docBody?
  | none => before

@[simp] theorem attached_nil (before : Option String) : attached before [] = before := rfl

/-- A lexeme settles which comment is attached, or leaves it to those around it. -/
theorem attached_cons (before : Option String) (l : Lexeme) (more : List Lexeme) :
    attached before (l :: more) =
      attached (if l.settlesComment then l.docBody? else before) more := by
  unfold attached
  rw [List.reverse_cons, List.find?_append]
  cases more.reverse.find? Lexeme.settlesComment with
  | some => rfl
  | none => cases hl : l.settlesComment <;> simp [hl]

theorem attached_singleton (before : Option String) (l : Lexeme) :
    attached before [l] = if l.settlesComment then l.docBody? else before :=
  attached_cons before l []

theorem attached_of_blank {lexemes : List Lexeme} (h : ∀ l ∈ lexemes, l.isBlank = true)
    (before : Option String) : attached before lexemes = before := by
  induction lexemes with
  | nil => rfl
  | cons l lexemes ih =>
      have hl := h l List.mem_cons_self
      have hmore := ih fun other hother => h other (List.mem_cons_of_mem l hother)
      cases l with
      | blank => rw [attached_cons]; exact hmore
      | _ => cases hl

theorem attached_append (before : Option String) (lexemes more : List Lexeme) :
    attached before (lexemes ++ more) = attached (attached before lexemes) more := by
  induction lexemes generalizing before with
  | nil => rfl
  | cons l lexemes ih => rw [List.cons_append, attached_cons, ih, attached_cons]

/-- The comment that is attached is the last one after which nothing settles it otherwise. -/
theorem attached_eq_some_iff {lexemes : List Lexeme} {body : String} :
    attached none lexemes = some body ↔
      ∃ earlier l later, lexemes = earlier ++ l :: later ∧ l.docBody? = some body ∧
        ∀ other ∈ later, other.settlesComment = false := by
  constructor
  · intro h
    unfold attached at h
    split at h
    · next l hfind =>
        obtain ⟨-, later, earlier, hsplit, hlater⟩ := List.find?_eq_some_iff_append.mp hfind
        refine ⟨earlier.reverse, l, later.reverse, ?_, h, ?_⟩
        · rw [← List.reverse_reverse lexemes, hsplit]
          simp
        · intro other hother
          simpa using hlater other (List.mem_reverse.mp hother)
    · cases h
  · rintro ⟨earlier, l, later, rfl, hbody, hlater⟩
    have hsettles : l.settlesComment = true := by
      cases l <;> first | rfl | cases hbody
    have hnone : later.reverse.find? Lexeme.settlesComment = none :=
      List.find?_eq_none.mpr fun other hother => by
        simpa using hlater other (List.mem_reverse.mp hother)
    rw [attached, List.reverse_append, List.reverse_cons, List.append_assoc, List.find?_append,
      hnone]
    simpa [hsettles] using hbody

/-! ## Marks and blanks -/

abbrev space : Lexeme := .blank ' ' (by decide)

abbrev lineFeed : Lexeme := .blank '\n' (by decide)

abbrev openingBrace : Lexeme := .mark '\x7b' (by decide)

abbrev closingBrace : Lexeme := .mark '\x7d' (by decide)

abbrev openingParenthesis : Lexeme := .mark '(' (by decide)

abbrev closingParenthesis : Lexeme := .mark ')' (by decide)

abbrev atSign : Lexeme := .mark '@' (by decide)

abbrev dot : Lexeme := .mark '.' (by decide)

abbrev asterisk : Lexeme := .mark '*' (by decide)

abbrev semicolon : Lexeme := .mark ';' (by decide)

theorem isGap_of_mem_space : ∀ l ∈ [space], l.isGap = true :=
  List.forall_mem_singleton.mpr rfl

/-! ## Pieces and declarations -/

/-- The words after which the name of a type is due. -/
def announcingWords : List String := ["class", "interface", "enum", "record"]

/-- Whether a lexeme can stand anywhere outside brackets: it is no bracket, announces no type, and
is not the mark that makes an annotation of the word after it. -/
def Lexeme.isOuter : Lexeme → Bool
  | word w => w.name ∉ announcingWords
  | mark c _ => c ∉ ['{', '}', '(', ')', '@']
  | _ => true

/-- A piece of what is written before or after the name of a type. -/
inductive Piece
  | lexeme (l : Lexeme) (houter : l.isOuter = true)
  /-- An annotation up to its arguments, which are a piece of their own. -/
  | annotationName (gap : List Lexeme) (hgap : ∀ l ∈ gap, l.isBlank = true) (name : Word)
      (hname : name.name ∉ announcingWords)
  /-- Parentheses, be it around arguments or around the components of a record. -/
  | parentheses (inner : List Lexeme) (hinner : Balanced .parenthesis (tokensOf inner))

namespace Piece

def lexemes : Piece → List Lexeme
  | lexeme l _ => [l]
  | annotationName gap _ name _ => atSign :: (gap ++ [.word name])
  | parentheses inner _ => openingParenthesis :: (inner ++ [closingParenthesis])

/-- The lexemes of a piece outside parentheses. -/
def outer : Piece → List Lexeme
  | lexeme l _ => [l]
  | annotationName gap _ name _ => atSign :: (gap ++ [.word name])
  | parentheses .. => []

end Piece

/-- An annotation that follows its mark at once. -/
def Piece.annotationOf (name : Word) (hname : name.name ∉ announcingWords) : Piece :=
  .annotationName [] (List.forall_mem_nil _) name hname

abbrev Piece.space : Piece := .lexeme Declaration.space rfl

abbrev Piece.lineFeed : Piece := .lexeme Declaration.lineFeed rfl

def lexemesOf (pieces : List Piece) : List Lexeme := pieces.flatMap Piece.lexemes

/-- The lexemes of some pieces outside parentheses. -/
def outerOf (pieces : List Piece) : List Lexeme := pieces.flatMap Piece.outer

/-- The word that announces a type of some kind. -/
def keyword : TypeKind → Word
  | .classType => ⟨"class".toList, by decide⟩
  | .interface | .annotationType => ⟨"interface".toList, by decide⟩
  | .enum => ⟨"enum".toList, by decide⟩
  | .record => ⟨"record".toList, by decide⟩

def importWord : Word := ⟨"import".toList, by decide⟩

/-- How a type of some kind is announced. -/
def announcement : TypeKind → List Lexeme
  | .annotationType => [atSign, .word (keyword .annotationType)]
  | kind => [.word (keyword kind)]

/-- A type declaration as it is written, with what is written before it. -/
structure TypeSource where
  /-- Blanks, comments, semicolons, package and import statements, modifiers and annotations. -/
  prelude : List Piece
  kind : TypeKind
  /-- What parts the keyword from the name. -/
  gap : List Lexeme
  hgap : ∀ l ∈ gap, l.isGap = true
  name : Word
  /-- What is written after the name: type parameters, components and supertypes. -/
  header : List Piece
  body : List Lexeme
  hbody : Balanced .brace (tokensOf body)

namespace TypeSource

def lexemes (s : TypeSource) : List Lexeme :=
  lexemesOf s.prelude ++ announcement s.kind ++ s.gap ++ .word s.name :: lexemesOf s.header ++
    openingBrace :: s.body ++ [closingBrace]

def declaration (s : TypeSource) : Declaration where
  kind := s.kind
  name := s.name.name
  comment := attached none (outerOf s.prelude ++ s.gap)

end TypeSource

/-! ## Reading pieces -/

namespace Outline

/-- At the top level, not directly after an `@`. -/
def between (pending : Option String) (expected : Option TypeKind) (found : List Declaration) :
    Outline :=
  ⟨.topLevel, pending, expected, false, found⟩

/-- Only an announcing word announces a type. -/
theorem announced_eq_none {text : String} (h : text ∉ announcingWords) (afterAt : Bool) :
    announced afterAt text = none := by
  unfold announced
  split <;> simp_all [announcingWords]

/-- A word that announces nothing, where no name is due. -/
theorem word_of_not_mem {text : String} (h : text ∉ announcingWords) (pending : Option String)
    (afterAt : Bool) (found : List Declaration) :
    word ⟨.topLevel, pending, none, afterAt, found⟩ text =
      between (if text = "package" ∨ text = "import" then none else pending) none found := by
  unfold word
  dsimp only
  split
  · rfl
  · rw [announced_eq_none h]
    rfl

variable (pending : Option String) (found : List Declaration)

/-- A lexeme of a gap changes nothing but the comment, even between an announcing word and the
name. -/
theorem run_gap {l : Lexeme} (hl : l.isGap = true) (expected : Option TypeKind) :
    (between pending expected found).run l.token?.toList =
      .ok (between (attached pending [l]) expected found) := by
  cases l <;> first | rfl | cases hl

theorem run_lexeme {l : Lexeme} (hl : l.isOuter = true) :
    (between pending none found).run l.token?.toList =
      .ok (between (attached pending [l]) none found) := by
  cases l with
  | word w =>
      have hword : word (between pending none found) w.name = _ :=
        word_of_not_mem (of_decide_eq_true hl) pending false found
      rw [Lexeme.token?, Option.toList_some, run_cons rfl, run_nil, attached_singleton]
      simpa [Lexeme.settlesComment, Lexeme.docBody?] using hword
  | mark c hmark =>
      rw [Lexeme.token?, Option.toList_some, attached_singleton]
      by_cases hc : c = ';'
      · subst hc
        rfl
      · have htoken : markToken c = .other := by
          simp only [Lexeme.isOuter, decide_eq_true_eq, List.mem_cons, List.not_mem_nil, or_false,
            not_or] at hl
          simp [markToken, hl, hc]
        rw [htoken, Lexeme.settlesComment, decide_eq_false hc]
        rfl
  | _ => rfl

theorem run_gaps {gap : List Lexeme} (hgap : ∀ l ∈ gap, l.isGap = true)
    (expected : Option TypeKind) :
    (between pending expected found).run (tokensOf gap) =
      .ok (between (attached pending gap) expected found) := by
  induction gap generalizing pending with
  | nil => rfl
  | cons l gap ih =>
      have hmore := ih (attached pending [l]) fun other hother =>
        hgap other (List.mem_cons_of_mem l hother)
      rw [tokensOf_cons, run_append (run_gap pending found (hgap l List.mem_cons_self) expected),
        hmore, ← attached_append, List.singleton_append]

/-- A piece changes nothing but the comment, whatever is between its brackets. -/
theorem run_piece (p : Piece) :
    (between pending none found).run (tokensOf p.lexemes) =
      .ok (between (attached pending p.outer) none found) := by
  cases p with
  | lexeme l houter =>
      rw [Piece.lexemes, tokensOf_cons, tokensOf_nil, List.append_nil]
      exact run_lexeme pending found houter
  | annotationName gap hgap name hname =>
      have hblank : tokensOf gap = [] := by
        refine List.filterMap_eq_nil_iff.mpr fun l hl => ?_
        cases l with
        | blank => rfl
        | _ => cases hgap _ hl
      -- the word after the at sign is passed over as a name, whatever it is
      have hat : (between pending none found).step .at =
          .ok ⟨.topLevel, pending, none, true, found⟩ := rfl
      have hword : step ⟨.topLevel, pending, none, true, found⟩ (.word name.name) = .ok _ :=
        congrArg Except.ok (word_of_not_mem hname pending true found)
      have htokens : tokensOf (Piece.annotationName gap hgap name hname).lexemes =
          [.at, .word name.name] := by
        rw [Piece.lexemes, tokensOf_cons, tokensOf_append, hblank]
        rfl
      rw [htokens, run_cons hat, run_cons hword, run_nil, Piece.outer, attached_cons,
        attached_append, attached_of_blank hgap, attached_singleton]
      simp [Lexeme.settlesComment, Lexeme.docBody?]
  | parentheses inner hinner =>
      have hrun := run_parentheses (between pending none found) hinner [] rfl
      rw [Piece.lexemes, tokensOf_cons, tokensOf_append]
      exact hrun

theorem run_lexemes {lexemes : List Lexeme} (h : ∀ l ∈ lexemes, l.isOuter = true) :
    (between pending none found).run (tokensOf lexemes) =
      .ok (between (attached pending lexemes) none found) := by
  induction lexemes generalizing pending with
  | nil => rfl
  | cons l lexemes ih =>
      have hmore := ih (attached pending [l]) fun other hother =>
        h other (List.mem_cons_of_mem l hother)
      rw [tokensOf_cons, run_append (run_lexeme pending found (h l List.mem_cons_self)), hmore,
        ← attached_append, List.singleton_append]

theorem run_pieces (pieces : List Piece) :
    (between pending none found).run (tokensOf (lexemesOf pieces)) =
      .ok (between (attached pending (outerOf pieces)) none found) := by
  induction pieces generalizing pending with
  | nil => rfl
  | cons p pieces ih =>
      rw [lexemesOf, List.flatMap_cons, tokensOf_append, run_append (run_piece pending found p),
        outerOf, List.flatMap_cons, attached_append]
      exact ih _

/-- After its announcement a type of that kind is expected. -/
theorem run_announcement (kind : TypeKind) :
    (between pending none found).run (tokensOf (announcement kind)) =
      .ok (between pending (some kind) found) := by
  cases kind <;> rfl

/-- A type declaration is found, and after it nothing is left over for the next one. -/
theorem run_typeSource (s : TypeSource) :
    (between none none found).run (tokensOf s.lexemes) =
      .ok (between none none (s.declaration :: found)) := by
  have hname : (between (attached none (outerOf s.prelude ++ s.gap)) (some s.kind) found).step
      (.word s.name.name) = .ok (between none none (s.declaration :: found)) := rfl
  have hbody := run_braces (between (attached none (outerOf s.header)) none
    (s.declaration :: found)) s.hbody [] rfl
  have htokens : tokensOf s.lexemes =
      tokensOf (lexemesOf s.prelude) ++ (tokensOf (announcement s.kind) ++ (tokensOf s.gap ++
        .word s.name.name :: (tokensOf (lexemesOf s.header) ++
          .openBrace :: (tokensOf s.body ++ [.closeBrace])))) := by
    simp only [TypeSource.lexemes, tokensOf_append, tokensOf_cons, tokensOf_nil,
      List.append_assoc, List.cons_append]
    rfl
  rw [htokens, run_append (run_pieces none found s.prelude),
    run_append (run_announcement _ found _), run_append (run_gaps _ found s.hgap _),
    ← attached_append, run_cons hname, run_append (run_pieces none _ s.header), hbody]
  rfl

/-- Type declarations are found one after the other. -/
theorem run_typeSources (sources : List TypeSource) :
    (between none none found).run (tokensOf (sources.flatMap TypeSource.lexemes)) =
      .ok (between none none ((sources.map TypeSource.declaration).reverse ++ found)) := by
  induction sources generalizing found with
  | nil => rfl
  | cons s sources ih =>
      rw [List.flatMap_cons, tokensOf_append, run_append (run_typeSource found s), ih]
      simp

end Outline

/-! ## The declarations of a layout -/

/-- Reading goes on with a text from what is known after the lexemes before it. -/
theorem topLevel_textOf_append {lexemes : List Lexeme} {rest : List Char}
    (hapart : Apart lexemes rest) {o : Outline}
    (hrun : Outline.start.run (tokensOf lexemes) = .ok o) :
    topLevel (textOf lexemes ++ rest) =
      (o.run (tokensFrom rest (1 + newlines (textOf lexemes))).tokens).bind fun last =>
        last.finish (tokensFrom rest (1 + newlines (textOf lexemes))).ending := by
  rw [topLevel_eq, tokens, tokensFrom_textOf hapart, Tokens.prepend, Outline.run_append hrun]

/-- What the tokens of a layout leave behind decides what its text declares. -/
theorem topLevel_textOf {lexemes : List Lexeme} (hapart : Apart lexemes []) {o : Outline}
    (hrun : Outline.start.run (tokensOf lexemes) = .ok o) :
    topLevel (textOf lexemes) = o.finish (.complete (1 + newlines (textOf lexemes))) := by
  rw [topLevel_eq, tokens_textOf hapart, hrun]
  rfl

/-- The lexemes of a source text: its type declarations, and what is written after the last. -/
def layout (sources : List TypeSource) (after : List Piece) : List Lexeme :=
  sources.flatMap TypeSource.lexemes ++ lexemesOf after

/-- A whole layout declares its types, and attaches only what stands after them. -/
theorem run_layout (sources : List TypeSource) (after : List Piece) :
    Outline.start.run (tokensOf (layout sources after)) =
      .ok (.between (attached none (outerOf after)) none
        (sources.map TypeSource.declaration).reverse) := by
  rw [layout, tokensOf_append]
  refine (Outline.run_append (Outline.run_typeSources [] sources) _).trans ?_
  rw [List.append_nil]
  exact Outline.run_pieces none _ after

/-- The declarations that a source text is laid out from are the ones found in it. -/
theorem topLevel_layout (sources : List TypeSource) (after : List Piece)
    (hapart : Apart (layout sources after) []) :
    topLevel (textOf (layout sources after)) = .ok (sources.map TypeSource.declaration) := by
  rw [topLevel_textOf hapart (run_layout sources after)]
  simp only [Outline.finish, Outline.between, List.reverse_reverse]

/-- A record after an import statement, with brackets in its literals. -/
def pairSource : TypeSource where
  prelude := [
    .lexeme (.docComment " Old. ".toList (by decide) (by decide +kernel)) rfl,
    .lexeme (.word importWord) rfl, .space,
    .lexeme (.word ⟨"a".toList, by decide⟩) rfl, .lexeme dot rfl,
    .lexeme asterisk rfl, .lexeme semicolon rfl,
    .lexeme (.docComment " A pair. ".toList (by decide) (by decide +kernel)) rfl,
    .annotationOf ⟨"Tag".toList, by decide⟩ (by decide),
    .parentheses [.stringLiteral [')'] (.plain (by decide) .nil)]
      (.token (by decide) (by decide) .nil),
    .space]
  kind := .record
  gap := [space]
  hgap := isGap_of_mem_space
  name := ⟨"Pair".toList, by decide⟩
  header := [.parentheses [.word ⟨"int".toList, by decide⟩, space, .word ⟨"a".toList, by decide⟩]
    (.token (by decide) (by decide) (.token (by decide) (by decide) .nil))]
  body := [.characterLiteral ['\x7d'] (.plain (by decide) .nil)]
  hbody := .token (by decide) (by decide) .nil

/-- An annotation type on a line of its own. -/
def markSource : TypeSource where
  prelude := [.lineFeed]
  kind := .annotationType
  gap := [space]
  hgap := isGap_of_mem_space
  name := ⟨"Mark".toList, by decide⟩
  header := []
  body := []
  hbody := .nil

theorem pairAndMark_layout :
    Apart (layout [pairSource, markSource] []) [] ∧
      topLevel ("/** Old. */import a.*;/** A pair. */@Tag(\")\") record Pair(int a)".toList ++
          "\x7b'\x7d'\x7d\n@interface Mark\x7b\x7d".toList) =
        .ok [⟨.record, "Pair", some " A pair. "⟩, ⟨.annotationType, "Mark", none⟩] := by
  have hapart : Apart (layout [pairSource, markSource] []) [] := by decide
  have htext : textOf (layout [pairSource, markSource] []) =
      "/** Old. */import a.*;/** A pair. */@Tag(\")\") record Pair(int a)".toList ++
        "\x7b'\x7d'\x7d\n@interface Mark\x7b\x7d".toList := by decide
  have hfound : [pairSource, markSource].map TypeSource.declaration =
      [⟨.record, "Pair", some " A pair. "⟩, ⟨.annotationType, "Mark", none⟩] := by decide
  refine ⟨hapart, ?_⟩
  rw [← htext, topLevel_layout [pairSource, markSource] [] hapart, hfound]

end DocSentences.Declaration
