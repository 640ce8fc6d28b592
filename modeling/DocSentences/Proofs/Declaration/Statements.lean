import DocSentences.Proofs.Declaration.Layout
import DocSentences.Text.Blank

/-!
# Package and import statements

A package or import statement before a source text changes nothing about what is found in the text,
unless a part of the name in the statement is one of the words that announce a type. Of these words
`record` is one that a package can have in its name.
-/

namespace DocSentences.Declaration

/-- The forms of a statement with a dotted name. -/
inductive Statement
  | package
  | typeImport
  | staticImport
  | wholeImport
  deriving DecidableEq

namespace Statement

/-- What is written before the name. -/
def opening : Statement → String
  | package => "package "
  | typeImport | wholeImport => "import "
  | staticImport => "import static "

/-- What is written after the name. -/
def closing : Statement → String
  | wholeImport => ".*;"
  | _ => ";"

/-- A statement as it is written. -/
def text (form : Statement) (name : List Word) : List Char :=
  form.opening.toList ++ Text.joinWith ['.'] (name.map Word.text) ++ form.closing.toList

def openingLexemes : Statement → List Lexeme
  | package => [.word ⟨"package".toList, by decide⟩, space]
  | typeImport | wholeImport => [.word importWord, space]
  | staticImport => [.word importWord, space, .word ⟨"static".toList, by decide⟩, space]

def nameLexemes : List Word → List Lexeme
  | [] => []
  | [w] => [.word w]
  | w :: next :: more => .word w :: dot :: nameLexemes (next :: more)

def closingLexemes : Statement → List Lexeme
  | wholeImport => [dot, asterisk, semicolon]
  | _ => [semicolon]

def lexemes (form : Statement) (name : List Word) : List Lexeme :=
  form.openingLexemes ++ (nameLexemes name ++ form.closingLexemes)

/-! ## A statement as lexemes -/

theorem textOf_nameLexemes (name : List Word) :
    textOf (nameLexemes name) = Text.joinWith ['.'] (name.map Word.text) := by
  fun_induction nameLexemes name with
  | case1 => rfl
  | case2 w => simp [Lexeme.text, Text.joinWith]
  | case3 w next more ih =>
      rw [textOf_cons, textOf_cons, ih]
      simp [Lexeme.text, Text.joinWith]

/-- A statement is written as its lexemes are. -/
theorem textOf_lexemes (form : Statement) (name : List Word) :
    textOf (form.lexemes name) = form.text name := by
  have hopening : textOf form.openingLexemes = form.opening.toList := by cases form <;> rfl
  have hclosing : textOf form.closingLexemes = form.closing.toList := by cases form <;> rfl
  rw [lexemes, textOf_append, textOf_append, hopening, hclosing, textOf_nameLexemes, text,
    List.append_assoc]

/-- A qualified name is apart from what does not continue a word. -/
theorem apart_nameLexemes (name : List Word) {rest : List Char}
    (hrest : ∀ c ∈ rest.head?, continuesWord c = false) : Apart (nameLexemes name) rest := by
  fun_induction nameLexemes name with
  | case1 => trivial
  | case2 w => exact ⟨hrest, trivial⟩
  | case3 w next more ih =>
      refine ⟨?_, fun h => absurd h (by decide), ih⟩
      rintro c ⟨⟩
      decide

theorem apart_lexemes (form : Statement) (name : List Word) (rest : List Char) :
    Apart (form.lexemes name) rest := by
  rw [lexemes, apart_append, apart_append]
  refine ⟨?_, apart_nameLexemes name ?_, ?_⟩
  · cases form <;>
      simp [openingLexemes, Apart, Lexeme.EndsBefore, space, Lexeme.text] <;> decide
  · cases form <;> (rintro c ⟨⟩; decide)
  · cases form <;> simp [closingLexemes, Apart, Lexeme.EndsBefore]

theorem newlines_text (form : Statement) (name : List Word) : newlines (form.text name) = 0 := by
  have hopening : newlines form.opening.toList = 0 := by cases form <;> decide
  have hclosing : newlines form.closing.toList = 0 := by cases form <;> decide
  have hname : newlines (Text.joinWith ['.'] (name.map Word.text)) = 0 := by
    rw [← textOf_nameLexemes]
    fun_induction nameLexemes name with
    | case1 => rfl
    | case2 w => simp [Lexeme.text, w.newlines_text]
    | case3 w next more ih =>
        rw [textOf_cons, textOf_cons, newlines_append, newlines_append, ih, Lexeme.text,
          w.newlines_text]
        rfl
  rw [text, newlines_append, newlines_append, hopening, hname, hclosing]

/-! ## What a statement changes -/

theorem isOuter_of_mem_nameLexemes {name : List Word}
    (hname : ∀ w ∈ name, w.name ∉ announcingWords) :
    ∀ l ∈ nameLexemes name, l.isOuter = true := by
  fun_induction nameLexemes name with
  | case1 => simp
  | case2 w => simpa [Lexeme.isOuter] using hname w
  | case3 w next more ih =>
      have hmore := ih fun other hother => hname other (List.mem_cons_of_mem w hother)
      simp only [List.mem_cons, forall_eq_or_imp]
      exact ⟨decide_eq_true (hname w List.mem_cons_self), rfl, by simpa using hmore⟩

/-- A statement consists of outer lexemes, when no part of its name is an announcing word. -/
theorem isOuter_of_mem (form : Statement) {name : List Word}
    (hname : ∀ w ∈ name, w.name ∉ announcingWords) :
    ∀ l ∈ form.lexemes name, l.isOuter = true := by
  intro l hl
  rw [lexemes, List.mem_append, List.mem_append] at hl
  rcases hl with hl | hl | hl
  · have hall : ∀ l ∈ form.openingLexemes, l.isOuter = true := by cases form <;> decide
    exact hall l hl
  · exact isOuter_of_mem_nameLexemes hname l hl
  · have hall : ∀ l ∈ form.closingLexemes, l.isOuter = true := by cases form <;> decide
    exact hall l hl

/-- A statement drops the comment before it. -/
theorem attached_lexemes (form : Statement) (name : List Word) (before : Option String) :
    attached before (form.lexemes name) = none := by
  -- the semicolon is the last lexeme, and it leaves no comment attached
  rw [lexemes, ← List.append_assoc, attached_append]
  cases form <;> rfl

/-- What a statement without announcing words leaves known is what was known before it. -/
theorem run_lexemes {form : Statement} {name : List Word}
    (hname : ∀ w ∈ name, w.name ∉ announcingWords) :
    Outline.start.run (tokensOf (form.lexemes name)) = .ok .start := by
  have hrun := Outline.run_lexemes none [] (isOuter_of_mem form hname)
  rwa [attached_lexemes] at hrun

/-- What comes after a statement is read on from where the statement has led. -/
theorem topLevel_append {form : Statement} {name : List Word} {o : Outline}
    (hrun : Outline.start.run (tokensOf (form.lexemes name)) = .ok o) (rest : List Char) :
    topLevel (form.text name ++ rest) =
      (o.run (tokens rest).tokens).bind fun last => last.finish (tokens rest).ending := by
  have happend := topLevel_textOf_append (apart_lexemes form name rest) hrun
  rwa [textOf_lexemes, newlines_text] at happend

end Statement

/-! ## Names with an announcing word -/

namespace Outline

/-- Whether a declaration has been announced or found. -/
def HasBegun (o : Outline) : Prop :=
  o.expected ≠ none ∨ o.found ≠ []

/-- The tokens that a statement consists of. -/
def inStatement : Token → Bool
  | .word _ | .other | .semicolon => true
  | _ => false

/-- Once a declaration has begun, one is found after any further word. -/
theorem HasBegun.found_word {o : Outline} (h : o.HasBegun) (text : String) :
    (o.word text).found ≠ [] := by
  unfold word
  split
  · simp
  · next hexpected =>
      have hfound := h.resolve_left (by simp [hexpected])
      split <;> exact hfound

/-- An announcing word begins a declaration, or is the name of one. -/
theorem hasBegun_word_of_mem {text : String} (htext : text ∈ announcingWords) (o : Outline) :
    (o.word text).HasBegun := by
  have hannounced : announced o.afterAt text ≠ none ∧ text ≠ "package" ∧ text ≠ "import" := by
    simp only [announcingWords, List.mem_cons, List.not_mem_nil, or_false] at htext
    rcases htext with rfl | rfl | rfl | rfl <;> simp [announced]
  unfold word
  split
  · exact .inr (by simp)
  · rw [if_neg (by simp [hannounced])]
    exact .inl hannounced.1

theorem exists_step {o : Outline} (ho : o.nesting = .topLevel) {t : Token}
    (ht : inStatement t = true) :
    ∃ next, o.step t = .ok next ∧ next.nesting = .topLevel ∧ (o.HasBegun → next.HasBegun) := by
  have hnesting := nesting_word o
  obtain ⟨nesting, pending, expected, afterAt, found⟩ := o
  subst ho
  cases t with
  | word text => exact ⟨_, rfl, hnesting text, fun h => .inr (h.found_word text)⟩
  | other | semicolon => exact ⟨_, rfl, rfl, id⟩
  | _ => cases ht

/-- No tokens of a statement leave the top level or take back a declaration that has begun. -/
theorem exists_run {o : Outline} (ho : o.nesting = .topLevel) {tokens : List Token}
    (htokens : ∀ t ∈ tokens, inStatement t = true) :
    ∃ after, o.run tokens = .ok after ∧ after.nesting = .topLevel ∧
      (o.HasBegun → after.HasBegun) := by
  induction tokens generalizing o with
  | nil => exact ⟨o, rfl, ho, id⟩
  | cons t tokens ih =>
      obtain ⟨next, hstep, hnext, hbegun⟩ := exists_step ho (htokens t List.mem_cons_self)
      obtain ⟨after, hrun, hafter, hkept⟩ := ih hnext fun u hu =>
        htokens u (List.mem_cons_of_mem t hu)
      exact ⟨after, (run_cons hstep tokens).trans hrun, hafter, hkept ∘ hbegun⟩

/-- Once a word has announced a type there is a declaration that has begun. -/
theorem exists_run_of_mem {o : Outline} (ho : o.nesting = .topLevel) {tokens : List Token}
    (htokens : ∀ t ∈ tokens, inStatement t = true) {text : String}
    (htext : text ∈ announcingWords) (hmem : .word text ∈ tokens) :
    ∃ after, o.run tokens = .ok after ∧ after.nesting = .topLevel ∧ after.HasBegun := by
  obtain ⟨earlier, later, rfl⟩ := List.append_of_mem hmem
  obtain ⟨mid, hmid, hmidTop, -⟩ := exists_run ho fun u hu =>
    htokens u (List.mem_append_left _ hu)
  obtain ⟨after, hafter, hafterTop, hbegun⟩ :=
    exists_run (o := mid.word text) ((nesting_word mid text).trans hmidTop) fun u hu =>
      htokens u (List.mem_append_right _ (List.mem_cons_of_mem _ hu))
  refine ⟨after, ?_, hafterTop, hbegun (hasBegun_word_of_mem htext mid)⟩
  have hword : mid.step (.word text) = .ok (mid.word text) := by rw [step, hmidTop]
  rw [run_append hmid, run_cons hword, hafter]

end Outline

namespace Statement

/-- A statement consists of words, dots, stars and semicolons. -/
theorem inStatement_of_mem (form : Statement) (name : List Word) :
    ∀ t ∈ tokensOf (form.lexemes name), Outline.inStatement t = true := by
  have hname : ∀ t ∈ tokensOf (nameLexemes name), Outline.inStatement t = true := by
    fun_induction nameLexemes name with
    | case1 => simp
    | case2 w => simp [tokensOf_cons, Lexeme.token?, Outline.inStatement]
    | case3 w next more ih =>
        simpa [tokensOf_cons, Lexeme.token?, markToken, Outline.inStatement] using ih
  intro t ht
  rw [lexemes, tokensOf_append, tokensOf_append, List.mem_append, List.mem_append] at ht
  rcases ht with ht | ht | ht
  · have hall : ∀ t ∈ tokensOf form.openingLexemes, Outline.inStatement t = true := by
      cases form <;> decide
    exact hall t ht
  · exact hname t ht
  · have hall : ∀ t ∈ tokensOf form.closingLexemes, Outline.inStatement t = true := by
      cases form <;> decide
    exact hall t ht

theorem mem_tokensOf_of_mem (form : Statement) {name : List Word} {w : Word} (hw : w ∈ name) :
    .word w.name ∈ tokensOf (form.lexemes name) := by
  have hname : Lexeme.word w ∈ nameLexemes name := by
    fun_induction nameLexemes name with
    | case1 => cases hw
    | case2 v => simpa using hw
    | case3 v next more ih =>
        rcases List.mem_cons.mp hw with rfl | hmore
        · exact List.mem_cons_self
        · exact List.mem_cons_of_mem _ (List.mem_cons_of_mem _ (ih hmore))
  exact List.mem_filterMap.mpr ⟨.word w,
    List.mem_append_right _ (List.mem_append_left _ hname), rfl⟩

/-- After a statement with an announcing word in its name a text without any type is found to
declare one. -/
theorem exists_topLevel_ne (form : Statement) {name : List Word} {w : Word} (hw : w ∈ name)
    (hannouncing : w.name ∈ announcingWords) :
    ∃ rest, topLevel (form.text name ++ rest) ≠ topLevel rest := by
  obtain ⟨o, hrun, htop, hbegun⟩ := Outline.exists_run_of_mem (o := .start) rfl
    (inStatement_of_mem form name) hannouncing (mem_tokensOf_of_mem form hw)
  let a : Word := ⟨['a'], by decide⟩
  have hapart : Apart [.word a] [] := ⟨nofun, trivial⟩
  have htokens : tokens ['a'] = ⟨[.word "a"], .complete 1⟩ := tokens_textOf hapart
  refine ⟨['a'], fun heq => hbegun.found_word "a" ?_⟩
  have hword : o.step (.word "a") = .ok (o.word "a") := by rw [Outline.step, htop]
  have htopWord := (Outline.nesting_word o "a").trans htop
  have hplain : topLevel ['a'] = .ok [] := by
    rw [topLevel_eq, htokens]
    rfl
  rw [topLevel_append hrun, hplain, htokens, Outline.run_cons hword, Outline.run_nil] at heq
  simpa [Except.bind, Outline.finish, htopWord] using heq

/-! ## Neutral statements -/

/-- A statement before a source text changes nothing, whatever the text, just in case no part of its
name announces a type. -/
theorem topLevel_text_append_iff (form : Statement) (name : List Word) :
    (∀ rest, topLevel (form.text name ++ rest) = topLevel rest) ↔
      ∀ w ∈ name, w.name ∉ announcingWords := by
  constructor
  · intro h w hw hannouncing
    obtain ⟨rest, hne⟩ := exists_topLevel_ne form hw hannouncing
    exact hne (h rest)
  · intro h rest
    rw [topLevel_append (run_lexemes h), topLevel_eq]

/-- The name of a package that has `record` in it. -/
def recordApi : List Word :=
  [⟨"com".toList, by decide⟩, keyword .record, ⟨"api".toList, by decide⟩]

def fooLexemes : List Lexeme :=
  [.word (keyword .classType), space, .word ⟨"Foo".toList, by decide⟩, space, openingBrace,
    closingBrace]

/-- A package with `record` in its name declares a record, which is one more type than its source
text does. -/
theorem not_forall_topLevel_text_append :
    ¬ ∀ (form : Statement) (name : List Word) (rest : List Char),
      topLevel (form.text name ++ rest) = topLevel rest := by
  intro h
  have hneutral : topLevel "package com.record.api;class Foo \x7b\x7d".toList =
      topLevel "class Foo \x7b\x7d".toList :=
    h .package recordApi "class Foo \x7b\x7d".toList
  have hpackageRun : Outline.start.run (tokensOf (package.lexemes recordApi ++ fooLexemes)) =
      .ok (.between none none [⟨.classType, "Foo", none⟩, ⟨.record, "api", none⟩]) := rfl
  have hpackage : topLevel "package com.record.api;class Foo \x7b\x7d".toList =
      .ok [⟨.record, "api", none⟩, ⟨.classType, "Foo", none⟩] :=
    topLevel_textOf (by decide) hpackageRun
  have hplainRun : Outline.start.run (tokensOf fooLexemes) =
      .ok (.between none none [⟨.classType, "Foo", none⟩]) := rfl
  have hplain : topLevel "class Foo \x7b\x7d".toList = .ok [⟨.classType, "Foo", none⟩] :=
    topLevel_textOf (by decide) hplainRun
  rw [hpackage, hplain] at hneutral
  simp at hneutral

end Statement

end DocSentences.Declaration
