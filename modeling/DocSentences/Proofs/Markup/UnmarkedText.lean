import DocSentences.Proofs.Markup.Canonical

/-!
# Text without markup

A fragment in which no character is markup is read as one text, whatever blank characters and line
ends it has. So taking it as it stands and reading it first give the same plain text.
-/

namespace DocSentences.Markup

open Text

/-! ## Line ends -/

/-- Line ends part words however they are written. -/
theorem words_append_unifyLineEnds (before s : List Char) :
    words (before ++ unifyLineEnds s) = words (before ++ s) := by
  fun_induction unifyLineEnds s generalizing before with
  | case1 => rfl
  | case2 rest ih =>
      rw [words_append_cons rfl, words_append_cons rfl, words_cons_of_isBlank rfl]
      exact congrArg (words before ++ ·) (ih [])
  | case3 rest _ ih =>
      rw [words_append_cons rfl, words_append_cons rfl]
      exact congrArg (words before ++ ·) (ih [])
  | case4 c rest _ _ ih => simpa using ih (before ++ [c])

theorem mem_of_mem_unifyLineEnds {s : List Char} {c : Char} (h : c ∈ unifyLineEnds s) :
    c = '\n' ∨ c ∈ s := by
  fun_induction unifyLineEnds s with
  | case1 => cases h
  | case2 rest ih =>
      rcases List.mem_cons.mp h with rfl | hrest
      · exact .inl rfl
      · exact (ih hrest).imp_right fun hmem => by simp [hmem]
  | case3 rest _ ih =>
      rcases List.mem_cons.mp h with rfl | hrest
      · exact .inl rfl
      · exact (ih hrest).imp_right (List.mem_cons_of_mem _)
  | case4 d rest _ _ ih =>
      rcases List.mem_cons.mp h with rfl | hrest
      · exact .inr List.mem_cons_self
      · exact (ih hrest).imp_right (List.mem_cons_of_mem _)

/-- The kind of line ends does not show in a collapsed text. -/
theorem collapse_unifyLineEnds (s : List Char) : collapse (unifyLineEnds s) = collapse s :=
  congrArg (joinWith [' ']) (words_append_unifyLineEnds [] s)

/-! ## Reading -/

/-- A document and its outermost element, with the element that the fragment is the content of
between them. -/
def frame (children : List NodeId) : List TreeNode :=
  [⟨.document, none, [2]⟩, ⟨.element ⟨.html, "body", []⟩, none, []⟩,
    ⟨.element ⟨.html, "html", []⟩, some 0, children⟩]

/-- The text of a fragment, inside the outermost element. -/
def textNode (text : String) : TreeNode := ⟨.text text, some 2, []⟩

/-- The tree of a fragment that is nothing but a text. -/
def plainTree : List Char → Tree
  | [] => ⟨(frame []).toArray⟩
  | c :: text => ⟨(frame [3] ++ [textNode (String.ofList (c :: text))]).toArray⟩

/-- The tree under construction when nothing but a text has been read. -/
def plainBuilder (framesetOk : Bool) (text : List Char) : Builder :=
  { Builder.startFragment "body" with framesetOk, tree := plainTree text }

theorem push_ofList (text : List Char) (c : Char) :
    (String.ofList text).push c = String.ofList (text ++ [c]) := by
  rw [← String.toList_inj]
  simp

theorem appendCharacter_plainTree (text : List Char) (c : Char) :
    (plainTree text).appendCharacter 2 c = plainTree (text ++ [c]) := by
  cases text with
  | nil =>
      have hcreate : (plainTree []).appendCharacter 2 c =
          ⟨(frame [3] ++ [textNode (String.singleton c)]).toArray⟩ := rfl
      rw [hcreate, String.singleton_eq_ofList]
      rfl
  | cons d text =>
      have hextend : (plainTree (d :: text)).appendCharacter 2 c =
          ⟨(frame [3] ++ [textNode ((String.ofList (d :: text)).push c)]).toArray⟩ := rfl
      rw [hextend, push_ofList]
      rfl

theorem insertCharacter_plainBuilder (framesetOk : Bool) (text : List Char) (c : Char) :
    (plainBuilder framesetOk text).insertCharacter c = plainBuilder framesetOk (text ++ [c]) := by
  have hplace : (plainBuilder framesetOk text).place = .lastIn 2 := by cases text <;> rfl
  rw [Builder.insertCharacter, hplace]
  dsimp only
  rw [plainBuilder, appendCharacter_plainTree]
  rfl

theorem rules_character {c : Char} (hc : c.toNat ≠ 0) (framesetOk : Bool) (text : List Char) :
    (plainBuilder framesetOk text).rules (.character c) =
      (plainBuilder (framesetOk && isSpace c) (text ++ [c])).done := by
  have hrules : (plainBuilder framesetOk text).rules (.character c) =
      (plainBuilder framesetOk text).inBodyRules (.character c) := rfl
  have hreconstruct : (plainBuilder framesetOk text).reconstruct = plainBuilder framesetOk text :=
    rfl
  rw [hrules, Builder.inBodyRules]
  dsimp only
  rw [if_neg hc, hreconstruct, insertCharacter_plainBuilder]
  cases isSpace c with
  | false => rw [Bool.and_false]; rfl
  | true => rw [Bool.and_true]; rfl

theorem receive_character {c : Char} (hc : c.toNat ≠ 0) (framesetOk : Bool) (text : List Char) :
    (plainBuilder framesetOk text).receive (.character c) =
      plainBuilder (framesetOk && isSpace c) (text ++ [c]) := by
  have hforeign : (plainBuilder framesetOk text).isForeign (.character c) = false := by
    cases text <;> rfl
  have hreceive : (plainBuilder framesetOk text).receive (.character c) =
      (plainBuilder framesetOk text).process (.character c) 34 := rfl
  rw [hreceive, Builder.process, hforeign, if_neg Bool.false_ne_true, rules_character hc]
  rfl

/-- Whether a character is read as itself: it is no markup, and not the null character. -/
def IsOrdinary (c : Char) : Prop := isMarkupChar c = false ∧ c.toNat ≠ 0

/-- An ordinary character is passed on to the tree as it is. -/
theorem feed_start {c : Char} (hc : IsOrdinary c) (framesetOk : Bool) (text : List Char) :
    (Reader.start (plainBuilder framesetOk text)).feed c =
      Reader.start (plainBuilder (framesetOk && isSpace c) (text ++ [c])) := by
  obtain ⟨hopening, hreference⟩ : c ≠ '<' ∧ c ≠ '&' := by
    simpa [isMarkupChar] using hc.1
  have hfeed : (Reader.start (plainBuilder framesetOk text)).feed c =
      (Reader.start (plainBuilder framesetOk text)).inData c := rfl
  have hemit : (Reader.start (plainBuilder framesetOk text)).emitChar c =
      Reader.start ((plainBuilder framesetOk text).receive (.character c)) := rfl
  rw [hfeed, Reader.inData, if_neg hreference, if_neg hopening]
  exact hemit.trans (congrArg Reader.start (receive_character hc.2 framesetOk text))

/-- Ordinary characters are passed on one after the other. -/
theorem foldl_feed_start {s : List Char} (h : ∀ c ∈ s, IsOrdinary c) (framesetOk : Bool)
    (text : List Char) :
    s.foldl Reader.feed (Reader.start (plainBuilder framesetOk text)) =
      Reader.start (plainBuilder (framesetOk && s.all isSpace) (text ++ s)) := by
  induction s generalizing framesetOk text with
  | nil => rw [List.foldl_nil, List.all_nil, Bool.and_true, List.append_nil]
  | cons c s ih =>
      obtain ⟨hc, hs⟩ := List.forall_mem_cons.mp h
      rw [List.foldl_cons, feed_start hc, ih hs, List.all_cons, Bool.and_assoc, List.append_assoc]
      rfl

/-- At the end of a plain text the tree is complete. -/
theorem finish_start (framesetOk : Bool) (text : List Char) :
    (Reader.start (plainBuilder framesetOk text)).finish = plainTree text := by
  cases text <;> rfl

/-- Reading text without markup makes a tree that is nothing but the text. -/
theorem parseFragment_eq {s : List Char} (h : ∀ c ∈ s, IsOrdinary c)
    (hmark : s.head? ≠ some '\uFEFF') : parseFragment s = plainTree (unifyLineEnds s) := by
  have hkept : dropMark s = s := by
    unfold dropMark
    split
    · exact absurd rfl hmark
    · rfl
  have hordinary : ∀ c ∈ unifyLineEnds s, IsOrdinary c := by
    intro c hc
    rcases mem_of_mem_unifyLineEnds hc with rfl | hmem
    · exact ⟨rfl, by decide⟩
    · exact h c hmem
  have hstart : Builder.startFragment "body" = plainBuilder true [] := rfl
  rw [parseFragment, readInto, prepare, hkept, hstart, foldl_feed_start hordinary, finish_start,
    List.nil_append]

/-! ## Plain text -/

theorem rootElement?_plainTree (text : List Char) : (plainTree text).rootElement? = some 2 := by
  cases text <;> rfl

theorem nodeAt_plainTree (c : Char) (text : List Char) :
    (plainTree (c :: text)).nodeAt 2 = .element "html" [.text (c :: text)] := by
  have houtermost : (plainTree (c :: text)).kind 2 = .element ⟨.html, "html", []⟩ := rfl
  have hchildren : (plainTree (c :: text)).children 2 = [3] := rfl
  have htext : (plainTree (c :: text)).kind 3 = .text (String.ofList (c :: text)) := rfl
  change (plainTree (c :: text)).view 4 2 = _
  rw [Tree.view, houtermost]
  dsimp only
  rw [hchildren, Tree.viewAll, Tree.viewAll, Tree.view, htext]
  dsimp only
  rw [String.toList_ofList]

theorem nodeAt_plainTree_nil : (plainTree []).nodeAt 2 = .element "html" [] := by
  have houtermost : (plainTree []).kind 2 = .element ⟨.html, "html", []⟩ := rfl
  have hchildren : (plainTree []).children 2 = [] := rfl
  change (plainTree []).view 3 2 = _
  rw [Tree.view, houtermost]
  dsimp only
  rw [hchildren, Tree.viewAll]

/-- The plain text of a tree with one text is that text, collapsed. -/
theorem plainText_plainTree (style : PlainStyle) (text : List Char) :
    ((plainTree text).nodeAt 2).plainText style = collapse (text.map plainChar) := by
  cases text with
  | nil => rw [nodeAt_plainTree_nil, Node.plainText, Node.children, renderAll]; rfl
  | cons c text =>
      rw [nodeAt_plainTree, Node.plainText, Node.children, renderAll, renderAll, render,
        List.append_nil, List.reverse_reverse]

theorem map_plainChar {text : List Char} (h : HasNoMarkup text) : text.map plainChar = text := by
  have hplain : ∀ c ∈ text, plainChar c = c := fun c hc => by
    rw [plainChar, h c hc, if_neg Bool.false_ne_true]
  rw [List.map_congr_left hplain, List.map_id']

/-- Text without markup has the same plain text whether it is read as a fragment or taken as it
stands, in any style. -/
theorem plainText_parseFragment (style : PlainStyle) (s : List Char) (hopening : '<' ∉ s)
    (hreference : '&' ∉ s) (hnull : '\x00' ∉ s) (hmark : s.head? ≠ some '\uFEFF') :
    (∃ root, (parseFragment s).rootElement? = some root ∧
      ((parseFragment s).nodeAt root).plainText style = collapse s) ∧
      normalize style s = collapse s := by
  have hmarkup : HasNoMarkup s := (hasNoMarkup_iff s).mpr ⟨hopening, hreference⟩
  have hordinary : ∀ c ∈ s, IsOrdinary c := by
    refine fun c hc => ⟨hmarkup c hc, fun hcode => hnull ?_⟩
    have hc0 : c = '\x00' := Char.toNat_inj.mp hcode
    exact hc0 ▸ hc
  have hunified : HasNoMarkup (unifyLineEnds s) := by
    intro c hc
    rcases mem_of_mem_unifyLineEnds hc with rfl | hmem
    · rfl
    · exact hmarkup c hmem
  rw [parseFragment_eq hordinary hmark]
  constructor
  · exact ⟨2, rootElement?_plainTree _, by
      rw [plainText_plainTree, map_plainChar hunified, collapse_unifyLineEnds]⟩
  · rw [normalize, hmarkup.any_eq_false, if_neg Bool.false_ne_true]

/-- A text with line ends of every kind and with blank characters that are not ASCII. -/
def unevenText : List Char := "\r\nIf a > b,\r\x0c\x0b c\u00a0\u2003=\u2028\tb.\r".toList

theorem plainText_unevenText :
    (∃ root, (parseFragment unevenText).rootElement? = some root ∧
      ((parseFragment unevenText).nodeAt root).plainText ⟨"CODE".toList, true⟩ =
        "If a > b, c = b.".toList) ∧
      normalize ⟨"CODE".toList, true⟩ unevenText = "If a > b, c = b.".toList := by
  have hcollapse : collapse unevenText = "If a > b, c = b.".toList := by decide +kernel
  rw [← hcollapse]
  exact plainText_parseFragment _ _ (by decide) (by decide) (by decide) (by decide)

end DocSentences.Markup
