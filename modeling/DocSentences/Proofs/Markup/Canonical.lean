import DocSentences.Markup.PlainText
import DocSentences.Proofs.Text.Collapse

/-!
# Canonical plain text

Whatever is inside a node, and whatever a fragment of markup is read as, its plain text has single
spaces between its words and holds no character that would be read as markup. Texts of that kind are
left as they are, so taking the plain text of a plain text changes nothing.
-/

namespace DocSentences.Markup

open Text

variable {style : PlainStyle}

/-- No character of a text would be read as markup. -/
def HasNoMarkup (s : List Char) : Prop := ∀ c ∈ s, isMarkupChar c = false

/-- A text that is plain for every reader: single spaces between its words, and no markup. -/
structure IsPlain (s : List Char) : Prop extends IsSpaced s where
  noOpening : '<' ∉ s
  noReference : '&' ∉ s

theorem hasNoMarkup_iff (s : List Char) : HasNoMarkup s ↔ '<' ∉ s ∧ '&' ∉ s := by
  constructor
  · exact fun h => ⟨fun hmem => absurd (h '<' hmem) (by decide),
      fun hmem => absurd (h '&' hmem) (by decide)⟩
  · rintro ⟨hopening, hreference⟩ c hc
    simp only [isMarkupChar, Bool.or_eq_false_iff, decide_eq_false_iff_not]
    exact ⟨fun h => hopening (h ▸ hc), fun h => hreference (h ▸ hc)⟩

namespace HasNoMarkup

theorem nil : HasNoMarkup [] := fun _ hc => absurd hc List.not_mem_nil

theorem cons {c : Char} {s : List Char} (hc : isMarkupChar c = false) (hs : HasNoMarkup s) :
    HasNoMarkup (c :: s) :=
  List.forall_mem_cons.mpr ⟨hc, hs⟩

theorem append {s t : List Char} (hs : HasNoMarkup s) (ht : HasNoMarkup t) :
    HasNoMarkup (s ++ t) :=
  List.forall_mem_append.mpr ⟨hs, ht⟩

theorem reverse {s : List Char} (hs : HasNoMarkup s) : HasNoMarkup s.reverse :=
  fun c hc => hs c (List.mem_reverse.mp hc)

theorem collapse {s : List Char} (hs : HasNoMarkup s) : HasNoMarkup (collapse s) := by
  intro c hc
  rcases mem_of_mem_collapse hc with rfl | hmem
  · rfl
  · exact hs c hmem

theorem any_eq_false {s : List Char} (hs : HasNoMarkup s) : s.any isMarkupChar = false :=
  List.any_eq_false.mpr fun c hc => by simp [hs c hc]

end HasNoMarkup

/-! ## Rendering -/

/-- No character of markup is rendered as itself. -/
theorem isMarkupChar_plainChar (c : Char) : isMarkupChar (plainChar c) = false := by
  unfold plainChar
  split
  · rfl
  · next hplain => simpa using hplain

theorem HasNoMarkup.closeSentence {out : List Char} (h : HasNoMarkup out) :
    HasNoMarkup (closeSentence out) := by
  have hkept : HasNoMarkup (out.dropWhile isBlank) := fun c hc =>
    h c ((List.dropWhile_sublist isBlank).subset hc)
  unfold Markup.closeSentence
  split
  · exact h
  · next last before hsplit =>
      rw [hsplit] at hkept
      split
      · exact .cons rfl hkept
      · exact .cons rfl (.cons rfl hkept)

mutual

/-- Rendering adds no markup: the text of a node is taken over without it, and the placeholder has
none. -/
theorem HasNoMarkup.render (hstyle : HasNoMarkup style.placeholder) {out : List Char}
    (hout : HasNoMarkup out) (node : Node) : HasNoMarkup (render style out node) := by
  cases node with
  | text content =>
      rw [Markup.render]
      refine .append (fun c hc => ?_) hout
      obtain ⟨d, -, rfl⟩ := List.mem_map.mp (List.mem_reverse.mp hc)
      exact isMarkupChar_plainChar d
  | silent => rwa [Markup.render]
  | element name children =>
      have hinside := HasNoMarkup.renderAll hstyle hout children
      have hspaced : HasNoMarkup (' ' :: out) := .cons rfl hout
      rw [Markup.render]
      -- preformatted text, a paragraph, a break, a skipped element, a parting one, any other
      split
      · exact .cons rfl (.append hstyle.reverse hspaced)
      split
      · exact (HasNoMarkup.renderAll hstyle hout.closeSentence children).closeSentence
      split
      · exact hspaced
      split
      · exact hout
      split
      · exact .cons rfl (HasNoMarkup.renderAll hstyle hspaced children)
      · exact hinside

/-- Rendering brings in no markup, if the placeholder has none. -/
theorem HasNoMarkup.renderAll (hstyle : HasNoMarkup style.placeholder) {out : List Char}
    (hout : HasNoMarkup out) (nodes : List Node) : HasNoMarkup (renderAll style out nodes) := by
  cases nodes with
  | nil => rwa [Markup.renderAll]
  | cons node rest =>
      rw [Markup.renderAll]
      exact HasNoMarkup.renderAll hstyle (HasNoMarkup.render hstyle hout node) rest

end

/-! ## Plain text -/

/-- Collapsed text without markup is plain. -/
theorem isPlain_collapse {s : List Char} (h : HasNoMarkup s) : IsPlain (collapse s) :=
  let hmarkup := (hasNoMarkup_iff _).mp h.collapse
  ⟨isSpaced_collapse s, hmarkup.1, hmarkup.2⟩

theorem isPlain_plainText (hstyle : HasNoMarkup style.placeholder) (node : Node) :
    IsPlain (node.plainText style) :=
  isPlain_collapse (HasNoMarkup.renderAll hstyle .nil node.children).reverse

/-- Plain text is left as it is. -/
theorem IsPlain.normalize {s : List Char} (h : IsPlain s) : normalize style s = s := by
  have hmarkup : HasNoMarkup s := (hasNoMarkup_iff s).mpr ⟨h.noOpening, h.noReference⟩
  rw [Markup.normalize, hmarkup.any_eq_false, if_neg Bool.false_ne_true,
    collapse_of_isSpaced h.toIsSpaced]

/-- Whatever the text, normalizing it makes it plain. -/
theorem isPlain_normalize (hstyle : HasNoMarkup style.placeholder) (s : List Char) :
    IsPlain (normalize style s) := by
  unfold normalize
  split
  · dsimp only
    split
    · exact isPlain_plainText hstyle _
    · exact isPlain_collapse .nil
  next hplain =>
    refine isPlain_collapse fun c hc => ?_
    exact Bool.eq_false_iff.mpr fun hmarkup => hplain (List.any_eq_true.mpr ⟨c, hc, hmarkup⟩)

/-- The plain text of any node, and of any fragment, is plain unless the placeholder brings markup
in. Plain texts, and no others, are left as they are, so a second time changes nothing. -/
theorem normalize_canonical (style : PlainStyle)
    (hplaceholder : '<' ∉ style.placeholder ∧ '&' ∉ style.placeholder) :
    (∀ node : Node, IsPlain (node.plainText style) ∧
      normalize style (node.plainText style) = node.plainText style) ∧
    ∀ s : List Char, IsPlain (normalize style s) ∧
      normalize style (normalize style s) = normalize style s ∧
      (normalize style s = s ↔ IsPlain s) := by
  have hstyle : HasNoMarkup style.placeholder := (hasNoMarkup_iff _).mpr hplaceholder
  constructor
  · intro node
    have hplain := isPlain_plainText hstyle node
    exact ⟨hplain, hplain.normalize⟩
  · intro s
    have hplain := isPlain_normalize hstyle s
    refine ⟨hplain, hplain.normalize, ?_⟩
    constructor
    · intro hsame
      exact hsame ▸ hplain
    · exact IsPlain.normalize

/-- A paragraph after a text that ends in blank characters, with a code block inside. -/
def paragraphWithCode : Node :=
  .element "body" [.text "Compares a <\u2003b \n".toList,
    .element "p" [.text "R&D:".toList, .element "pre" [.text "a && b".toList]]]

theorem paragraphWithCode_canonical :
    let style : PlainStyle := ⟨"code-example".toList, true⟩
    ('<' ∉ style.placeholder ∧ '&' ∉ style.placeholder) ∧
      paragraphWithCode.plainText style = "Compares a b. R D: code-example.".toList ∧
      IsPlain (paragraphWithCode.plainText style) ∧
      normalize style (paragraphWithCode.plainText style) = paragraphWithCode.plainText style ∧
      normalize style (normalize style "a &lt; b<p>c".toList) =
        normalize style "a &lt; b<p>c".toList := by
  intro style
  have hplaceholder : '<' ∉ style.placeholder ∧ '&' ∉ style.placeholder := by decide
  obtain ⟨hnode, htext⟩ := normalize_canonical style hplaceholder
  exact ⟨hplaceholder, by decide +kernel, (hnode paragraphWithCode).1, (hnode paragraphWithCode).2,
    (htext _).2.1⟩

end DocSentences.Markup
