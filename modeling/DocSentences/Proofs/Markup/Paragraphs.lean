import DocSentences.Markup.PlainText
import DocSentences.Proofs.Text.Collapse

/-!
# Paragraph breaks

A tree is read as a sequence of characters, of gaps between words, and of edges of paragraphs. Where
paragraphs end sentences, the words are the ones that stand there without that, in the same order; a
word only gets a full stop if it is the last one before an edge and ends no sentence yet.
-/

namespace DocSentences.Markup

open Text

/-! ## Trees as sequences -/

/-- What is met when a tree is read from front to back. -/
inductive TextItem
  | character (c : Char)
  /-- Nothing to read, but words are parted here. -/
  | gap
  /-- A paragraph begins or ends here. -/
  | paragraphEdge
  deriving DecidableEq, Repr

mutual

/-- What is met in a node, where the given text stands for a code block. -/
def Node.textItems (placeholder : List Char) : Node → List TextItem
  | .text content => content.map fun c => .character (plainChar c)
  | .silent => []
  | .element name children =>
      if name = "pre" then .gap :: (placeholder.map .character ++ [.gap])
      else if name = "p" then
        .paragraphEdge :: (textItemsOf placeholder children ++ [.paragraphEdge])
      else if name = "br" then [.gap]
      else if skippedNames.contains name then []
      else if partingNames.contains name then .gap :: (textItemsOf placeholder children ++ [.gap])
      else textItemsOf placeholder children

/-- What is met in some nodes. -/
def textItemsOf (placeholder : List Char) : List Node → List TextItem
  | [] => []
  | node :: rest => node.textItems placeholder ++ textItemsOf placeholder rest

end

/-- The character that is read for an item if paragraphs end no sentences. -/
def TextItem.plain : TextItem → Char
  | .character c => c
  | .gap => ' '
  | .paragraphEdge => ' '

/-- Adds an item to a text that has its latest character first. -/
def TextItem.addTo (paragraphBreaks : Bool) (out : List Char) : TextItem → List Char
  | .character c => c :: out
  | .gap => ' ' :: out
  | .paragraphEdge => if paragraphBreaks then closeSentence out else ' ' :: out

theorem foldl_addTo_characters (paragraphBreaks : Bool) (text out : List Char) :
    (text.map TextItem.character).foldl (TextItem.addTo paragraphBreaks) out =
      text.reverse ++ out := by
  induction text generalizing out with
  | nil => rfl
  | cons c text ih => simp [ih, TextItem.addTo]

mutual

/-- Rendering a node adds what is met in it. -/
theorem render_eq_foldl (style : PlainStyle) (out : List Char) (node : Node) :
    render style out node =
      (node.textItems style.placeholder).foldl (TextItem.addTo style.paragraphBreaks) out := by
  cases node with
  | text content =>
      have hitems := foldl_addTo_characters style.paragraphBreaks (content.map plainChar) out
      rw [List.map_map] at hitems
      rw [render, Node.textItems]
      exact hitems.symm
  | silent => rw [render, Node.textItems, List.foldl_nil]
  | element name children =>
      rw [render, Node.textItems]
      simp only [renderAll_eq_foldl style _ children]
      -- preformatted text and paragraphs first, then the elements of the other kinds
      by_cases hpre : name = "pre"
      · simp [hpre, foldl_addTo_characters, TextItem.addTo]
      by_cases hparagraph : name = "p"
      · subst hparagraph
        cases hbreaks : style.paragraphBreaks <;> simp [TextItem.addTo, skippedNames]
      simp only [hpre, hparagraph, if_false, decide_false, Bool.false_and, Bool.false_or,
        Bool.false_eq_true]
      split
      · rfl
      split
      · rfl
      split
      · simp [TextItem.addTo]
      · rfl

theorem renderAll_eq_foldl (style : PlainStyle) (out : List Char) (nodes : List Node) :
    renderAll style out nodes =
      (textItemsOf style.placeholder nodes).foldl (TextItem.addTo style.paragraphBreaks) out := by
  cases nodes with
  | nil => rw [renderAll, textItemsOf, List.foldl_nil]
  | cons node rest =>
      rw [renderAll, render_eq_foldl, renderAll_eq_foldl, textItemsOf, List.foldl_append]

end

/-- Without paragraph breaks the edges of paragraphs are spaces. -/
theorem foldl_addTo_false (items : List TextItem) (out : List Char) :
    items.foldl (TextItem.addTo false) out = (items.map TextItem.plain).reverse ++ out := by
  induction items generalizing out with
  | nil => rfl
  | cons item items ih =>
      rw [List.foldl_cons, ih]
      cases item <;> simp [TextItem.addTo, TextItem.plain]

/-! ## Ends of sentences -/

/-- Whether a word is the end of a sentence. -/
def endsSentence (word : List Char) : Bool := word.getLast?.any isTerminator

/-- A word as the end of a sentence. -/
def closedWord (word : List Char) : List Char :=
  if endsSentence word then word else word ++ ['.']

@[simp] theorem endsSentence_concat (word : List Char) (c : Char) :
    endsSentence (word ++ [c]) = isTerminator c := by
  simp [endsSentence]

/-- A word that ends no sentence is closed by a full stop. -/
theorem closedWord_cases (word : List Char) :
    (endsSentence word = true ∧ closedWord word = word) ∨
      (endsSentence word = false ∧ closedWord word = word ++ ['.']) := by
  unfold closedWord
  cases endsSentence word <;> simp

/-- A closed word ends a sentence. -/
theorem endsSentence_closedWord (word : List Char) : endsSentence (closedWord word) = true := by
  rcases closedWord_cases word with ⟨hends, hclosed⟩ | ⟨-, hclosed⟩
  · rwa [hclosed]
  · rw [hclosed, endsSentence_concat]
    rfl

/-- Ending a sentence ends the last word of the text, if there is one, and parts it from what
follows. -/
theorem words_closeSentence (out : List Char) :
    (words out.reverse = [] ∧ ∀ s, words ((closeSentence out).reverse ++ s) = words s) ∨
      ∃ init word, words out.reverse = init ++ [word] ∧
        ∀ s, words ((closeSentence out).reverse ++ s) = init ++ closedWord word :: words s := by
  have hout : out.reverse = (out.dropWhile isBlank).reverse ++ (out.takeWhile isBlank).reverse := by
    rw [← List.reverse_append, List.takeWhile_append_dropWhile]
  have hblank : ∀ c ∈ (out.takeWhile isBlank).reverse, isBlank c = true := fun c hc =>
    mem_takeWhile_isBlank (List.mem_reverse.mp hc)
  have hwords : words out.reverse = words (out.dropWhile isBlank).reverse := by
    rw [hout, words_append_of_blank_right _ hblank]
  unfold closeSentence
  split
  next hnone =>
    refine .inl ⟨by rw [hwords, hnone]; rfl, fun s => words_append_of_blank_left ?_ s⟩
    rwa [hout, hnone]
  next last before hsome =>
    have hlast : isBlank last = false :=
      not_isBlank_of_head?_dropWhile (by rw [hsome, List.head?_cons])
    -- the last word ends in `last`, and a full stop may follow that
    obtain ⟨init, word, hgrown⟩ := exists_words_append hlast before.reverse
    have hplain := hgrown [] (by simp)
    have hdotted := hgrown ['.'] (List.forall_mem_singleton.mpr rfl)
    refine .inr ⟨init, word ++ [last], by rw [hwords, hsome, List.reverse_cons, hplain], ?_⟩
    intro s
    split
    next hends =>
      have htext : (' ' :: last :: before).reverse ++ s =
          (before.reverse ++ [last]) ++ ' ' :: s := by simp
      rw [htext, words_append_cons rfl, hplain, closedWord, endsSentence_concat, if_pos hends,
        List.append_assoc, List.singleton_append]
    next hends =>
      have htext : (' ' :: '.' :: last :: before).reverse ++ s =
          (before.reverse ++ [last, '.']) ++ ' ' :: s := by simp
      rw [htext, words_append_cons rfl, hdotted, closedWord, endsSentence_concat, if_neg hends]
      simp

/-! ## Full stops that are added -/

/-- The words of a text whose paragraphs end sentences beside those of the same text whose
paragraphs do not. `isLast` tells by its place whether a word stands last before an edge. -/
structure IsPunctuated (isLast : Nat → Prop) (plain closed : List (List Char)) : Prop where
  length_eq : closed.length = plain.length
  eq_or_added : ∀ i word, plain[i]? = some word → closed[i]? = some word ∨
    closed[i]? = some (word ++ ['.']) ∧ endsSentence word = false ∧ isLast i
  ended : ∀ i, isLast i → ∃ word, closed[i]? = some word ∧ endsSentence word = true

namespace IsPunctuated

variable {isLast : Nat → Prop} {plain closed : List (List Char)}

theorem refl (plain : List (List Char)) : IsPunctuated (fun _ => False) plain plain where
  length_eq := rfl
  eq_or_added _ _ h := .inl h
  ended _ h := h.elim

theorem congr {isLast' : Nat → Prop} (h : IsPunctuated isLast plain closed)
    (hlast : ∀ i, isLast' i ↔ isLast i) : IsPunctuated isLast' plain closed := by
  rwa [show isLast' = isLast from funext fun i => propext (hlast i)]

/-- Words that follow stay as they are. -/
theorem append (h : IsPunctuated isLast plain closed) (more : List (List Char)) :
    IsPunctuated isLast (plain ++ more) (closed ++ more) where
  length_eq := by simp [h.length_eq]
  eq_or_added i word hword := by
    rw [List.getElem?_append] at hword
    rw [List.getElem?_append, h.length_eq]
    split at hword
    next hi =>
      rw [if_pos hi]
      exact h.eq_or_added i word hword
    next hi =>
      rw [if_neg hi]
      exact .inl hword
  ended i hi := by
    obtain ⟨word, hword, hends⟩ := h.ended i hi
    have hlength : i < closed.length := (List.getElem?_eq_some_iff.mp hword).1
    exact ⟨word, by rwa [List.getElem?_append_left hlength], hends⟩

/-- Ending the sentence after the last word. -/
theorem close {init init' : List (List Char)} {word word' : List Char}
    (h : IsPunctuated isLast (init ++ [word]) (init' ++ [word'])) :
    IsPunctuated (fun i => isLast i ∨ i = init.length) (init ++ [word])
      (init' ++ [closedWord word']) := by
  have hlength : init'.length = init.length := by simpa using h.length_eq
  -- only the last word may change
  have hbefore : ∀ i, i ≠ init.length →
      (init' ++ [closedWord word'])[i]? = (init' ++ [word'])[i]? := by
    intro i hi
    rcases Nat.lt_or_gt_of_ne hi with hlt | hgt
    · rw [List.getElem?_append_left (by omega), List.getElem?_append_left (by omega)]
    · rw [List.getElem?_eq_none (by simp; omega), List.getElem?_eq_none (by simp; omega)]
  have hlast : ∀ last : List Char, (init' ++ [last])[init.length]? = some last := fun last => by
    rw [← hlength, List.getElem?_concat_length]
  constructor
  case length_eq => simp [hlength]
  case eq_or_added =>
    intro i other hother
    by_cases hi : i = init.length
    · subst hi
      obtain rfl : word = other := by simpa using hother
      have hword := h.eq_or_added init.length word hother
      rw [hlast, Option.some.injEq, Option.some.injEq] at hword
      rw [hlast, Option.some.injEq, Option.some.injEq]
      rcases hword with rfl | ⟨rfl, hends, -⟩
      · rcases closedWord_cases word' with ⟨-, hclosed⟩ | ⟨hends, hclosed⟩
        · exact .inl hclosed
        · exact .inr ⟨hclosed, hends, .inr rfl⟩
      · have hclosed : closedWord (word ++ ['.']) = word ++ ['.'] := by
          rw [closedWord, endsSentence_concat, if_pos (by decide)]
        exact .inr ⟨hclosed, hends, .inr rfl⟩
    · rw [hbefore i hi]
      exact (h.eq_or_added i other hother).imp_right fun ⟨hword, hends, hisLast⟩ =>
        ⟨hword, hends, .inl hisLast⟩
  case ended =>
    intro i hi
    by_cases hlastPlace : i = init.length
    · subst hlastPlace
      exact ⟨closedWord word', hlast _, endsSentence_closedWord word'⟩
    · obtain ⟨other, hother, hends⟩ := h.ended i (hi.resolve_right hlastPlace)
      exact ⟨other, by rwa [hbefore i hlastPlace], hends⟩

end IsPunctuated

/-- Whether the word at a place, counted from none, stands last before an edge of a paragraph. -/
def IsLastBeforeEdge (items : List TextItem) (i : Nat) : Prop :=
  ∃ before after, items = before ++ .paragraphEdge :: after ∧
    (words (before.map TextItem.plain)).length = i + 1

theorem isLastBeforeEdge_concat {items : List TextItem} {item : TextItem} {i : Nat} :
    IsLastBeforeEdge (items ++ [item]) i ↔ IsLastBeforeEdge items i ∨
      item = .paragraphEdge ∧ (words (items.map TextItem.plain)).length = i + 1 := by
  constructor
  · rintro ⟨before, after, heq, hlength⟩
    rcases List.eq_nil_or_concat' after with rfl | ⟨after, last, rfl⟩
    · obtain ⟨rfl, hitem⟩ := List.append_inj' heq rfl
      exact .inr ⟨by simpa using hitem, hlength⟩
    · rw [← List.cons_append, ← List.append_assoc] at heq
      exact .inl ⟨before, after, (List.append_inj' heq rfl).1, hlength⟩
  · rintro (⟨before, after, rfl, hlength⟩ | ⟨rfl, hlength⟩)
    · exact ⟨before, after ++ [item], by simp, hlength⟩
    · exact ⟨items, [], rfl, hlength⟩

/-- An edge ends the last word before it. -/
theorem IsPunctuated.closeSentence {items : List TextItem} {out : List Char}
    (h : IsPunctuated (IsLastBeforeEdge items) (words (items.map TextItem.plain))
      (words out.reverse)) (s : List Char) :
    IsPunctuated (IsLastBeforeEdge (items ++ [.paragraphEdge]))
      (words (items.map TextItem.plain) ++ words s)
      (words ((Markup.closeSentence out).reverse ++ s)) := by
  have hlength := h.length_eq
  rcases words_closeSentence out with ⟨hnone, hclosed⟩ | ⟨init', word', hsome, hclosed⟩
  · rw [hnone, List.length_nil] at hlength
    have hplain := List.length_eq_zero_iff.mp hlength.symm
    have hlast : ∀ i, ¬ IsLastBeforeEdge items i := by
      intro i hi
      obtain ⟨word, hword, -⟩ := h.ended i hi
      rw [hnone] at hword
      cases hword
    rw [hclosed, hplain]
    refine (IsPunctuated.refl (words s)).congr fun i => ?_
    rw [isLastBeforeEdge_concat, hplain]
    simp [hlast i]
  · rcases List.eq_nil_or_concat' (words (items.map TextItem.plain)) with
      hplain | ⟨init, word, hplain⟩
    · rw [hsome, hplain] at hlength
      simp at hlength
    · rw [hsome, hplain] at h
      have hword : init' ++ closedWord word' :: words s =
          init' ++ [closedWord word'] ++ words s := by simp
      rw [hclosed, hplain, hword]
      refine (h.close.append (words s)).congr fun i => ?_
      rw [isLastBeforeEdge_concat, hplain]
      simp [eq_comm]

/-- Rendering items adds full stops to the last words before the edges of paragraphs only. -/
theorem isPunctuated_foldl (items : List TextItem) (s : List Char) :
    IsPunctuated (IsLastBeforeEdge items) (words (items.map TextItem.plain ++ s))
      (words ((items.foldl (TextItem.addTo true) []).reverse ++ s)) := by
  -- from the last item backwards; what comes after it is a part of the text that follows
  induction items using List.reverseRecOn generalizing s with
  | nil => exact (IsPunctuated.refl (words s)).congr fun i => by simp [IsLastBeforeEdge]
  | append_singleton items item ih =>
      rw [List.foldl_append, List.map_append, List.append_assoc, List.foldl_cons, List.foldl_nil]
      cases item with
      | character c =>
          have hmore := ih (c :: s)
          simp only [TextItem.addTo, List.reverse_cons, List.append_assoc]
          exact hmore.congr fun i => by simp [isLastBeforeEdge_concat]
      | gap =>
          have hmore := ih (' ' :: s)
          simp only [TextItem.addTo, List.reverse_cons, List.append_assoc]
          exact hmore.congr fun i => by simp [isLastBeforeEdge_concat]
      | paragraphEdge =>
          have hitems := ih []
          rw [List.append_nil, List.append_nil] at hitems
          simp only [TextItem.addTo, if_true, List.map_singleton, List.singleton_append,
            TextItem.plain, words_append_cons (show isBlank ' ' = true from rfl)]
          exact hitems.closeSentence s

theorem plainText_without_breaks (placeholder : List Char) (node : Node) :
    node.plainText ⟨placeholder, false⟩ =
      collapse ((textItemsOf placeholder node.children).map TextItem.plain) := by
  rw [Node.plainText, renderAll_eq_foldl, foldl_addTo_false]
  simp

theorem isPunctuated_plainText (placeholder : List Char) (node : Node) :
    let items := textItemsOf placeholder node.children
    node.plainText ⟨placeholder, false⟩ = collapse (items.map TextItem.plain) ∧
      IsPunctuated (IsLastBeforeEdge items) (words (node.plainText ⟨placeholder, false⟩))
        (words (node.plainText ⟨placeholder, true⟩)) := by
  refine ⟨plainText_without_breaks placeholder node, ?_⟩
  have hitems := isPunctuated_foldl (textItemsOf placeholder node.children) []
  rw [List.append_nil, List.append_nil] at hitems
  rw [plainText_without_breaks, Node.plainText, renderAll_eq_foldl, words_collapse, words_collapse]
  exact hitems

end DocSentences.Markup
