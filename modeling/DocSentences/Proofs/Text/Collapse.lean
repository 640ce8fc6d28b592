import DocSentences.Proofs.Text.Lines
import Mathlib.Data.List.Chain
import Mathlib.Data.List.TakeWhile

/-!
# Single spaces

Writing the words of a text with one space between neighbours gives a spelling in which no blank
character stands at an end, none stands beside another, and all of them are plain spaces. The texts
spelled like that are those which this leaves as they are.
-/

namespace DocSentences.Text

/-- The words of a text stand with a single plain space between neighbours, and with nothing
around them. -/
structure IsSpaced (s : List Char) : Prop where
  first : ∀ c ∈ s.head?, isBlank c = false
  last : ∀ c ∈ s.getLast?, isBlank c = false
  plain : ∀ c ∈ s, isBlank c = true → c = ' '
  apart : s.IsChain fun a b => isBlank a = true → isBlank b = false

namespace IsSpaced

theorem of_not_isBlank {word : List Char} (h : ∀ c ∈ word, isBlank c = false) :
    IsSpaced word where
  first c hc := h c (List.mem_of_mem_head? hc)
  last c hc := h c (List.mem_of_mem_getLast? hc)
  plain c hc hblank := absurd hblank (by simp [h c hc])
  apart := by
    refine List.Pairwise.isChain (List.pairwise_of_forall_mem_list ?_)
    exact fun _ _ b hb _ => h b hb

/-- Two nonempty texts with single spaces may be joined by one more space. -/
theorem append {s t : List Char} (hs : IsSpaced s) (ht : IsSpaced t) (hleft : s ≠ [])
    (hright : t ≠ []) : IsSpaced (s ++ ' ' :: t) where
  first c hc := hs.first c (by rwa [List.head?_append_of_ne_nil _ hleft] at hc)
  last c hc := by
    refine ht.last c ?_
    rwa [List.getLast?_append_of_ne_nil _ (List.cons_ne_nil ' ' t),
      List.getLast?_cons_of_ne_nil hright] at hc
  plain c hc hblank := by
    rcases List.mem_append.mp hc with hmem | hmem
    · exact hs.plain c hmem hblank
    · rcases List.mem_cons.mp hmem with rfl | hmem
      · rfl
      · exact ht.plain c hmem hblank
  apart := by
    refine List.isChain_append.mpr ⟨hs.apart, List.isChain_cons.mpr ⟨?_, ht.apart⟩, ?_⟩
    · exact fun c hc _ => ht.first c hc
    · intro c hc _ _ hblank
      exact absurd hblank (by simp [hs.last c hc])

/-- A text is a single word, or it goes on after its first one. -/
theorem exists_word {s : List Char} (h : IsSpaced s) :
    (∀ c ∈ s, isBlank c = false) ∨
      ∃ word rest, s = word ++ ' ' :: rest ∧ word ≠ [] ∧ (∀ c ∈ word, isBlank c = false) ∧
        rest ≠ [] ∧ IsSpaced rest := by
  have hsplit := List.takeWhile_append_dropWhile (p := (!isBlank ·)) (l := s)
  have hword : ∀ c ∈ s.takeWhile (!isBlank ·), isBlank c = false := fun c hc => by
    simpa using List.mem_takeWhile_imp hc
  -- the word reaches to the first blank character, which is a space
  cases hrest : s.dropWhile (!isBlank ·) with
  | nil =>
      rw [hrest, List.append_nil] at hsplit
      exact .inl (hsplit ▸ hword)
  | cons b rest =>
      have hblank : isBlank b = true := by
        simpa [hrest] using List.head?_dropWhile_not (!isBlank ·) s
      rw [hrest] at hsplit
      generalize s.takeWhile (!isBlank ·) = word at hsplit hword
      subst hsplit
      obtain rfl : b = ' ' := h.plain b (by simp) hblank
      have hchain := (List.isChain_append.mp h.apart).2.1
      have hleft : word ≠ [] := by
        rintro rfl
        simpa [hblank] using h.first ' '
      have hright : rest ≠ [] := by
        rintro rfl
        simpa [hblank] using h.last ' '
      refine .inr ⟨word, rest, rfl, hleft, hword, hright, ?_⟩
      constructor
      case first => exact fun c hc => (List.isChain_cons.mp hchain).1 c hc hblank
      case last =>
        intro c hc
        refine h.last c ?_
        rwa [List.getLast?_append_of_ne_nil _ (List.cons_ne_nil ' ' rest),
          List.getLast?_cons_of_ne_nil hright]
      case plain => exact fun c hc => h.plain c (by simp [hc])
      case apart => exact (List.isChain_cons.mp hchain).2

end IsSpaced

/-! ## Words with single spaces between them -/

/-- A nonempty text without blank characters is a single word. -/
theorem words_of_not_isBlank {word : List Char} (hne : word ≠ [])
    (h : ∀ c ∈ word, isBlank c = false) : words word = [word] := by
  rw [words, List.splitOnP_eq_singleton h]
  simp [hne]

theorem words_cons_of_not_isBlank {c : Char} {word : List Char} (hc : isBlank c = false)
    (h : ∀ d ∈ word, isBlank d = false) : words (c :: word) = [c :: word] :=
  words_of_not_isBlank (List.cons_ne_nil c word) (List.forall_mem_cons.mpr ⟨hc, h⟩)

/-- A word at the end of a text may grow there; the words before it stay the same. -/
theorem exists_words_append {c : Char} (hc : isBlank c = false) (s : List Char) :
    ∃ init word, ∀ more, (∀ d ∈ more, isBlank d = false) →
      words (s ++ c :: more) = init ++ [word ++ c :: more] := by
  induction s using List.reverseRecOn generalizing c with
  | nil => exact ⟨[], [], fun more hmore => words_cons_of_not_isBlank hc hmore⟩
  | append_singleton s d ih =>
      cases hd : isBlank d with
      | true =>
          refine ⟨words s, [], fun more hmore => ?_⟩
          rw [List.append_assoc, List.singleton_append, words_append_cons hd,
            words_cons_of_not_isBlank hc hmore]
          rfl
      | false =>
          obtain ⟨init, word, hwords⟩ := ih hd
          refine ⟨init, word ++ [d], fun more hmore => ?_⟩
          rw [List.append_assoc, List.singleton_append,
            hwords (c :: more) (List.forall_mem_cons.mpr ⟨hc, hmore⟩), List.append_assoc]
          rfl

theorem mem_splitOnP {α : Type} {p : α → Bool} {s piece : List α} (h : piece ∈ s.splitOnP p)
    {x : α} (hx : x ∈ piece) : x ∈ s ∧ p x = false := by
  induction s generalizing piece with
  | nil =>
      rw [List.splitOnP_nil, List.mem_singleton] at h
      exact absurd hx (h ▸ List.not_mem_nil)
  | cons y s ih =>
      rw [List.splitOnP_cons_eq_if_modifyHead] at h
      split at h
      next hy =>
        rcases List.mem_cons.mp h with rfl | hmem
        · exact absurd hx List.not_mem_nil
        · exact (ih hmem hx).imp_left (List.mem_cons_of_mem y)
      next hy =>
        obtain ⟨first, rest, hpieces⟩ := List.exists_cons_of_ne_nil (List.splitOnP_ne_nil p s)
        rw [hpieces, List.modifyHead_cons] at h
        rw [hpieces] at ih
        rcases List.mem_cons.mp h with rfl | hmem
        · rcases List.mem_cons.mp hx with rfl | hx
          · exact ⟨List.mem_cons_self, by simpa using hy⟩
          · exact (ih List.mem_cons_self hx).imp_left (List.mem_cons_of_mem y)
        · exact (ih (List.mem_cons_of_mem first hmem) hx).imp_left (List.mem_cons_of_mem y)

/-- A word is a run of characters of the text, none of them blank. -/
theorem of_mem_words {s word : List Char} (h : word ∈ words s) :
    word ≠ [] ∧ ∀ c ∈ word, c ∈ s ∧ isBlank c = false := by
  obtain ⟨hpiece, hne⟩ := List.mem_filter.mp h
  exact ⟨by simpa using hne, fun c hc => mem_splitOnP hpiece hc⟩

theorem joinWith_cons {separator : List Char} (part : List Char) {parts : List (List Char)}
    (h : parts ≠ []) :
    joinWith separator (part :: parts) = part ++ separator ++ joinWith separator parts := by
  cases parts with
  | nil => exact absurd rfl h
  | cons next rest => rfl

theorem joinWith_concat (separator last : List Char) (parts : List (List Char)) :
    joinWith separator (parts ++ [last]) = parts.flatMap (· ++ separator) ++ last := by
  induction parts with
  | nil => rfl
  | cons part parts ih =>
      rw [List.cons_append, joinWith_cons part (by simp), ih, List.flatMap_cons]
      simp only [List.append_assoc]

/-- Words joined by single spaces are spaced. -/
theorem isSpaced_joinWith {parts : List (List Char)}
    (h : ∀ word ∈ parts, word ≠ [] ∧ ∀ c ∈ word, isBlank c = false) :
    IsSpaced (joinWith [' '] parts) := by
  fun_induction joinWith [' '] parts with
  | case1 => exact .of_not_isBlank fun _ hc => absurd hc List.not_mem_nil
  | case2 part => exact .of_not_isBlank (h part List.mem_cons_self).2
  | case3 part next rest ih =>
      have hpart := h part List.mem_cons_self
      have hmore := ih fun word hword => h word (List.mem_cons_of_mem part hword)
      have hne : joinWith [' '] (next :: rest) ≠ [] := by
        have hnext := (h next (by simp)).1
        cases rest <;> simp [joinWith, hnext]
      rw [List.append_assoc, List.singleton_append]
      exact .append (.of_not_isBlank hpart.2) hmore hpart.1 hne

/-- Writing the words of a text with single spaces keeps them. -/
@[simp] theorem words_collapse (s : List Char) : words (collapse s) = words s := by
  have hword : ∀ word ∈ words s, words word = [word] := fun word hword =>
    words_of_not_isBlank (of_mem_words hword).1 fun c hc => ((of_mem_words hword).2 c hc).2
  rw [collapse, words_joinWith rfl, List.flatMap_congr hword]
  simp

/-- Whatever it is given, collapsing leaves single spaces between words and none at the ends. -/
theorem isSpaced_collapse (s : List Char) : IsSpaced (collapse s) :=
  isSpaced_joinWith fun _ hword => (of_mem_words hword).imp_right fun h c hc => (h c hc).2

/-- Collapsing leaves a spaced text as it is. -/
theorem collapse_of_isSpaced {s : List Char} (h : IsSpaced s) : collapse s = s := by
  -- by induction on the length of the text, which is longer than what follows its first word
  induction hlength : s.length using Nat.strong_induction_on generalizing s with
  | h length ih =>
      subst hlength
      rcases h.exists_word with hword | ⟨word, rest, rfl, hne, hword, hrest, hspaced⟩
      · cases s with
        | nil => rfl
        | cons c s => rw [collapse, words_of_not_isBlank (List.cons_ne_nil c s) hword, joinWith]
      · have hmore : collapse rest = rest := ih rest.length (by simp; omega) hspaced rfl
        have hwords : words rest ≠ [] := by
          intro hnil
          rw [collapse, hnil] at hmore
          exact hrest hmore.symm
        have hsplit : words (word ++ ' ' :: rest) = word :: words rest := by
          rw [words_append_cons rfl, words_of_not_isBlank hne hword]
          rfl
        rw [collapse, hsplit, joinWith_cons word hwords, List.append_assoc, List.singleton_append]
        exact congrArg (word ++ ' ' :: ·) hmore

/-- The texts with single spaces are those that writing with single spaces leaves as they are. -/
theorem collapse_eq_self_iff (s : List Char) : collapse s = s ↔ IsSpaced s :=
  ⟨fun h => h ▸ isSpaced_collapse s, collapse_of_isSpaced⟩

/-- Collapsing brings in no character but the space. -/
theorem mem_of_mem_collapse {s : List Char} {c : Char} (h : c ∈ collapse s) : c = ' ' ∨ c ∈ s := by
  rcases mem_joinWith h with hspace | ⟨word, hword, hc⟩
  · exact .inl (List.mem_singleton.mp hspace)
  · exact .inr ((of_mem_words hword).2 c hc).1

end DocSentences.Text
