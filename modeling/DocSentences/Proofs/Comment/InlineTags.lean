import DocSentences.Proofs.Comment.Offsets
import DocSentences.Proofs.Comment.Prose
import Mathlib.Data.List.Chain
import Mathlib.Data.List.TakeWhile

/-!
# Inline tags and the text they stand in

Writing the elements of a description one after the other gives back the text that they were read
from, and of all lists of elements with that text the one that is read is the only canonical one:
its snippets are as long as can be, and its tags are brace groups that are closed.
-/

namespace DocSentences.DocComment

open Text

/-! ## Canonical elements -/

/-- An element as it stands in a description. What is no element that can be read stands nowhere. -/
def writtenElement : DocElement → List Char
  | .snippet text => text.toList
  | .inlineTag name content => '{' :: '@' :: (name.toList ++ content.toList ++ ['}'])
  | .unrecognized _ => []

/-- Elements one after the other. -/
def written (elements : List DocElement) : List Char := elements.flatMap writtenElement

/-- Where `depth` groups are open, no more of them are closed by a text than there are: no beginning
of it closes more groups than it opens and those. -/
def StaysInside (depth : Nat) (s : List Char) : Prop :=
  ∀ p, p <+: s → p.count '}' ≤ p.count '{' + depth

/-- Every brace that a text closes was opened by it before, and every one that it opens is
closed. -/
structure IsBalanced (s : List Char) : Prop where
  staysInside : StaysInside 0 s
  closes : s.count '}' = s.count '{'

/-- A name and a content that are those of an inline tag. -/
structure IsTag (name content : List Char) : Prop where
  word : ∀ c ∈ name, isBlank c = false
  apart : ∀ c ∈ content.head?, isBlank c = true
  balanced : IsBalanced (name ++ content)

/-- If a text opens an inline tag, then the first group that begins like one is never closed. -/
def StaysOpen (s : List Char) : Prop :=
  ∀ before inside, s = before ++ '{' :: '@' :: inside → ¬ ['{', '@'] <:+: before →
    StaysInside 0 inside

/-- Whether an element is plain text. -/
def isSnippet : DocElement → Bool
  | .snippet _ => true
  | _ => false

/-- Elements as they are read. A snippet in which a group stays open reaches to the end of its
description, so that it is the last element. -/
structure IsCanonical (elements : List DocElement) : Prop where
  known : ∀ element ∈ elements, hasText element = true
  nonempty : .snippet "" ∉ elements
  apart : elements.IsChain fun a b => ¬ (isSnippet a = true ∧ isSnippet b = true)
  tags : ∀ name content, .inlineTag name content ∈ elements → IsTag name.toList content.toList
  plain : ∀ text, .snippet text ∈ elements.dropLast → ¬ ['{', '@'] <:+: text.toList
  last : ∀ text, elements.getLast? = some (.snippet text) → StaysOpen text.toList

/-! ## Brace groups -/

theorem staysInside_cons {depth : Nat} {c : Char} {s : List Char} :
    StaysInside depth (c :: s) ↔
      ∀ p, p <+: s → (c :: p).count '}' ≤ (c :: p).count '{' + depth := by
  constructor
  · exact fun h p hp => h (c :: p) (List.cons_prefix_cons.mpr ⟨rfl, hp⟩)
  · intro h p hp
    rcases List.prefix_cons_iff.mp hp with rfl | ⟨q, rfl, hq⟩
    · simp
    · exact h q hq

@[simp] theorem staysInside_opening {depth : Nat} {s : List Char} :
    StaysInside depth ('{' :: s) ↔ StaysInside (depth + 1) s := by
  rw [staysInside_cons]
  simp [StaysInside, Nat.add_right_comm, Nat.add_assoc]

@[simp] theorem staysInside_closing {depth : Nat} {s : List Char} :
    StaysInside (depth + 1) ('}' :: s) ↔ StaysInside depth s := by
  rw [staysInside_cons]
  simp [StaysInside, ← Nat.add_assoc]

@[simp] theorem not_staysInside_closing {s : List Char} : ¬ StaysInside 0 ('}' :: s) :=
  fun h => absurd (h ['}'] (List.cons_prefix_cons.mpr ⟨rfl, List.nil_prefix⟩)) (by decide)

/-- A character that is no brace keeps the level. -/
theorem staysInside_of_ne {depth : Nat} {c : Char} {s : List Char} (hopening : c ≠ '{')
    (hclosing : c ≠ '}') : StaysInside depth (c :: s) ↔ StaysInside depth s := by
  rw [staysInside_cons]
  simp [StaysInside, hopening, hclosing]

/-- No group is closed exactly if the text stays inside. -/
theorem breakAtClose_eq_none_iff {depth : Nat} {s : List Char} :
    breakAtClose depth s = none ↔ StaysInside depth s := by
  fun_induction breakAtClose depth s with
  | case1 depth => simp [StaysInside]
  | case2 depth rest ih => rw [Option.map_eq_none_iff, ih, staysInside_opening]
  | case3 rest => simp
  | case4 rest outer ih => rw [Option.map_eq_none_iff, ih, staysInside_closing]
  | case5 depth c rest hopening hclosing ih =>
      rw [Option.map_eq_none_iff, ih, staysInside_of_ne hopening hclosing]

/-- The group that a text lies in is closed by the first brace that has none of its own. -/
theorem breakAtClose_append {depth : Nat} {inside : List Char} (hinside : StaysInside depth inside)
    (hcloses : inside.count '}' = inside.count '{' + depth) (after : List Char) :
    breakAtClose depth (inside ++ '}' :: after) = some (inside, after) := by
  -- by induction on the inside of the group, for every number of open levels
  induction inside generalizing depth with
  | nil =>
      obtain rfl : depth = 0 := by simpa using hcloses.symm
      rfl
  | cons c inside ih =>
      rw [List.cons_append]
      by_cases hopening : c = '{'
      · subst hopening
        rw [breakAtClose, ih (staysInside_opening.mp hinside) (by simp at hcloses; omega)]
        rfl
      by_cases hclosing : c = '}'
      · subst hclosing
        cases depth with
        | zero => exact absurd hinside not_staysInside_closing
        | succ depth =>
            rw [breakAtClose, ih (staysInside_closing.mp hinside) (by simp at hcloses; omega)]
            rfl
      · have hrest := (staysInside_of_ne hopening hclosing).mp hinside
        rw [breakAtClose, ih hrest (by simpa [hopening, hclosing] using hcloses)]
        · rfl
        · exact hopening
        · exact hclosing

/-- What stands before the brace that closes a group is balanced against the open levels. -/
theorem of_breakAtClose {depth : Nat} {s inside after : List Char}
    (h : breakAtClose depth s = some (inside, after)) :
    StaysInside depth inside ∧ inside.count '}' = inside.count '{' + depth := by
  fun_induction breakAtClose depth s generalizing inside with
  | case1 => cases h
  | case2 depth rest ih =>
      obtain ⟨⟨b, i⟩, hi, heq⟩ := Option.map_eq_some_iff.mp h
      cases heq
      obtain ⟨hinside, hcloses⟩ := ih hi
      exact ⟨staysInside_opening.mpr hinside, by simp; omega⟩
  | case3 rest =>
      cases h
      exact ⟨by simp [StaysInside], rfl⟩
  | case4 rest outer ih =>
      obtain ⟨⟨b, i⟩, hi, heq⟩ := Option.map_eq_some_iff.mp h
      cases heq
      obtain ⟨hinside, hcloses⟩ := ih hi
      exact ⟨staysInside_closing.mpr hinside, by simp; omega⟩
  | case5 depth c rest hopening hclosing ih =>
      obtain ⟨⟨b, i⟩, hi, heq⟩ := Option.map_eq_some_iff.mp h
      cases heq
      obtain ⟨hinside, hcloses⟩ := ih hi
      refine ⟨(staysInside_of_ne hopening hclosing).mpr hinside, ?_⟩
      rwa [List.count_cons_of_ne hclosing, List.count_cons_of_ne hopening]

/-! ## The first tag of a text -/

/-- No tag opens before the first one. -/
theorem not_infix_of_breakAtTag {s before inside : List Char}
    (h : breakAtTag s = some (before, inside)) : ¬ ['{', '@'] <:+: before := by
  fun_induction breakAtTag s generalizing before with
  | case1 => cases h
  | case2 rest =>
      cases h
      simp
  | case3 c rest hopen ih =>
      obtain ⟨⟨b, i⟩, hi, heq⟩ := Option.map_eq_some_iff.mp h
      cases heq
      rw [List.infix_cons_iff]
      rintro (hpair | hpair)
      · obtain ⟨rfl, hnext⟩ := List.cons_prefix_cons.mp hpair
        obtain ⟨more, rfl⟩ := hnext
        exact hopen _ rfl (eq_append_of_breakAtTag hi)
      · exact ih hi hpair

/-- A text is split before a tag if none begins before that. -/
theorem breakAtTag_append {before : List Char} (h : ¬ ['{', '@'] <:+: before)
    (inside : List Char) :
    breakAtTag (before ++ '{' :: '@' :: inside) = some (before, inside) := by
  induction before with
  | nil => rfl
  | cons c before ih =>
      have hopen : ∀ rest, c = '{' → before ++ '{' :: '@' :: inside = '@' :: rest → False := by
        rintro rest rfl heq
        cases before with
        | nil => cases heq
        | cons d before =>
            obtain rfl : d = '@' := (List.cons.inj heq).1
            exact h (List.prefix_append ['{', '@'] before).isInfix
      rw [List.cons_append, breakAtTag, ih fun hpair => h (List.infix_cons hpair)]
      · rfl
      · exact hopen

/-- A text stays open exactly if its first tag, when there is one, is not closed. -/
theorem staysOpen_iff {s : List Char} :
    StaysOpen s ↔ ∀ before inside, breakAtTag s = some (before, inside) →
      breakAtClose 0 inside = none := by
  constructor
  · intro h before inside htag
    exact breakAtClose_eq_none_iff.mpr
      (h before inside (eq_append_of_breakAtTag htag) (not_infix_of_breakAtTag htag))
  · rintro h before inside rfl hbefore
    exact breakAtClose_eq_none_iff.mp (h before inside (breakAtTag_append hbefore inside))

/-! ## Reading one element -/

/-- A text that stays open is a single snippet. -/
theorem readDescription_of_staysOpen {s : List Char} (h : StaysOpen s) :
    readDescription s = snippet? s := by
  rw [readDescription]
  split
  · rfl
  next before inside htag => rw [staysOpen_iff.mp h before inside htag]

/-- A text up to a closed tag is a snippet and the tag, and what follows is read on its own. -/
theorem readDescription_tag {before inside : List Char} (hbefore : ¬ ['{', '@'] <:+: before)
    (hinside : IsBalanced inside) (after : List Char) :
    readDescription (before ++ '{' :: '@' :: (inside ++ '}' :: after)) =
      snippet? before ++ inlineTag inside :: readDescription after := by
  have hclose := breakAtClose_append hinside.staysInside hinside.closes after
  rw [readDescription, breakAtTag_append hbefore]
  dsimp only
  split
  · simp_all
  · simp_all

/-- A closed tag at the beginning is read on its own. -/
theorem readDescription_opening {inside : List Char} (hinside : IsBalanced inside)
    (after : List Char) : readDescription ('{' :: '@' :: (inside ++ '}' :: after)) =
      inlineTag inside :: readDescription after := by
  have hbefore : ¬ ['{', '@'] <:+: ([] : List Char) := by simp
  exact readDescription_tag hbefore hinside after

/-- What stands before a tag is a snippet, and the tag is read as if it stood first. -/
theorem readDescription_append_tag {before inside : List Char} (hbefore : ¬ ['{', '@'] <:+: before)
    (hinside : IsBalanced inside) (after : List Char) :
    readDescription (before ++ '{' :: '@' :: (inside ++ '}' :: after)) =
      snippet? before ++ readDescription ('{' :: '@' :: (inside ++ '}' :: after)) := by
  rw [readDescription_tag hbefore hinside, readDescription_opening hinside]

/-- The name of a tag reaches to the first blank character of its inside. -/
theorem inlineTag_append {name content : List Char} (h : IsTag name content) :
    inlineTag (name ++ content) = .inlineTag (String.ofList name) (String.ofList content) := by
  have hname : ∀ c ∈ name, (!isBlank c) = true := fun c hc => by simp [h.word c hc]
  have hcontent : content.takeWhile (!isBlank ·) = [] ∧
      content.dropWhile (!isBlank ·) = content := by
    cases content with
    | nil => exact ⟨rfl, rfl⟩
    | cons c content =>
        have hc : ¬ (!isBlank c) = true := by simp [h.apart c rfl]
        exact ⟨List.takeWhile_cons_of_neg hc, List.dropWhile_cons_of_neg hc⟩
  rw [inlineTag, List.takeWhile_append_of_pos hname, List.dropWhile_append_of_pos hname,
    hcontent.1, hcontent.2, List.append_nil]

/-- The name of a tag that is read ends where the first blank character is. -/
theorem isTag_of_isBalanced {inside : List Char} (h : IsBalanced inside) :
    IsTag (inside.takeWhile (!isBlank ·)) (inside.dropWhile (!isBlank ·)) where
  word c hc := by simpa using List.mem_takeWhile_imp hc
  apart c hc := by
    have hfirst := List.head?_dropWhile_not (!isBlank ·) inside
    rw [Option.mem_def.mp hc] at hfirst
    simpa using hfirst
  balanced := by rwa [List.takeWhile_append_dropWhile]

/-! ## Canonical lists, element by element -/

namespace IsCanonical

theorem nil : IsCanonical [] where
  known := by simp
  nonempty := by simp
  apart := .nil
  tags := by simp
  plain := by simp
  last := by simp

/-- A text that stays open is canonical as a single snippet. -/
theorem snippet {s : List Char} (h : StaysOpen s) : IsCanonical (snippet? s) := by
  unfold snippet?
  split
  · exact .nil
  next hs =>
    constructor
    case known => simp [hasText]
    case nonempty => simpa using fun hempty => hs (by simpa using hempty)
    case apart => simp
    case tags => simp
    case plain => simp
    case last =>
      intro text htext
      obtain rfl : String.ofList s = text := by simpa using htext
      simpa using h

theorem snippet_mem_dropLast_iff {text name content : String} {rest : List DocElement} :
    .snippet text ∈ (.inlineTag name content :: rest).dropLast ↔ .snippet text ∈ rest.dropLast := by
  cases rest <;> simp

theorem getLast?_tag_cons_iff {text name content : String} {rest : List DocElement} :
    (.inlineTag name content :: rest).getLast? = some (.snippet text) ↔
      rest.getLast? = some (.snippet text) := by
  cases rest <;> simp [List.getLast?_cons_cons]

/-- A tag in front keeps elements canonical exactly if it is one. -/
theorem tag_cons_iff {name content : String} {rest : List DocElement} :
    IsCanonical (.inlineTag name content :: rest) ↔
      IsTag name.toList content.toList ∧ IsCanonical rest := by
  constructor
  · intro h
    have htail : ∀ {element}, element ∈ rest → element ∈ .inlineTag name content :: rest :=
      List.mem_cons_of_mem _
    refine ⟨h.tags name content List.mem_cons_self, ?_⟩
    constructor
    case known => exact fun element helement => h.known element (htail helement)
    case nonempty => exact fun hempty => h.nonempty (htail hempty)
    case apart => exact (List.isChain_cons.mp h.apart).2
    case tags => exact fun other more htag => h.tags other more (htail htag)
    case plain =>
      exact fun text htext => h.plain text (snippet_mem_dropLast_iff.mpr htext)
    case last =>
      exact fun text htext => h.last text (getLast?_tag_cons_iff.mpr htext)
  · rintro ⟨htag, h⟩
    constructor
    case known => exact List.forall_mem_cons.mpr ⟨rfl, h.known⟩
    case nonempty => simpa using h.nonempty
    case apart =>
      refine List.isChain_cons.mpr ⟨?_, h.apart⟩
      simp [isSnippet]
    case tags =>
      intro other more hmem
      rcases List.mem_cons.mp hmem with heq | hrest
      · cases heq
        exact htag
      · exact h.tags other more hrest
    case plain =>
      exact fun text htext => h.plain text (snippet_mem_dropLast_iff.mp htext)
    case last =>
      exact fun text htext => h.last text (getLast?_tag_cons_iff.mp htext)

/-- A snippet before a tag is canonical exactly if it has text that opens no tag. -/
theorem snippet_cons_iff {text name content : String} {rest : List DocElement} :
    IsCanonical (.snippet text :: .inlineTag name content :: rest) ↔
      text ≠ "" ∧ ¬ ['{', '@'] <:+: text.toList ∧
        IsCanonical (.inlineTag name content :: rest) := by
  -- only that a tag is no snippet matters of it
  generalize htag : DocElement.inlineTag name content = tag
  constructor
  · intro h
    have htail : ∀ {element}, element ∈ tag :: rest → element ∈ .snippet text :: tag :: rest :=
      List.mem_cons_of_mem _
    refine ⟨?_, h.plain text (by simp), ?_⟩
    · rintro rfl
      exact h.nonempty List.mem_cons_self
    constructor
    case known => exact fun element helement => h.known element (htail helement)
    case nonempty => exact fun hempty => h.nonempty (htail hempty)
    case apart => exact (List.isChain_cons.mp h.apart).2
    case tags => exact fun other more htag => h.tags other more (htail htag)
    case plain => exact fun other hother => h.plain other (by simp [hother])
    case last => exact fun other hother => h.last other (by rwa [List.getLast?_cons_cons])
  · rintro ⟨hne, hplain, h⟩
    constructor
    case known => exact List.forall_mem_cons.mpr ⟨rfl, h.known⟩
    case nonempty =>
      rw [List.mem_cons, not_or]
      exact ⟨fun heq => hne (DocElement.snippet.inj heq).symm, h.nonempty⟩
    case apart =>
      refine List.isChain_cons.mpr ⟨?_, h.apart⟩
      simp [isSnippet, ← htag]
    case tags =>
      intro other more hmem
      exact h.tags other more (by simpa using hmem)
    case plain =>
      intro other hother
      rw [List.dropLast_cons_of_ne_nil (List.cons_ne_nil tag rest)] at hother
      rcases List.mem_cons.mp hother with heq | hrest
      · cases heq
        exact hplain
      · exact h.plain other hrest
    case last => exact fun other hother => h.last other (by rwa [List.getLast?_cons_cons] at hother)

end IsCanonical

/-! ## Descriptions -/

@[simp] theorem written_cons (element : DocElement) (rest : List DocElement) :
    written (element :: rest) = writtenElement element ++ written rest :=
  List.flatMap_cons

@[simp] theorem written_append (elements more : List DocElement) :
    written (elements ++ more) = written elements ++ written more :=
  List.flatMap_append

@[simp] theorem written_snippet? (s : List Char) : written (snippet? s) = s := by
  unfold snippet?
  split
  next hempty => rw [List.isEmpty_iff.mp hempty]; rfl
  · simp [written, writtenElement]

theorem written_tag_cons (name content : String) (rest : List DocElement) :
    written (.inlineTag name content :: rest) =
      '{' :: '@' :: (name.toList ++ content.toList ++ '}' :: written rest) := by
  simp [writtenElement]

/-- A tag is written as its inside between braces. -/
theorem writtenElement_inlineTag (inside : List Char) :
    writtenElement (inlineTag inside) = '{' :: '@' :: (inside ++ ['}']) := by
  simp [writtenElement, inlineTag]

/-- Reading loses no character of a description and adds none. -/
@[simp] theorem written_readDescription (s : List Char) : written (readDescription s) = s := by
  fun_induction readDescription s with
  | case1 => exact written_snippet? _
  | case2 => exact written_snippet? _
  | case3 s before inside htag content after hclose ih =>
      rw [written_append, written_snippet?, written_cons, writtenElement_inlineTag, ih,
        eq_append_of_breakAtTag htag, eq_append_of_breakAtClose hclose]
      simp

/-- A text and a balanced tag in front keep elements canonical. -/
theorem IsCanonical.snippet_append {before inside : List Char} {rest : List DocElement}
    (hbefore : ¬ ['{', '@'] <:+: before) (hinside : IsBalanced inside) (h : IsCanonical rest) :
    IsCanonical (snippet? before ++ inlineTag inside :: rest) := by
  have htag : IsCanonical (inlineTag inside :: rest) :=
    IsCanonical.tag_cons_iff.mpr ⟨by simpa using isTag_of_isBalanced hinside, h⟩
  unfold snippet?
  split
  · exact htag
  next hne =>
    refine IsCanonical.snippet_cons_iff.mpr ⟨?_, by simpa using hbefore, htag⟩
    simpa using hne

/-- Whatever the text, its elements are canonical. -/
theorem isCanonical_readDescription (s : List Char) : IsCanonical (readDescription s) := by
  fun_induction readDescription s with
  | case1 s htag => exact .snippet (staysOpen_iff.mpr (by simp [htag]))
  | case2 s before inside htag hclose => exact .snippet (staysOpen_iff.mpr (by simp [htag, hclose]))
  | case3 s before inside htag content after hclose ih =>
      obtain ⟨hinside, hcloses⟩ := of_breakAtClose hclose
      exact .snippet_append (not_infix_of_breakAtTag htag) ⟨hinside, hcloses⟩ ih

/-- A tag is read back from what is written of it. -/
theorem readDescription_written_tag_cons {name content : String} {rest : List DocElement}
    (htag : IsTag name.toList content.toList) (hrest : readDescription (written rest) = rest) :
    readDescription (written (.inlineTag name content :: rest)) =
      .inlineTag name content :: rest := by
  have hread := readDescription_opening htag.balanced (written rest)
  rw [inlineTag_append htag, hrest, String.ofList_toList, String.ofList_toList] at hread
  rw [written_tag_cons, hread]

theorem snippet?_of_ne {text : String} (h : text ≠ "") :
    snippet? text.toList = [.snippet text] := by
  simp [snippet?, h]

/-- Canonical elements are read back from the text that they are written as. -/
theorem readDescription_written {elements : List DocElement} (h : IsCanonical elements) :
    readDescription (written elements) = elements := by
  induction elements with
  | nil => exact readDescription_of_staysOpen (staysOpen_iff.mpr nofun)
  | cons element rest ih =>
      match element, rest, h with
      | .unrecognized kind, _, h => exact absurd (h.known _ List.mem_cons_self) (by simp [hasText])
      | .inlineTag name content, rest, h =>
          obtain ⟨htag, hrest⟩ := IsCanonical.tag_cons_iff.mp h
          exact readDescription_written_tag_cons htag (ih hrest)
      | .snippet text, [], h =>
          -- the last snippet may hold a group that stays open
          have hne : text ≠ "" := fun hempty => h.nonempty (hempty ▸ List.mem_cons_self)
          have hread := readDescription_of_staysOpen (h.last text rfl)
          rw [snippet?_of_ne hne] at hread
          simpa [written, writtenElement] using hread
      | .snippet text, .inlineTag name content :: rest, h =>
          obtain ⟨hne, hplain, hrest⟩ := IsCanonical.snippet_cons_iff.mp h
          have htag := (IsCanonical.tag_cons_iff.mp hrest).1
          have hread := readDescription_append_tag hplain htag.balanced (written rest)
          rw [← written_tag_cons, ih hrest, snippet?_of_ne hne] at hread
          exact hread
      | .snippet text, .snippet next :: rest, h =>
          exact absurd ⟨rfl, rfl⟩ ((List.isChain_cons_cons.mp h.apart).1)
      | .snippet text, .unrecognized kind :: rest, h =>
          exact absurd (h.known (.unrecognized kind) (by simp)) (by simp [hasText])

/-- The elements of a description are the only canonical ones that are written as its text. -/
theorem readDescription_eq_iff (s : List Char) (elements : List DocElement) :
    readDescription s = elements ↔ IsCanonical elements ∧ written elements = s := by
  constructor
  · rintro rfl
    exact ⟨isCanonical_readDescription s, written_readDescription s⟩
  · rintro ⟨h, rfl⟩
    exact readDescription_written h

end DocSentences.DocComment
