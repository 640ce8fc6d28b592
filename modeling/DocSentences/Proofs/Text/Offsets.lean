import DocSentences.Text.Utf8

/-!
# Parts of a text by position

Taking a part of a list by index, or of a text by byte offset, may go wrong: the positions may lie
beyond the end, come in the wrong order, or cut a character in two. Here such a part is `none`, and
so is a difference below zero.
-/

namespace DocSentences.Text

/-! ## Indices -/

/-- The difference of two numbers, unless it lies below zero. -/
def sub? (m n : Nat) : Option Nat :=
  if n ≤ m then some (m - n) else none

theorem sub?_of_add_eq {m n k : Nat} (h : k + n = m) : sub? m n = some k := by
  rw [sub?, if_pos (by omega)]
  exact congrArg some (by omega)

section Indices

variable {α : Type}

/-- The elements of a list from one index up to another. -/
def slice? (xs : List α) (first last : Nat) : Option (List α) :=
  if first ≤ last ∧ last ≤ xs.length then some ((xs.take last).drop first) else none

theorem slice?_of_le {xs : List α} {first last : Nat} (h : first ≤ last)
    (hlast : last ≤ xs.length) :
    slice? xs first last = some ((xs.take last).drop first) :=
  if_pos ⟨h, hlast⟩

/-- The part that stands at the given index with something after it. -/
theorem slice?_of_drop_eq {xs middle after : List α} {first : Nat} (h : first ≤ xs.length)
    (hdrop : xs.drop first = middle ++ after) :
    slice? xs first (first + middle.length) = some middle := by
  have hlength := congrArg List.length hdrop
  rw [List.length_drop, List.length_append] at hlength
  rw [slice?_of_le (Nat.le_add_right _ _) (by omega), List.drop_take, hdrop,
    Nat.add_sub_cancel_left, List.take_left]

/-- The index of the first hit is the length of what comes before it. -/
theorem findIdx_eq_length_takeWhile (test : α → Bool) (xs : List α) :
    xs.findIdx test = (xs.takeWhile (!test ·)).length := by
  induction xs with
  | nil => rfl
  | cons x xs ih => cases h : test x <;> simp [List.findIdx_cons, h, ih]

/-- Cutting a list in two at the first element that passes a test. -/
theorem slice?_findIdx (test : α → Bool) (xs : List α) :
    slice? xs 0 (xs.findIdx test) = some (xs.takeWhile (!test ·)) ∧
      slice? xs (xs.findIdx test) xs.length = some (xs.dropWhile (!test ·)) := by
  have hsplit := List.takeWhile_append_dropWhile (p := (!test ·)) (l := xs)
  have hlength := congrArg List.length hsplit
  rw [List.length_append] at hlength
  have hdrop : xs.drop (xs.takeWhile (!test ·)).length = xs.dropWhile (!test ·) ++ [] := by
    rw [List.append_nil]
    exact (congrArg (List.drop _) hsplit).symm.trans List.drop_left
  rw [findIdx_eq_length_takeWhile]
  constructor
  · have hslice := slice?_of_drop_eq (Nat.zero_le xs.length) hsplit.symm
    rwa [Nat.zero_add] at hslice
  · have hslice := slice?_of_drop_eq (by omega) hdrop
    rwa [hlength] at hslice

def remove? (xs : List α) (index : Nat) : Option (List α) :=
  if index < xs.length then some (xs.eraseIdx index) else none

@[simp] theorem remove?_cons_zero (x : α) (xs : List α) : remove? (x :: xs) 0 = some xs := by
  simp [remove?]

theorem length_remove? {xs rest : List α} {index : Nat} (h : remove? xs index = some rest) :
    rest.length < xs.length := by
  unfold remove? at h
  split at h
  · next hindex =>
      obtain rfl := Option.some.inj h
      rw [List.length_eraseIdx_of_lt hindex]
      omega
  · cases h

end Indices

/-! ## Byte offsets -/

/-- The number of bytes that encode a text. -/
def byteLength (s : List Char) : Nat := (Utf8.encode s).length

@[simp] theorem byteLength_nil : byteLength [] = 0 := rfl

@[simp] theorem byteLength_cons (c : Char) (s : List Char) :
    byteLength (c :: s) = c.utf8Size + byteLength s := by
  simp [byteLength, Utf8.encode]

@[simp] theorem byteLength_append (s t : List Char) :
    byteLength (s ++ t) = byteLength s + byteLength t := by
  simp [byteLength, Utf8.encode]

/-- What stands before and after a byte offset. -/
def splitBytes? : Nat → List Char → Option (List Char × List Char)
  | 0, s => some ([], s)
  | _ + 1, [] => none
  | offset + 1, c :: rest =>
      match sub? (offset + 1) c.utf8Size with
      | none => none
      | some left => (splitBytes? left rest).map fun (before, after) => (c :: before, after)

/-- A text may be split at the byte offset where its first part ends. -/
theorem splitBytes?_append (before after : List Char) :
    splitBytes? (byteLength before) (before ++ after) = some (before, after) := by
  induction before with
  | nil => rw [byteLength_nil, splitBytes?, List.nil_append]
  | cons c before ih =>
      obtain ⟨offset, hoffset⟩ := Nat.exists_eq_add_of_lt c.utf8Size_pos
      rw [byteLength_cons, List.cons_append,
        show c.utf8Size + byteLength before = offset + byteLength before + 1 by omega, splitBytes?,
        sub?_of_add_eq (k := byteLength before) (by omega)]
      simp only [ih, Option.map_some]

/-- The characters of a text from one byte offset up to another. -/
def sliceBytes? (s : List Char) (first last : Nat) : Option (List Char) := do
  let length ← sub? last first
  let (_, rest) ← splitBytes? first s
  let (middle, _) ← splitBytes? length rest
  return middle

/-- The byte offsets where the middle part begins and ends cut it out. -/
theorem sliceBytes?_append (before middle after : List Char) :
    sliceBytes? (before ++ (middle ++ after)) (byteLength before)
      (byteLength before + byteLength middle) = some middle := by
  simp [sliceBytes?, sub?_of_add_eq (Nat.add_comm _ _), splitBytes?_append]

/-- The byte offset of the first character that passes a test, or of the end. -/
def findByte (test : Char → Bool) : List Char → Nat
  | [] => 0
  | c :: rest => if test c then 0 else c.utf8Size + findByte test rest

/-- The byte offset of the first hit is the byte length of what comes before it. -/
theorem findByte_eq (test : Char → Bool) (s : List Char) :
    findByte test s = byteLength (s.takeWhile (!test ·)) := by
  induction s with
  | nil => rfl
  | cons c s ih => cases h : test c <;> simp [findByte, h, ih]

/-- Splitting at the first character that passes a test. -/
theorem splitBytes?_findByte (test : Char → Bool) (s : List Char) :
    splitBytes? (findByte test s) s = some (s.takeWhile (!test ·), s.dropWhile (!test ·)) := by
  have hsplit := splitBytes?_append (s.takeWhile (!test ·)) (s.dropWhile (!test ·))
  rw [List.takeWhile_append_dropWhile] at hsplit
  rw [findByte_eq, hsplit]

end DocSentences.Text
