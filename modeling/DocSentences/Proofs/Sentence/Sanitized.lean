import DocSentences.Proofs.Text.Blank
import DocSentences.Proofs.Text.Utf8
import DocSentences.Record.Csv
import DocSentences.Sentence.Sanitized

/-!
# What is left of a sentence

A sentence is written as its letters, digits and plain spaces without the spaces at its ends.
Nothing else of the sentence is left, all of its letters and digits are, and the rest can stand in a
row without quotes. A sentence of which fewer than two characters are left is not written at all.
-/

namespace DocSentences.Sentence

open Text

/-- A text that can be written for a sentence. -/
structure IsWritten (s written : List Char) : Prop where
  kept : ∀ c ∈ written, isAlphanumeric c = true ∨ c = ' '
  first : written.head? ≠ some ' '
  last : written.getLast? ≠ some ' '
  two_le : 2 ≤ written.length
  sublist : written.Sublist s
  alphanumeric : written.filter isAlphanumeric = s.filter isAlphanumeric
  fixed : trim (sanitize written) = written
  unquoted : Csv.encodeField (Utf8.encode written) = Utf8.encode written

theorem isKept_iff (c : Char) : isKept c = true ↔ isAlphanumeric c = true ∨ c = ' ' := by
  simp [isKept]

theorem isKept_of_mem_sanitize {s : List Char} {c : Char} (h : c ∈ sanitize s) :
    isKept c = true :=
  (List.mem_filter.mp h).2

/-- Sanitizing only leaves out characters. -/
theorem sanitize_sublist (s : List Char) : (sanitize s).Sublist s := List.filter_sublist

/-- Sanitizing keeps all letters and digits, in order. -/
theorem filter_isAlphanumeric_sanitize (s : List Char) :
    (sanitize s).filter isAlphanumeric = s.filter isAlphanumeric := by
  rw [sanitize, List.filter_filter]
  apply List.filter_congr
  intro c _
  cases h : isAlphanumeric c with
  | false => rfl
  | true => simp [isKept, h]

/-! ## Rows without quotes -/

/-- Letters, digits and spaces are none of the characters for which a field is put between
quotes. -/
theorem not_special_of_isKept {c : Char} (h : isKept c = true) :
    c ≠ ',' ∧ c ≠ '"' ∧ c ≠ '\n' ∧ c ≠ '\r' := by
  refine ⟨?_, ?_, ?_, ?_⟩ <;> rintro rfl <;> exact absurd h (by decide +kernel)

/-- A field of characters that are kept is written as it is. -/
theorem encodeField_encode {s : List Char} (h : ∀ c ∈ s, isKept c = true) :
    Csv.encodeField (Utf8.encode s) = Utf8.encode s := by
  have hplain : Csv.needsQuotes (Utf8.encode s) = false := by
    unfold Csv.needsQuotes
    apply List.any_eq_false.mpr
    intro b hb hspecial
    obtain ⟨c, hc, hbyte⟩ := List.mem_flatMap.mp hb
    obtain ⟨hcomma, hquote, hfeed, hreturn⟩ := not_special_of_isKept (h c hc)
    simp only [Bool.or_eq_true, beq_iff_eq] at hspecial
    rcases hspecial with ((rfl | rfl) | rfl) | rfl
    · exact hcomma (Char.toNat_inj.mp (Utf8.toNat_of_mem_utf8EncodeChar hbyte (by decide)))
    · exact hquote (Char.toNat_inj.mp (Utf8.toNat_of_mem_utf8EncodeChar hbyte (by decide)))
    · exact hfeed (Char.toNat_inj.mp (Utf8.toNat_of_mem_utf8EncodeChar hbyte (by decide)))
    · exact hreturn (Char.toNat_inj.mp (Utf8.toNat_of_mem_utf8EncodeChar hbyte (by decide)))
  rw [Csv.encodeField, hplain, if_neg Bool.false_ne_true]

/-! ## The text that is written -/

theorem mem_trim_sanitize {s : List Char} {c : Char} (h : c ∈ trim (sanitize s)) :
    isKept c = true :=
  isKept_of_mem_sanitize ((isInfix_trim _).subset h)

/-- What is written of a sentence stays the same when it is sanitized once more. -/
theorem trim_sanitize_trim_sanitize (s : List Char) :
    trim (sanitize (trim (sanitize s))) = trim (sanitize s) := by
  have hkept : sanitize (trim (sanitize s)) = trim (sanitize s) :=
    List.filter_eq_self.mpr fun c => mem_trim_sanitize
  rw [hkept, trim_trim]

/-- What is left of a sentence is written if it has at least two characters. -/
theorem isWritten_trim_sanitize {s : List Char} (h : 2 ≤ (trim (sanitize s)).length) :
    IsWritten s (trim (sanitize s)) where
  kept c hc := (isKept_iff c).mp (mem_trim_sanitize hc)
  first hspace := absurd (not_isBlank_of_head?_trim hspace) (by decide)
  last hspace := absurd (not_isBlank_of_getLast?_trim hspace) (by decide)
  two_le := h
  sublist := (isInfix_trim _).sublist.trans (sanitize_sublist s)
  alphanumeric := by
    rw [filter_trim fun c => isAlphanumeric_of_isBlank, filter_isAlphanumeric_sanitize]
  fixed := trim_sanitize_trim_sanitize s
  unquoted := encodeField_encode fun c => mem_trim_sanitize

/-- A trimmed sentence can be emitted exactly if it has at least two characters. -/
theorem isEmittable_trim (s : List Char) : isEmittable (trim s) = decide (2 ≤ (trim s).length) := by
  rw [isEmittable, trim_trim]

end DocSentences.Sentence
