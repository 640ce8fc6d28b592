import DocSentences.Proofs.Text.Lines

/-!
# Two spellings of line ends

A text may have a carriage return before each of its line feeds. Its lines are the same either way,
and nothing else about it changes.
-/

namespace DocSentences.Text

/-- A text with a carriage return and a line feed in the place of each line feed. -/
def withReturns (s : List Char) : List Char :=
  s.flatMap fun c => if c = '\n' then ['\r', '\n'] else [c]

@[simp] theorem withReturns_nil : withReturns [] = [] := rfl

@[simp] theorem withReturns_newline (s : List Char) :
    withReturns ('\n' :: s) = '\r' :: '\n' :: withReturns s :=
  rfl

theorem withReturns_cons {c : Char} (hc : c ≠ '\n') (s : List Char) :
    withReturns (c :: s) = c :: withReturns s := by
  rw [withReturns, List.flatMap_cons, if_neg hc]
  rfl

/-- A character that is no part of a line end begins a text with returns only if it began the text
without them. -/
theorem exists_of_withReturns_eq_cons {c : Char} (hc : c ≠ '\r') {s t : List Char}
    (h : withReturns s = c :: t) : ∃ rest, s = c :: rest ∧ t = withReturns rest := by
  cases s with
  | nil => cases h
  | cons d rest =>
      by_cases hd : d = '\n'
      · subst hd
        exact absurd (List.cons.inj h).1.symm hc
      · rw [withReturns_cons hd] at h
        obtain ⟨rfl, rfl⟩ := List.cons.inj h
        exact ⟨rest, rfl, rfl⟩

theorem exists_of_withReturns_eq_cons_cons {c d : Char} (hc : c ≠ '\r') (hd : d ≠ '\r')
    {s t : List Char} (h : withReturns s = c :: d :: t) : ∃ rest, s = c :: d :: rest := by
  obtain ⟨more, rfl, hmore⟩ := exists_of_withReturns_eq_cons hc h
  obtain ⟨rest, rfl, -⟩ := exists_of_withReturns_eq_cons hd hmore.symm
  exact ⟨rest, rfl⟩

section Stretches

variable {p : Char → Bool} (hreturn : p '\r' = false) (hnewline : p '\n' = false)

include hreturn hnewline

/-- A test that a return and a newline both fail stops at the same place with either line end. -/
theorem takeWhile_withReturns (s : List Char) : (withReturns s).takeWhile p = s.takeWhile p := by
  induction s with
  | nil => rfl
  | cons c s ih =>
      by_cases hc : c = '\n'
      · subst hc
        simp [hreturn, hnewline]
      · rw [withReturns_cons hc, List.takeWhile_cons, List.takeWhile_cons, ih]

/-- What is left after a run of such characters has its line ends changed in the same way. -/
theorem dropWhile_withReturns (s : List Char) :
    (withReturns s).dropWhile p = withReturns (s.dropWhile p) := by
  induction s with
  | nil => rfl
  | cons c s ih =>
      by_cases hc : c = '\n'
      · subst hc
        simp [hreturn, hnewline]
      · rw [withReturns_cons hc, List.dropWhile_cons, List.dropWhile_cons, ih]
        split
        · rfl
        · rw [withReturns_cons hc]

end Stretches

/-- The carriage return of a line end belongs to what stands before the line feed. -/
theorem withReturns_dropWhile_newline (s : List Char) :
    withReturns (s.dropWhile (· != '\n')) = (withReturns s).dropWhile (· != '\n') ∨
      withReturns (s.dropWhile (· != '\n')) = '\r' :: (withReturns s).dropWhile (· != '\n') := by
  induction s with
  | nil => exact .inl rfl
  | cons c s ih =>
      by_cases hc : c = '\n'
      · subst hc
        exact .inr rfl
      · simpa [withReturns_cons hc, hc] using ih

/-- A text without carriage returns has the same lines with them. -/
theorem lines_withReturns {s : List Char} (h : '\r' ∉ s) : lines (withReturns s) = lines s := by
  induction s with
  | nil => rfl
  | cons c s ih =>
      have hmore := ih (List.not_mem_of_not_mem_cons h)
      by_cases hc : c = '\n'
      · subst hc
        exact congrArg ([] :: ·) hmore
      · have hreturn : c ≠ '\r' := fun heq => h (heq ▸ List.mem_cons_self)
        rw [withReturns_cons hc, lines, lines, hmore]
        all_goals intro rest; simp_all

end DocSentences.Text
