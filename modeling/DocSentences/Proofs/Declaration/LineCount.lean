import DocSentences.Proofs.Declaration.Strides

/-!
# The line counter

At every moment of reading the line counter is one more than the number of line feeds read so far,
and so it is in the middle of a stride, since a line feed is only read by the end of one.
-/

namespace DocSentences.Declaration

/-- The counter says on which line the rest of a source text begins. -/
def Moment.Counts (source : List Char) (m : Moment) : Prop :=
  ∃ read, read ++ m.rest = source ∧ m.line = 1 + newlines read

/-- No stretch that is passed over in one go holds a newline. -/
theorem Stretch.ne_newline {stretch : Stretch} {c : Char} (h : stretch.goesOn c = true) :
    c ≠ '\n' := by
  rintro rfl
  cases stretch <;> exact absurd h (by decide)

/-- What a stride adds to the counter is the number of line feeds that it reads, and none of them
comes before its last character. -/
theorem Stride.exists_read {m n : Moment} (h : Stride m n) :
    ∃ read, m.rest = read ++ n.rest ∧ n.line = m.line + newlines read ∧ '\n' ∉ read.dropLast := by
  -- what each stride reads
  cases h with
  | blank => exact ⟨[_], rfl, by rw [← lineAfter_add_newlines]; rfl, by simp⟩
  | mark hmark =>
      refine ⟨[_], rfl, ?_, by simp⟩
      rw [newlines_cons_of_ne (fun hc => absurd (hc ▸ hmark) (by decide))]
      rfl
  | word hstart =>
      refine ⟨[_], rfl, ?_, by simp⟩
      rw [newlines_cons_of_ne (fun hc => absurd (hc ▸ hstart) (by decide))]
      rfl
  | lineComment => exact ⟨['/', '/'], rfl, rfl, by decide⟩
  | goesOn hc =>
      exact ⟨[_], rfl, by rw [newlines_cons_of_ne (Stretch.ne_newline hc)]; rfl, by simp⟩
  | stops => exact ⟨[], rfl, rfl, by simp⟩
  | opens kind => exact ⟨kind.opening, rfl, by cases kind <;> rfl, by cases kind <;> decide⟩
  | @escaped _ c _ line =>
      refine ⟨['\\', c], rfl, ?_, by simp⟩
      rw [newlines_cons_of_ne (by decide), ← lineAfter_add_newlines]
      rfl
  | plain => exact ⟨[_], rfl, by rw [← lineAfter_add_newlines]; rfl, by simp⟩
  | closes kind => exact ⟨kind.closing, rfl, by cases kind <;> rfl, by cases kind <;> decide⟩
  | newline => exact ⟨['\n'], rfl, rfl, by simp⟩
  | @ends kind rest line hrest =>
      refine ⟨rest, by simp, ?_⟩
      rcases hrest with rfl | ⟨-, rfl⟩ <;> exact ⟨rfl, by decide⟩

/-- A stride keeps the line counter in step with the newlines that were read. -/
theorem Moment.Counts.stride {source : List Char} {m n : Moment} (h : m.Counts source)
    (hstride : Stride m n) : n.Counts source := by
  obtain ⟨before, hsource, hline⟩ := h
  obtain ⟨read, hrest, hnext, -⟩ := hstride.exists_read
  refine ⟨before ++ read, ?_, ?_⟩
  · rw [List.append_assoc, ← hrest, hsource]
  · rw [hnext, hline, newlines_append, Nat.add_assoc]

/-- The counter is right at every moment of reading. -/
theorem Reaches.counts {source : List Char} {m : Moment} (h : Reaches source m) :
    m.Counts source := by
  induction h with
  | refl => exact ⟨[], rfl, rfl⟩
  | tail _ hstride ih => exact ih.stride hstride

/-- The counter stays right while a stride is made, until its last character is read. -/
theorem Reaches.line_eq {source : List Char} {m n : Moment} (h : Reaches source m)
    (hstride : Stride m n) {read rest : List Char} (hsource : read ++ rest = source)
    (hbegun : rest.length ≤ m.rest.length) (hunfinished : n.rest.length < rest.length) :
    m.line = 1 + newlines read := by
  obtain ⟨before, hbefore, hline⟩ := h.counts
  obtain ⟨stretch, hstretch, -, hlast⟩ := hstride.exists_read
  obtain ⟨part, hpart⟩ : rest <:+ m.rest :=
    List.suffix_of_suffix_length_le ⟨read, hsource⟩ ⟨before, hbefore⟩ hbegun
  have hsame : read ++ rest = before ++ part ++ rest := by
    rw [hsource, List.append_assoc, hpart, hbefore]
  have hread : read = before ++ part := List.append_cancel_right hsame
  have hlength : part.length ≤ stretch.dropLast.length := by
    have hlengths := congrArg List.length (hpart.trans hstretch)
    simp only [List.length_append] at hlengths
    rw [List.length_dropLast]
    omega
  have hfront : part <+: stretch.dropLast :=
    List.prefix_of_prefix_length_le ⟨rest, hpart⟩
      ((List.dropLast_prefix stretch).trans ⟨n.rest, hstretch.symm⟩) hlength
  have hnone : newlines part = 0 := newlines_eq_zero fun hmem => hlast (hfront.subset hmem)
  rw [hline, hread, newlines_append, hnone, Nat.add_zero]

/-- The line counter is one more than the number of line feeds read so far, from the beginning of a
source text to the end of reading: at each moment, and while the next stride is made. It is with this
counter that the tokens from the moment on are read. -/
structure CountsLines (source : List Char) : Prop where
  counts : ∀ m, Reaches source m → m.Counts source
  within : ∀ m n read rest, Reaches source m → Stride m n → read ++ rest = source →
    rest.length ≤ m.rest.length → n.rest.length < rest.length → m.line = 1 + newlines read
  resumes : ∀ m, Reaches source m → m.ending = (tokens source).ending
  ends : ∃ last, Reaches source last ∧ last.EndsWith (tokens source).ending

theorem countsLines (source : List Char) : CountsLines source where
  counts _ h := h.counts
  within _ _ _ _ h hstride hsource hbegun hunfinished :=
    h.line_eq hstride hsource hbegun hunfinished
  resumes _ h := h.ending_eq
  ends := exists_reaches_endsWith source

end DocSentences.Declaration
