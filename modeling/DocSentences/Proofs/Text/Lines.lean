import DocSentences.Proofs.Text.Blank
import DocSentences.Text.Lines

/-!
# Texts written line by line

Lines that are written with a line feed after each are read back, except that a carriage return
before the line feed is taken for a part of it. Two characters that are no line feeds stand side by
side only within a line.
-/

namespace DocSentences.Text

/-! ## Reading lines back -/

/-- A line without a carriage return at its end. -/
def withoutReturn : List Char → List Char
  | [] => []
  | ['\r'] => []
  | c :: rest => c :: withoutReturn rest

theorem withoutReturn_cons {c : Char} (h : c ≠ '\r') (rest : List Char) :
    withoutReturn (c :: rest) = c :: withoutReturn rest := by
  rw [withoutReturn]
  exact fun hc _ => h hc

/-- A line is left as it is, or loses one return at its end. -/
theorem eq_withoutReturn (line : List Char) :
    line = withoutReturn line ∨ line = withoutReturn line ++ ['\r'] := by
  fun_induction withoutReturn line with
  | case1 => exact .inl rfl
  | case2 => exact .inr rfl
  | case3 c rest _ ih => exact ih.imp (congrArg (c :: ·)) (congrArg (c :: ·))

theorem isPrefix_withoutReturn (line : List Char) : withoutReturn line <+: line := by
  rcases eq_withoutReturn line with h | h
  · exact ⟨[], by rw [List.append_nil, ← h]⟩
  · exact ⟨['\r'], h.symm⟩

@[simp] theorem words_withoutReturn (line : List Char) :
    words (withoutReturn line) = words line := by
  rcases eq_withoutReturn line with h | h
  · rw [← h]
  · have hblank : ∀ c ∈ ['\r'], isBlank c = true := List.forall_mem_singleton.mpr rfl
    rw [← words_append_of_blank_right (withoutReturn line) hblank, ← h]

theorem withoutReturn_append_cons (line : List Char) (c : Char) (rest : List Char) :
    withoutReturn (line ++ c :: rest) = line ++ withoutReturn (c :: rest) := by
  induction line with
  | nil => rfl
  | cons d line ih =>
      rw [List.cons_append, withoutReturn, ih]
      · rfl
      · cases line <;> simp

theorem withoutReturn_of_trim_eq {s : List Char} (h : trim s = s) : withoutReturn s = s := by
  rcases eq_withoutReturn s with hs | hs
  · exact hs.symm
  · have hlast : (trim s).getLast? = some '\r' := by rw [h, hs, List.getLast?_concat]
    exact absurd (not_isBlank_of_getLast?_trim hlast) (by decide)

/-- A text that does not go on after its first line is that line. -/
theorem lines_eq_singleton {line : List Char} (hne : line ≠ []) (h : '\n' ∉ line) :
    lines line = [line] := by
  induction line with
  | nil => exact absurd rfl hne
  | cons c line ih =>
      have hline : '\n' ∉ line := List.not_mem_of_not_mem_cons h
      have hnext : ∀ rest, c = '\r' → line ≠ '\n' :: rest := by
        rintro rest - rfl
        exact hline List.mem_cons_self
      rw [lines]
      · cases line with
        | nil => rfl
        | cons d line => rw [ih (List.cons_ne_nil d line) hline]
      · rintro rfl
        exact h List.mem_cons_self
      · exact hnext

/-- A text up to a newline is one line, and what follows is read on its own. -/
theorem lines_append {line : List Char} (h : '\n' ∉ line) (rest : List Char) :
    lines (line ++ '\n' :: rest) = withoutReturn line :: lines rest := by
  fun_induction withoutReturn line with
  | case1 => rfl
  | case2 => rfl
  | case3 c line hreturn ih =>
      have hc : c ≠ '\n' := fun hc => h (hc ▸ List.mem_cons_self)
      have hline : '\n' ∉ line := List.not_mem_of_not_mem_cons h
      -- a carriage return is a part of the line unless the line feed is next
      have hnext : c = '\r' → ∀ more, line ++ '\n' :: rest ≠ '\n' :: more := by
        rintro rfl more heq
        cases line with
        | nil => exact hreturn rfl rfl
        | cons d line => exact hline (by rw [(List.cons.inj heq).1]; exact List.mem_cons_self)
      rw [List.cons_append, lines, ih hline]
      · exact hc
      · exact fun more hc => hnext hc more

/-- Lines joined by newlines are read back one by one. -/
theorem lines_joinWith_cons {line : List Char} (h : '\n' ∉ line) (next : List Char)
    (rest : List (List Char)) :
    lines (joinWith ['\n'] (line :: next :: rest)) =
      withoutReturn line :: lines (joinWith ['\n'] (next :: rest)) := by
  rw [joinWith, List.append_assoc, List.singleton_append, lines_append h]

/-- Lines that each end in a newline are read back, whatever follows them. -/
theorem lines_flatMap {written : List (List Char)} (h : ∀ line ∈ written, '\n' ∉ line)
    (rest : List Char) :
    lines (written.flatMap (· ++ ['\n']) ++ rest) = written.map withoutReturn ++ lines rest := by
  induction written with
  | nil => rfl
  | cons line written ih =>
      have hmore := ih fun other hother => h other (List.mem_cons_of_mem line hother)
      rw [List.flatMap_cons, List.append_assoc, List.append_assoc, List.singleton_append,
        lines_append (h line List.mem_cons_self), hmore]
      rfl

/-! ## Characters side by side -/

section Pairs

variable {x y b : Char} (hx : b ≠ x) (hy : b ≠ y)

include hx hy

/-- Two characters that stand side by side in neither of two texts do not meet across a third one
between them. -/
theorem not_pair_infix_append_cons {s t : List Char} (hs : ¬ [x, y] <:+: s)
    (ht : ¬ [x, y] <:+: t) : ¬ [x, y] <:+: s ++ b :: t := by
  induction s with
  | nil =>
      rw [List.nil_append, List.infix_cons_iff]
      rintro (hpair | hpair)
      · exact hx (List.cons_prefix_cons.mp hpair).1.symm
      · exact ht hpair
  | cons c s ih =>
      rw [List.cons_append, List.infix_cons_iff]
      rintro (hpair | hpair)
      · obtain ⟨rfl, hnext⟩ := List.cons_prefix_cons.mp hpair
        cases s with
        | nil => exact hy (List.cons_prefix_cons.mp hnext).1.symm
        | cons d s =>
            obtain ⟨rfl, -⟩ := List.cons_prefix_cons.mp hnext
            exact hs (List.prefix_append [x, y] s).isInfix
      · exact ih (fun h => hs (List.infix_cons h)) hpair

/-- Lines that each end in one more character bring no two characters together. -/
theorem not_pair_infix_flatMap {written : List (List Char)}
    (h : ∀ line ∈ written, ¬ [x, y] <:+: line) {rest : List Char} (hrest : ¬ [x, y] <:+: rest) :
    ¬ [x, y] <:+: written.flatMap (· ++ [b]) ++ rest := by
  induction written with
  | nil => exact hrest
  | cons line written ih =>
      have hmore := ih fun other hother => h other (List.mem_cons_of_mem line hother)
      rw [List.flatMap_cons, List.append_assoc, List.append_assoc, List.singleton_append]
      exact not_pair_infix_append_cons hx hy (h line List.mem_cons_self) hmore

/-- Joining parts by one character brings no two characters together. -/
theorem not_pair_infix_joinWith {parts : List (List Char)}
    (h : ∀ part ∈ parts, ¬ [x, y] <:+: part) : ¬ [x, y] <:+: joinWith [b] parts := by
  fun_induction joinWith [b] parts with
  | case1 => simp
  | case2 part => exact h part List.mem_cons_self
  | case3 part next rest ih =>
      have hmore := ih fun other hother => h other (List.mem_cons_of_mem part hother)
      rw [List.append_assoc, List.singleton_append]
      exact not_pair_infix_append_cons hx hy (h part List.mem_cons_self) hmore

end Pairs

theorem mem_joinWith {separator : List Char} {parts : List (List Char)} {c : Char}
    (h : c ∈ joinWith separator parts) : c ∈ separator ∨ ∃ part ∈ parts, c ∈ part := by
  fun_induction joinWith separator parts with
  | case1 => cases h
  | case2 part => exact .inr ⟨part, List.mem_cons_self, h⟩
  | case3 part next rest ih =>
      rcases List.mem_append.mp h with hfirst | hmore
      · rcases List.mem_append.mp hfirst with hpart | hseparator
        · exact .inr ⟨part, List.mem_cons_self, hpart⟩
        · exact .inl hseparator
      · rcases ih hmore with hseparator | ⟨other, hother, hc⟩
        · exact .inl hseparator
        · exact .inr ⟨other, List.mem_cons_of_mem part hother, hc⟩

end DocSentences.Text
