import DocSentences.Declaration.Token

/-!
# Cutting a source text into tokens

Each step reads at least one character, so cutting a text up comes to an end. A token that is cut
off ends the sequence; what was read before it still counts.
-/

namespace DocSentences.Declaration

theorem length_skipBlank (s : List Char) (line : Nat) :
    (skipBlank s line).rest.length ≤ s.length := by
  fun_induction skipBlank s line with
  | case1 => simp
  | case2 c rest line _ ih => simp only [List.length_cons]; omega
  | case3 => simp

theorem length_closeComment {s content : List Char} {line : Nat} {after : Cursor}
    (h : closeComment s line = .ok (content, after)) : after.rest.length < s.length := by
  fun_induction closeComment s line generalizing content with
  | case1 => simp at h
  | case2 rest line =>
      simp only [Except.ok.injEq, Prod.mk.injEq] at h
      obtain ⟨-, rfl⟩ := h
      simp only [List.length_cons]; omega
  | case3 c rest line _ more next hnext ih =>
      obtain ⟨rfl, rfl⟩ := by simpa using h
      have := ih hnext
      simp only [List.length_cons]; omega
  | case4 => simp at h

theorem length_closeQuote {quote : Char} {s : List Char} {line : Nat} {u : Unit} {after : Cursor}
    (h : closeQuote quote s line = .ok (u, after)) : after.rest.length < s.length := by
  fun_induction closeQuote quote s line with
  | case1 => simp at h
  | case2 => simp at h
  | case3 c rest line ih =>
      have := ih h
      simp only [List.length_cons]; omega
  | case4 rest line =>
      simp only [Except.ok.injEq, Prod.mk.injEq, true_and] at h
      subst h
      exact Nat.lt_succ_self _
  | case5 => simp at h
  | case6 c rest line _ _ _ _ ih =>
      have := ih h
      simp only [List.length_cons]; omega

theorem length_closeTextBlock {s : List Char} {line : Nat} {u : Unit} {after : Cursor}
    (h : closeTextBlock s line = .ok (u, after)) : after.rest.length < s.length := by
  fun_induction closeTextBlock s line with
  | case1 => simp at h
  | case2 => simp at h
  | case3 c rest line ih =>
      have := ih h
      simp only [List.length_cons]; omega
  | case4 rest line =>
      simp only [Except.ok.injEq, Prod.mk.injEq, true_and] at h
      subst h
      simp only [List.length_cons]; omega
  | case5 c rest line _ _ _ ih =>
      have := ih h
      simp only [List.length_cons]; omega

theorem length_dropWhile_le (p : Char → Bool) (s : List Char) :
    (s.dropWhile p).length ≤ s.length :=
  (List.dropWhile_suffix p).length_le

theorem lexed_eq_ok {α : Type} {kind : Unterminated} {f : α → Token} {closed : Closed α}
    {token : Token} {after : Cursor} (h : closed.lexed kind f = .ok (token, after)) :
    ∃ content, closed = .ok (content, after) := by
  cases closed with
  | error => simp [Closed.lexed] at h
  | ok found =>
      obtain ⟨content, cursor⟩ := found
      simp only [Closed.lexed, Except.ok.injEq, Prod.mk.injEq] at h
      exact ⟨content, by rw [h.2]⟩

theorem length_lexFrom {c : Char} {rest : List Char} {line : Nat} {token : Token} {after : Cursor}
    (h : lexFrom c rest line = .ok (token, after)) : after.rest.length ≤ rest.length := by
  unfold lexFrom at h
  split at h
  case h_1 =>
    simp only [Except.ok.injEq, Prod.mk.injEq] at h
    obtain ⟨-, rfl⟩ := h
    exact length_dropWhile_le _ _
  case h_2 =>
    simp only [Except.ok.injEq, Prod.mk.injEq] at h
    obtain ⟨-, rfl⟩ := h
    simp only [List.length_cons]; omega
  case h_3 =>
    obtain ⟨content, hc⟩ := lexed_eq_ok h
    have := length_closeComment hc
    simp only [List.length_cons]; omega
  case h_4 =>
    obtain ⟨content, hc⟩ := lexed_eq_ok h
    have := length_closeComment hc
    simp only [List.length_cons]; omega
  case h_5 =>
    obtain ⟨content, hc⟩ := lexed_eq_ok h
    have := length_closeTextBlock hc
    simp only [List.length_cons]; omega
  case h_6 =>
    obtain ⟨content, hc⟩ := lexed_eq_ok h
    have := length_closeQuote hc
    omega
  case h_7 =>
    obtain ⟨content, hc⟩ := lexed_eq_ok h
    have := length_closeQuote hc
    omega
  case h_14 =>
    split at h <;> simp only [Except.ok.injEq, Prod.mk.injEq] at h <;> obtain ⟨-, rfl⟩ := h
    · exact length_dropWhile_le _ _
    · exact Nat.le_refl _
  all_goals
    simp only [Except.ok.injEq, Prod.mk.injEq] at h
    obtain ⟨-, rfl⟩ := h
    exact Nat.le_refl _

/-- The tokens of a text whose first line has the given number. -/
def tokensFrom (s : List Char) (line : Nat) : Tokens :=
  match _h : skipBlank s line with
  | ⟨[], last⟩ => ⟨[], .complete last⟩
  | ⟨c :: rest, current⟩ =>
      match _h : lexFrom c rest current with
      | .error (kind, cursor) => ⟨[], .cutOff kind cursor.line⟩
      | .ok (token, after) =>
          let more := tokensFrom after.rest after.line
          ⟨token :: more.tokens, more.ending⟩
termination_by s.length
decreasing_by
  have hskip := length_skipBlank s line
  have := length_lexFrom ‹lexFrom c rest current = _›
  rw [‹skipBlank s line = _›] at hskip
  simp only [List.length_cons] at hskip
  omega

/-- The tokens of a source text. -/
def tokens (source : List Char) : Tokens :=
  tokensFrom source 1

end DocSentences.Declaration
