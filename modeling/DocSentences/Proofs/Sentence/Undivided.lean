import DocSentences.Sentence.Segmenter

/-!
# Undivided texts

Only a stop, and what ends a paragraph, can lead to a boundary further on. A text without them is
one sentence.
-/

namespace DocSentences.Sentence

/-- Whether a part neither is a stop nor ends a paragraph. -/
def Part.isQuiet : Part → Bool
  | .start | .cased | .closing | .spaces | .other => true
  | .carriageReturn | .lineFeed | .separator | .ambiguousStop | .stop => false

theorem BreakClass.part_ne_start (cls : BreakClass) : cls.part ≠ .start := by
  cases cls <;> decide

namespace Window

/-- Only quiet parts have been read. -/
def IsQuiet (w : Window) : Prop := ∀ part ∈ w.parts, part.isQuiet = true

theorem isQuiet_start : start.IsQuiet := by
  simp [IsQuiet, parts, start, Part.isQuiet]

theorem IsQuiet.push {w : Window} (h : w.IsQuiet) {cls : BreakClass}
    (hcls : cls.part.isQuiet = true) : (w.push cls).IsQuiet := by
  unfold Window.push
  split
  · exact h
  · intro part hpart
    rcases List.mem_cons.mp hpart with rfl | hold
    · exact hcls
    · exact h part ((List.take_prefix 3 w.parts).subset hold)

theorem mem_of_mem_dropPart {kind part : Part} {parts : List Part}
    (h : part ∈ dropPart kind parts) : part ∈ parts := by
  unfold dropPart at h
  split at h
  · split at h
    · exact List.mem_cons_of_mem _ h
    · exact h
  · exact h

/-- Among quiet parts there is no stop. -/
theorem headIsStop_of_isQuiet {parts : List Part} (h : ∀ part ∈ parts, part.isQuiet = true) :
    headIsStop parts = false := by
  cases parts with
  | nil => rfl
  | cons part rest =>
      have hquiet := h part List.mem_cons_self
      cases part <;> first | rfl | cases hquiet

/-- A quiet window ends no paragraph. -/
theorem IsQuiet.endsParagraph {w : Window} (h : w.IsQuiet) : w.endsParagraph = false := by
  have hquiet := h w.last List.mem_cons_self
  unfold Window.endsParagraph
  cases hlast : w.last <;> first | rfl | (rw [hlast] at hquiet; cases hquiet)

/-- A quiet window ends no sentence. -/
theorem IsQuiet.afterSentence {w : Window} (h : w.IsQuiet) : w.afterSentence = false := by
  unfold Window.afterSentence
  rw [h.endsParagraph]
  refine headIsStop_of_isQuiet fun part hpart => h part ?_
  exact mem_of_mem_dropPart (mem_of_mem_dropPart hpart)

theorem last_push_ne_start {w : Window} (h : w.last ≠ .start) (cls : BreakClass) :
    (w.push cls).last ≠ .start := by
  unfold Window.push
  split
  · exact h
  · exact cls.part_ne_start

end Window

/-- After a quiet window a sentence goes on, whatever comes. -/
theorem verdict_ne_boundary {w : Window} (h : w.IsQuiet) (hlast : w.last ≠ .start)
    (cls : BreakClass) (ahead : List Char) : verdict w cls ahead ≠ .boundary := by
  intro hboundary
  unfold verdict at hboundary
  -- the three branches with a boundary go first
  rw [if_neg hlast] at hboundary
  simp only [h.endsParagraph, h.afterSentence, Bool.false_eq_true, if_false] at hboundary
  repeat' split at hboundary
  all_goals cases hboundary

/-- Quiet characters are not cut after a quiet window. -/
theorem cut_eq_singleton {w : Window} (h : w.IsQuiet) (hlast : w.last ≠ .start) {s : List Char}
    (hs : ∀ c ∈ s, (BreakClass.ofChar c).part.isQuiet = true) : cut w s = [s] := by
  induction s generalizing w with
  | nil => rfl
  | cons c s ih =>
      have hinside := verdict_ne_boundary h hlast (BreakClass.ofChar c) (c :: s)
      have hrest : ∀ d ∈ s, (BreakClass.ofChar d).part.isQuiet = true :=
        fun d hd => hs d (List.mem_cons_of_mem c hd)
      have hpush := h.push (hs c List.mem_cons_self)
      have hnext : cut (if verdict w (BreakClass.ofChar c) (c :: s) = .attached then w
          else w.push (BreakClass.ofChar c)) s = [s] := by
        split
        · exact ih h hlast hrest
        · exact ih hpush (Window.last_push_ne_start hlast _) hrest
      unfold cut
      dsimp only
      rw [hnext]
      split <;> simp_all

/-- A text without stops and ends of paragraphs is one sentence. -/
theorem split_eq_singleton {s : List Char} (hne : s ≠ [])
    (hs : ∀ c ∈ s, (BreakClass.ofChar c).part.isQuiet = true) : split s = [s] := by
  obtain ⟨c, s, rfl⟩ := List.exists_cons_of_ne_nil hne
  have hrest : cut (Window.start.push (BreakClass.ofChar c)) s = [s] := by
    have hpush : Window.start.push (BreakClass.ofChar c) =
        ⟨(BreakClass.ofChar c).part, .start, .start, .start⟩ := by
      simp [Window.push, Window.start]
    have hquiet := Window.isQuiet_start.push (hs c List.mem_cons_self)
    rw [hpush] at hquiet ⊢
    exact cut_eq_singleton hquiet (BreakClass.part_ne_start _)
      fun d hd => hs d (List.mem_cons_of_mem c hd)
  have hverdict : verdict .start (BreakClass.ofChar c) (c :: s) = .boundary := rfl
  simp [split, cut, hverdict, hrest]

end DocSentences.Sentence
