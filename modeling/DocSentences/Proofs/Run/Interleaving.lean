/-!
# Interleavings

Rows written by several documents at the same time end up in one list. Each document's rows keep
their order there, and nothing is added or lost.
-/

namespace DocSentences

variable {α : Type}

/-- The first list holds the elements of the others, those of each in their order. It is read from
the end: the last element comes from the end of one of the others. -/
inductive IsInterleaving : List α → List (List α) → Prop
  | empty (n : Nat) : IsInterleaving [] (List.replicate n [])
  | snoc {whole : List α} {before after : List (List α)} {part : List α} (x : α) :
      IsInterleaving whole (before ++ part :: after) →
      IsInterleaving (whole ++ [x]) (before ++ (part ++ [x]) :: after)

namespace IsInterleaving

/-- One more list, from which nothing has been taken yet. -/
theorem append_nil {whole : List α} {parts : List (List α)} (h : IsInterleaving whole parts) :
    IsInterleaving whole (parts ++ [[]]) := by
  induction h with
  | empty n =>
      have hone : List.replicate n ([] : List α) ++ [[]] = List.replicate (n + 1) [] := by
        rw [List.replicate_succ']
      rw [hone]
      exact .empty (n + 1)
  | snoc x _ ih =>
      rw [List.append_assoc, List.cons_append] at ih ⊢
      exact .snoc x ih

/-- Nothing is added and nothing is lost. -/
theorem perm_flatten {whole : List α} {parts : List (List α)} (h : IsInterleaving whole parts) :
    whole.Perm parts.flatten := by
  induction h with
  | empty n => rw [List.flatten_replicate_nil]
  | @snoc whole before after part x _ ih =>
      have hmove : (whole ++ [x]).Perm ((before ++ part :: after).flatten ++ [x]) :=
        ih.append_right [x]
      simp only [List.flatten_append, List.flatten_cons, List.append_assoc] at hmove ⊢
      refine hmove.trans (List.Perm.append_left _ (List.Perm.append_left _ ?_))
      exact List.perm_append_comm

end IsInterleaving

end DocSentences
