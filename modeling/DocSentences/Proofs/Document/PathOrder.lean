import DocSentences.Document.Path

/-!
# The order of paths

Paths are compared component by component, and components by their kind and then by their bytes.
This is a total order up to spelling, so paths can be sorted.
-/

namespace DocSentences.Path

theorem compareBytes_eq : compareBytes = List.compareLex Ord.compare := by
  funext a b
  induction a generalizing b with
  | nil => cases b <;> rfl
  | cons x xs ih =>
      cases b with
      | nil => rfl
      | cons y ys => rw [compareBytes, List.compareLex_cons_cons, ih]

/-- The name of a component, if it has one. -/
def Component.name : Component → List UInt8
  | .normal name => name
  | .root | .current | .parent => []

/-- Components are compared by rank, and then by name. -/
theorem Component.compare_eq :
    Component.compare = compareLex (compareOn rank) (compareOn name) := by
  funext a b
  cases a <;> cases b
  case normal.normal x y => exact congrFun (congrFun compareBytes_eq x) y
  all_goals rfl

instance : Std.TransCmp Component.compare := by
  rw [Component.compare_eq]
  infer_instance

/-- Paths are compared in the lexicographic order of their components. -/
theorem compareComponents_eq : compareComponents = List.compareLex Component.compare := by
  funext a b
  induction a generalizing b with
  | nil => cases b <;> rfl
  | cons x xs ih =>
      cases b with
      | nil => rfl
      | cons y ys => rw [compareComponents, List.compareLex_cons_cons, ih]

instance : Std.TransCmp compareComponents := by
  rw [compareComponents_eq]
  infer_instance

instance : Std.LawfulEqCmp Component.compare where
  compare_self := Std.ReflCmp.compare_self
  eq_of_compare {a b} h := by
    cases a <;> cases b
    case normal.normal x y =>
      have hbytes : List.compareLex Ord.compare x y = .eq := compareBytes_eq ▸ h
      exact congrArg Component.normal (Std.LawfulEqCmp.eq_of_compare hbytes)
    all_goals first | rfl | cases h

instance : Std.LawfulEqCmp compareComponents := by
  rw [compareComponents_eq]
  infer_instance

theorem le_trans (a b c : Path) (hab : a.le b = true) (hbc : b.le c = true) : a.le c = true := by
  change (compareComponents _ _).isLE = true at hab hbc ⊢
  exact Std.TransCmp.isLE_trans hab hbc

theorem le_total (a b : Path) : (a.le b || b.le a) = true := by
  have hswap : compareComponents b.components a.components =
      (compareComponents a.components b.components).swap := Std.OrientedCmp.eq_swap
  unfold le compare
  rw [hswap]
  cases compareComponents a.components b.components <;> rfl

/-- Sorting puts paths in order. -/
theorem pairwise_sort (paths : List Path) : (paths.mergeSort le).Pairwise (le · · = true) :=
  List.pairwise_mergeSort le_trans le_total paths

/-- Paths in order are determined by which ones they are, up to spelling. -/
theorem map_components_eq_of_sorted {paths other : List Path} (h : paths.Perm other)
    (hpaths : paths.Pairwise (le · · = true)) (hother : other.Pairwise (le · · = true)) :
    paths.map components = other.map components := by
  have hantisymm : ∀ a b : List Component, (compareComponents a b).isLE = true →
      (compareComponents b a).isLE = true → a = b := fun a b hab hba =>
    Std.LawfulEqCmp.eq_of_compare (Std.OrientedCmp.isLE_antisymm hab hba)
  exact List.Perm.eq_of_pairwise (fun a b _ _ => hantisymm a b) (List.pairwise_map.mpr hpaths)
    (List.pairwise_map.mpr hother) (h.map components)

end DocSentences.Path
