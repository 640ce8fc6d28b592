import DocSentences.Proofs.FileTree.Resolution

/-!
# Components of a path

After its first component a path has only steps: to the directory around, or to an entry of a
directory. Slashes that are repeated or stand at the end, and a step that stays where it is, leave
no trace among the components.
-/

namespace DocSentences.Path

/-! ## Components as steps -/

/-- Whether a component is a step from one directory to another, or to a file. -/
def Component.IsStep : Component → Prop
  | .parent => True
  | .normal name => IsEntryName name
  | .root | .current => False

theorem Component.IsStep.bytes_ne_nil {c : Component} (h : c.IsStep) : c.bytes ≠ [] := by
  cases c with
  | normal name => exact IsStep.nonempty (IsEntryName.toIsStep h)
  | root | current | parent => simp [Component.bytes]

theorem Component.IsStep.slash_not_mem {c : Component} (h : c.IsStep) : slash ∉ c.bytes := by
  cases c with
  | parent => decide
  | normal name => exact IsStep.noSlash (IsEntryName.toIsStep h)
  | root | current => exact absurd h id

theorem slash_not_mem_of_mem_splitOnP {bytes piece : List UInt8}
    (h : piece ∈ bytes.splitOnP (· == slash)) : slash ∉ piece :=
  fun hslash => absurd (Text.mem_splitOnP h hslash).2 (by simp)

/-- A piece between slashes is a step, or the current directory at the front. -/
theorem isStep_of_ofPiece? {isFirst : Bool} {piece : List UInt8} {c : Component}
    (hpiece : slash ∉ piece) (h : Component.ofPiece? isFirst piece = some c) :
    c.IsStep ∨ isFirst = true ∧ c = .current := by
  unfold Component.ofPiece? at h
  split at h
  · cases h
  · next hne =>
    split at h
    · split at h
      next hfirst =>
        cases h
        exact .inr ⟨hfirst, rfl⟩
      next => cases h
    · next hcurrent =>
      split at h
      · cases h
        exact .inl trivial
      · next hparent =>
        cases h
        exact .inl ⟨⟨hne, hpiece⟩, hcurrent, hparent⟩

/-- The components of a path are steps, except that the first one may be where it starts. -/
theorem components_cases (path : Path) :
    (path.isAbsolute = true ∧ ∃ steps, path.components = .root :: steps ∧
      ∀ c ∈ steps, c.IsStep) ∨
    path.isAbsolute = false ∧ ∀ c ∈ path.components, c.IsStep ∨ c = .current := by
  obtain ⟨first, rest, hsplit⟩ :=
    List.exists_cons_of_ne_nil (List.splitOnP_ne_nil (· == slash) path.bytes)
  have hpieces : ∀ piece ∈ first :: rest, slash ∉ piece := fun piece hpiece =>
    slash_not_mem_of_mem_splitOnP (hsplit ▸ hpiece)
  have hrest : ∀ c ∈ rest.filterMap (Component.ofPiece? false), c.IsStep := by
    intro c hc
    obtain ⟨piece, hpiece, hc⟩ := List.mem_filterMap.mp hc
    have hstep := isStep_of_ofPiece? (hpieces piece (List.mem_cons_of_mem _ hpiece)) hc
    exact hstep.resolve_right fun h => Bool.false_ne_true h.1
  rw [components, hsplit]
  dsimp only
  cases path.isAbsolute with
  | true => exact .inl ⟨rfl, _, rfl, hrest⟩
  | false =>
      refine .inr ⟨rfl, List.forall_mem_append.mpr ⟨?_, fun c hc => .inl (hrest c hc)⟩⟩
      intro c hc
      have hstep := isStep_of_ofPiece? (hpieces first List.mem_cons_self) (Option.mem_toList.mp hc)
      exact hstep.imp_right And.right

/-- A component is the root, the current directory or a step. -/
theorem cases_of_mem_components {path : Path} {c : Component} (h : c ∈ path.components) :
    c = .root ∨ c = .current ∨ c.IsStep := by
  rcases path.components_cases with ⟨-, steps, hsteps, hstep⟩ | ⟨-, hstep⟩
  · rw [hsteps] at h
    exact (List.mem_cons.mp h).imp_right fun hmem => .inr (hstep c hmem)
  · exact .inr (hstep c h).symm

/-- The slash at the start of a path is its first component or none. -/
theorem root_mem_components_append_iff {path : Path} {front back : List Component}
    (h : path.components = front ++ back) :
    .root ∈ back ↔ front = [] ∧ path.isAbsolute = true := by
  rcases path.components_cases with ⟨habsolute, steps, hsteps, hstep⟩ | ⟨hrelative, hstep⟩
  · have hnot : .root ∉ steps := fun hmem => hstep .root hmem
    rw [hsteps] at h
    rcases List.cons_eq_append_iff.mp h with ⟨rfl, rfl⟩ | ⟨rest, rfl, rfl⟩
    · simp [habsolute]
    · exact iff_of_false (fun hmem => hnot (List.mem_append_right _ hmem)) (by simp)
  · have hnot : .root ∉ path.components := by
      intro hmem
      rcases hstep .root hmem with hroot | hroot
      · exact hroot
      · cases hroot
    rw [h] at hnot
    exact iff_of_false (fun hmem => hnot (List.mem_append_right _ hmem)) (by simp [hrelative])

/-- A normal component is a name that an entry of a directory can have. -/
theorem isEntryName_of_mem_components {path : Path} {name : List UInt8}
    (h : .normal name ∈ path.components) : IsEntryName name :=
  ((cases_of_mem_components h).resolve_left (by simp)).resolve_left (by simp)

theorem bytes_ne_nil_of_mem_components {path : Path} {c : Component} (h : c ∈ path.components) :
    c.bytes ≠ [] := by
  rcases cases_of_mem_components h with rfl | rfl | hstep
  · simp [Component.bytes]
  · simp [Component.bytes]
  · exact hstep.bytes_ne_nil

theorem eq_nil_of_ofPiece?_eq_none {piece : List UInt8}
    (h : Component.ofPiece? true piece = none) : piece = [] := by
  unfold Component.ofPiece? at h
  split at h
  · assumption
  · split at h
    · cases h
    · split at h <;> cases h

/-- Only the empty path has no components. -/
theorem components_eq_nil_iff (path : Path) : path.components = [] ↔ path = ⟨[]⟩ := by
  constructor
  · intro h
    obtain ⟨bytes⟩ := path
    cases bytes with
    | nil => rfl
    | cons b rest =>
        rw [components, List.splitOnP_cons_eq_if_modifyHead] at h
        obtain ⟨first, more, hsplit⟩ :=
          List.exists_cons_of_ne_nil (List.splitOnP_ne_nil (· == slash) rest)
        by_cases hslash : b = slash
        · simp [hslash, isAbsolute] at h
        · have hrelative : isAbsolute ⟨b :: rest⟩ = false := by simp [isAbsolute, hslash]
          rw [if_neg (by simpa using hslash), hsplit, hrelative] at h
          have hfirst : Component.ofPiece? true (b :: first) = none := by
            simpa using (List.append_eq_nil_iff.mp h).1
          exact absurd (eq_nil_of_ofPiece?_eq_none hfirst) (List.cons_ne_nil b first)
  · rintro rfl
    rfl

/-! ## Spellings -/

/-- A path and the same path with one more slash, or one more step that stays where it is. -/
inductive Respelled : Path → Path → Prop
  | slash (front back : List UInt8) :
      Respelled ⟨front ++ slash :: back⟩ ⟨front ++ slash :: slash :: back⟩
  | stay (front back : List UInt8) :
      Respelled ⟨front ++ slash :: back⟩ ⟨front ++ slash :: dot :: slash :: back⟩
  | trailing (front : List UInt8) (hne : front ≠ []) : Respelled ⟨front⟩ ⟨front ++ [slash]⟩

/-- What stands after a slash adds its own components, with no current directory among them. -/
theorem components_append_slash (front back : List UInt8) :
    components ⟨front ++ slash :: back⟩ = components ⟨front ++ [slash]⟩ ++
      (back.splitOnP (· == slash)).filterMap (Component.ofPiece? false) := by
  obtain ⟨first, rest, hsplit⟩ :=
    List.exists_cons_of_ne_nil (List.splitOnP_ne_nil (· == slash) front)
  have habsolute : isAbsolute ⟨front ++ slash :: back⟩ = isAbsolute ⟨front ++ [slash]⟩ := by
    cases front <;> rfl
  rw [components, components, habsolute, List.splitOnP_append_cons front back (by simp),
    List.splitOnP_append_cons front [] (by simp), hsplit]
  simp [Component.ofPiece?]

/-- A slash at the end adds no component. -/
theorem components_append_slash_nil {front : List UInt8} (hne : front ≠ []) :
    components ⟨front ++ [slash]⟩ = components ⟨front⟩ := by
  obtain ⟨first, rest, hsplit⟩ :=
    List.exists_cons_of_ne_nil (List.splitOnP_ne_nil (· == slash) front)
  have habsolute : isAbsolute ⟨front ++ [slash]⟩ = isAbsolute ⟨front⟩ := by
    rw [isAbsolute, isAbsolute, List.head?_append_of_ne_nil _ hne]
  rw [components, components, habsolute, List.splitOnP_append_cons front [] (by simp), hsplit]
  simp [Component.ofPiece?]

/-- A piece between slashes that stands for no component can be left out. -/
theorem components_idle (front piece back : List UInt8)
    (hslash : slash ∉ piece) (hpiece : Component.ofPiece? false piece = none) :
    components ⟨front ++ slash :: (piece ++ slash :: back)⟩ =
      components ⟨front ++ slash :: back⟩ := by
  have hplain : ∀ b ∈ piece, (b == slash) = false := by
    intro b hb
    simpa using fun heq : b = slash => hslash (heq ▸ hb)
  rw [components_append_slash, components_append_slash front back,
    List.splitOnP_append_cons_of_forall_mem hplain slash (by simp), List.filterMap_cons_none hpiece]

/-- Other spellings of a path have the same components. -/
theorem Respelled.components_eq {path other : Path} (h : Respelled path other) :
    path.components = other.components := by
  cases h with
  | slash front back => exact (components_idle front [] back (by simp) rfl).symm
  | stay front back => exact (components_idle front [dot] back (by decide) rfl).symm
  | trailing front hne => exact (components_append_slash_nil hne).symm

end DocSentences.Path
