import DocSentences.FileTree.Basic
import DocSentences.Proofs.Text.Collapse

/-!
# Where paths lead

A path leads to an entry down proper names only, so that the path of a place spells that place and
no other. Following a link at the end of a path makes no difference if there is none.
-/

namespace DocSentences

/-- A step that a path can ask for: a piece between slashes. -/
structure IsStep (step : List UInt8) : Prop where
  nonempty : step ≠ []
  noSlash : Path.slash ∉ step

/-- A step that is the name of an entry, and leads neither nowhere nor upwards. -/
structure IsEntryName (name : List UInt8) : Prop extends IsStep name where
  notCurrent : name ≠ [Path.dot]
  notParent : name ≠ [Path.dot, Path.dot]

/-- The names down to a place can be names of entries. -/
def Place.IsProper (place : Place) : Prop := ∀ name ∈ place, IsEntryName name

namespace FileTree

variable {t : FileTree} {follow : Bool} {path : Path} {place : Place} {entry : Entry}

/-! ## Proper places -/

theorem isStep_of_mem_steps {step : List UInt8} (h : step ∈ steps path) : IsStep step := by
  have hpiece : ∀ piece ∈ (path.bytes.splitOnP (· == Path.slash)).filter (!·.isEmpty),
      IsStep piece := by
    intro piece hpiece
    obtain ⟨hmem, hne⟩ := List.mem_filter.mp hpiece
    refine ⟨by simpa using hne, fun hslash => ?_⟩
    exact absurd (Text.mem_splitOnP hmem hslash) (by simp)
  unfold steps at h
  dsimp only at h
  split at h
  · rcases List.mem_append.mp h with hmem | hlast
    · exact hpiece step hmem
    · exact List.mem_singleton.mp hlast ▸ ⟨by decide, by decide⟩
  · exact hpiece step h

theorem isProper_startOf (hplace : place.IsProper) (path : Path) :
    (startOf place path).IsProper := by
  unfold startOf
  split
  · exact fun _ h => absurd h List.not_mem_nil
  · exact hplace

/-- A name that is no step back leads from a proper place to a proper one. -/
theorem isProper_concat {name : List UInt8} (hplace : place.IsProper) (hname : IsStep name)
    (hcurrent : name ≠ [Path.dot]) (hparent : name ≠ [Path.dot, Path.dot]) :
    Place.IsProper (place ++ [name]) := by
  intro other hother
  rcases List.mem_append.mp hother with hold | hnew
  · exact hplace other hold
  · exact List.mem_singleton.mp hnew ▸ ⟨hname, hcurrent, hparent⟩

/-- A walk from a proper place ends at a proper one. -/
theorem isProper_walk {links : Nat} {path : List (List UInt8)} {found : Place}
    (hplace : place.IsProper) (hsteps : ∀ step ∈ path, IsStep step)
    (h : t.walk follow links place path = .ok (.found found entry)) : found.IsProper := by
  fun_induction FileTree.walk t follow links place path
  case case1 => cases h; exact hplace
  -- a step that stays, and one upwards
  case case2 ih => exact ih hplace (List.forall_mem_cons.mp hsteps).2 h
  case case3 ih =>
    have hparent : Place.IsProper (List.dropLast _) :=
      fun name hname => hplace name (List.dropLast_subset _ hname)
    exact ih hparent (List.forall_mem_cons.mp hsteps).2 h
  -- a step into a directory
  case case8 hcurrent hparent _ _ _ ih =>
    obtain ⟨hname, hrest⟩ := List.forall_mem_cons.mp hsteps
    exact ih (isProper_concat hplace hname hcurrent hparent) hrest h
  -- a file, and a link that is not followed, at the end
  case case9 hcurrent hparent _ _ _ _ _ =>
    have hfound := (Target.found.inj (Except.ok.inj h)).1
    exact hfound ▸ isProper_concat hplace (hsteps _ List.mem_cons_self) hcurrent hparent
  case case11 hcurrent hparent _ _ _ _ _ =>
    have hfound := (Target.found.inj (Except.ok.inj h)).1
    exact hfound ▸ isProper_concat hplace (hsteps _ List.mem_cons_self) hcurrent hparent
  -- a link that is followed
  case case14 ih =>
    refine ih (isProper_startOf hplace _) ?_ h
    intro step hstep
    rcases List.mem_append.mp hstep with hlink | hrest
    · exact isStep_of_mem_steps hlink
    · exact (List.forall_mem_cons.mp hsteps).2 step hrest
  all_goals cases h

/-- From a proper working directory only proper places are found. -/
theorem isProper_find (hdirectory : t.workingDirectory.IsProper)
    (h : t.find follow path = .ok (place, entry)) : place.IsProper := by
  unfold find resolve at h
  split at h
  next found other hresolved =>
    cases h
    split at hresolved
    · cases hresolved
    · exact isProper_walk (isProper_startOf hdirectory path) (fun _ => isStep_of_mem_steps)
        hresolved
  all_goals cases h

/-! ## Paths of places -/

/-- Pieces that are written with a slash before each but the first are read back. -/
theorem splitOnP_append_flatMap {piece : List UInt8} {pieces : List (List UInt8)}
    (hpiece : Path.slash ∉ piece) (hpieces : ∀ piece ∈ pieces, Path.slash ∉ piece) :
    (piece ++ pieces.flatMap (Path.slash :: ·)).splitOnP (· == Path.slash) = piece :: pieces := by
  have hplain : ∀ {piece : List UInt8}, Path.slash ∉ piece →
      ∀ b ∈ piece, (b == Path.slash) = false := by
    intro piece hpiece b hb
    simpa using fun hslash : b = Path.slash => hpiece (hslash ▸ hb)
  induction pieces generalizing piece with
  | nil =>
      rw [List.flatMap_nil, List.append_nil]
      exact List.splitOnP_eq_singleton (hplain hpiece)
  | cons next rest ih =>
      obtain ⟨hnext, hrest⟩ := List.forall_mem_cons.mp hpieces
      have hcut := List.splitOnP_append_cons_of_forall_mem (hplain hpiece) Path.slash (by decide)
        (next ++ rest.flatMap (Path.slash :: ·))
      rw [ih hnext hrest] at hcut
      exact hcut

/-- The path of a proper place has its names as components. -/
theorem components_toPath (hplace : place.IsProper) :
    place.toPath.components = .root :: place.map .normal := by
  have hpieces : ∀ name ∈ place, Path.Component.ofPiece? false name = some (.normal name) := by
    intro name hname
    have hentry := hplace name hname
    simp [Path.Component.ofPiece?, hentry.nonempty, hentry.notCurrent, hentry.notParent]
  cases place with
  | nil => decide
  | cons name rest =>
      have hpath : Place.toPath (name :: rest) = ⟨(name :: rest).flatMap (Path.slash :: ·)⟩ := rfl
      have hempty : Path.slash ∉ ([] : List UInt8) := List.not_mem_nil
      have hbytes := splitOnP_append_flatMap hempty fun name hname => (hplace name hname).noSlash
      rw [List.nil_append] at hbytes
      have habsolute : Path.isAbsolute ⟨(name :: rest).flatMap (Path.slash :: ·)⟩ = true := rfl
      rw [hpath, Path.components, hbytes]
      dsimp only
      rw [if_pos habsolute, List.filterMap_congr hpieces]
      simp

/-- Proper places have different paths. -/
theorem toPath_inj {other : Place} (hplace : place.IsProper) (hother : other.IsProper)
    (h : place.toPath.components = other.toPath.components) : place = other := by
  rw [components_toPath hplace, components_toPath hother] at h
  exact List.map_injective_iff.mpr (fun _ _ => Path.Component.normal.inj) (List.cons.inj h).2

/-! ## Links at the end of a path -/

/-- What a step to a name does. -/
theorem walk_name {links : Nat} {name : List UInt8} {rest : List (List UInt8)}
    (hcurrent : name ≠ [Path.dot]) (hparent : name ≠ [Path.dot, Path.dot])
    (hshort : ¬ nameLimit < name.length) {next : Entry} :
    t.entry? (place ++ [name]) = some next → t.walk follow links place (name :: rest) =
      match next with
      | .directory => t.walk follow links (place ++ [name]) rest
      | .file content =>
          if rest.isEmpty then .ok (.found (place ++ [name]) (.file content))
          else .error .notADirectory
      | .link target =>
          if rest.isEmpty && !follow then .ok (.found (place ++ [name]) (.link target))
          else match links with
            | 0 => .error .tooManyLinks
            | left + 1 =>
                if target.bytes.isEmpty then .error .notFound
                else t.walk follow left (startOf place target) (steps target ++ rest) := by
  intro hnext
  rw [walk, if_neg hcurrent, if_neg hparent, if_neg hshort]
  dsimp only
  rw [hnext]
  cases next <;> rfl

/-- A walk that ends at no link ends there when links are followed as well. -/
theorem walk_true_of_false {links : Nat} {path : List (List UInt8)} {found : Place}
    (hentry : ∀ target, entry ≠ .link target)
    (h : t.walk false links place path = .ok (.found found entry)) :
    t.walk true links place path = .ok (.found found entry) := by
  generalize hfollow : false = follow at h
  fun_induction FileTree.walk t follow links place path
  case case1 => rw [walk, ← h]
  case case2 ih => rw [walk, if_pos rfl, ih h]
  case case3 hne ih => rw [walk, if_neg hne, if_pos rfl, ih h]
  case case8 hcurrent hparent hshort _ hnext ih =>
    rw [walk_name hcurrent hparent hshort hnext]
    exact ih h
  case case9 hcurrent hparent hshort _ _ hnext hend =>
    rw [walk_name hcurrent hparent hshort hnext, ← h]
    exact if_pos hend
  -- a link at the end is not what was found
  case case11 => exact absurd (Target.found.inj (Except.ok.inj h)).2.symm (hentry _)
  case case14 hcurrent hparent hshort _ _ hnext _ _ htarget ih =>
    have hfollows : ∀ rest : List (List UInt8), ¬ (rest.isEmpty && !true) = true := by simp
    rw [walk_name hcurrent hparent hshort hnext, ← ih h]
    dsimp only
    rw [if_neg (hfollows _), if_neg htarget]
  all_goals cases h

theorem find_true_of_false (hentry : ∀ target, entry ≠ .link target)
    (h : t.find false path = .ok (place, entry)) : t.find true path = .ok (place, entry) := by
  unfold find resolve at h ⊢
  by_cases hempty : path.bytes.isEmpty = true
  · rw [if_pos hempty] at h
    cases h
  · rw [if_neg hempty] at h ⊢
    split at h
    next hwalk =>
      cases h
      rw [walk_true_of_false hentry hwalk]
    all_goals cases h

/-! ## What is found -/

theorem resolve_eq_ok_iff {target : Target} :
    t.resolve follow path = .ok target ↔ path.bytes.isEmpty = false ∧
      t.walk follow linkLimit (startOf t.workingDirectory path) (steps path) = .ok target := by
  unfold resolve
  cases path.bytes.isEmpty <;> simp

theorem find_eq_ok_iff :
    t.find follow path = .ok (place, entry) ↔
      t.resolve follow path = .ok (.found place entry) := by
  unfold find
  cases t.resolve follow path with
  | error error => simp
  | ok target => cases target <;> simp

theorem isFile_iff :
    t.isFile path = true ↔ ∃ place content, t.find true path = .ok (place, .file content) := by
  unfold isFile
  cases t.find true path with
  | error error => simp
  | ok found =>
      obtain ⟨place, entry⟩ := found
      cases entry <;> simp

theorem isDirectory_iff :
    t.isDirectory path = true ↔ ∃ place, t.find true path = .ok (place, .directory) := by
  unfold isDirectory
  cases t.find true path with
  | error error => simp
  | ok found =>
      obtain ⟨place, entry⟩ := found
      cases entry <;> simp

end FileTree

end DocSentences
