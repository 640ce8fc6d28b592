import DocSentences.Proofs.Document.Components

/-!
# Directories around a file

A path that leads to a file goes through the directory that its parent leads to, so the directories
around a file need not be made. A step that stays where it is has no part in this: it is found
among the steps of a path and not among its components.
-/

namespace DocSentences.FileTree

variable {t : FileTree} {follow : Bool} {links : Nat} {place found : Place} {entry : Entry}
  {path other : List (List UInt8)}

/-! ## Steps that stay -/

/-- Some steps, and the same without some of those that stay where they are. -/
inductive Shortened : List (List UInt8) → List (List UInt8) → Prop
  | nil : Shortened [] []
  | keep (name : List UInt8) {path other : List (List UInt8)} :
      Shortened path other → Shortened (name :: path) (name :: other)
  | drop {path other : List (List UInt8)} :
      Shortened path other → Shortened ([Path.dot] :: path) other

namespace Shortened

theorem refl (path : List (List UInt8)) : Shortened path path := by
  induction path with
  | nil => exact .nil
  | cons name path ih => exact .keep name ih

theorem append {back shorter : List (List UInt8)} (h : Shortened path other)
    (hback : Shortened back shorter) : Shortened (path ++ back) (other ++ shorter) := by
  induction h with
  | nil => exact hback
  | keep name _ ih => exact .keep name ih
  | drop _ ih => exact .drop ih

theorem of_cons {name : List UInt8} (h : Shortened (name :: path) other)
    (hname : name ≠ [Path.dot]) : ∃ rest, other = name :: rest ∧ Shortened path rest := by
  cases h with
  | keep _ h => exact ⟨_, rfl, h⟩
  | drop h => exact absurd rfl hname

/-- A last step that leads somewhere else stays the last one. -/
theorem of_concat {last : List UInt8} (h : Shortened (path ++ [last]) other)
    (hlast : last ≠ [Path.dot]) : ∃ front, other = front ++ [last] ∧ Shortened path front := by
  induction path generalizing other with
  | nil =>
      obtain ⟨rest, rfl, hrest⟩ := h.of_cons hlast
      cases hrest
      exact ⟨[], rfl, .nil⟩
  | cons name path ih =>
      cases h with
      | keep _ h =>
          obtain ⟨front, rfl, hfront⟩ := ih h
          exact ⟨name :: front, rfl, .keep name hfront⟩
      | drop h =>
          obtain ⟨front, rfl, hfront⟩ := ih h
          exact ⟨front, rfl, .drop hfront⟩

end Shortened

theorem walk_nil : t.walk follow links place [] = .ok (.found place .directory) := by
  rw [walk]

/-- Where there is no entry nothing is found. -/
theorem walk_ne_found {name : List UInt8} (hcurrent : name ≠ [Path.dot])
    (hparent : name ≠ [Path.dot, Path.dot]) (hnext : t.entry? (place ++ [name]) = none) :
    t.walk follow links place (name :: path) ≠ .ok (.found found entry) := by
  rw [walk, if_neg hcurrent, if_neg hparent]
  dsimp only
  rw [hnext]
  dsimp only
  split_ifs <;> simp

/-- What a step along a link does. -/
theorem walk_link {name : List UInt8} {target : Path} (hcurrent : name ≠ [Path.dot])
    (hparent : name ≠ [Path.dot, Path.dot]) (hshort : ¬ nameLimit < name.length)
    (hnext : t.entry? (place ++ [name]) = some (.link target)) :
    t.walk true links place (name :: path) = match links with
      | 0 => .error .tooManyLinks
      | left + 1 =>
          if target.bytes.isEmpty then .error .notFound
          else t.walk true left (startOf place target) (steps target ++ path) := by
  rw [walk_name hcurrent hparent hshort hnext]
  exact if_neg (by simp)

/-- Without a step that stays where it is the steps lead to the same directory. -/
theorem walk_directory_iff (h : Shortened path other) :
    t.walk true links place path = .ok (.found found .directory) ↔
      t.walk true links place other = .ok (.found found .directory) := by
  generalize hfollow : true = follow
  fun_induction FileTree.walk t follow links place path generalizing other
  case case1 => cases h; rw [walk]
  case case2 ih =>
    cases h with
    | keep _ h => rw [walk, if_pos rfl, ih h]
    | drop h => exact ih h
  case case3 hne ih =>
    obtain ⟨rest, rfl, hrest⟩ := h.of_cons hne
    rw [walk, if_neg hne, if_pos rfl, ih hrest]
  case case4 hcurrent hparent hlong =>
    obtain ⟨rest, rfl, hrest⟩ := h.of_cons hcurrent
    rw [walk, if_neg hcurrent, if_neg hparent, if_pos hlong]
  -- where there is no entry, there is none with the other steps
  case case5 hcurrent hparent _ _ hnext _ | case6 hcurrent hparent _ _ hnext _ |
      case7 hcurrent hparent _ _ hnext _ _ =>
    obtain ⟨rest, rfl, hrest⟩ := h.of_cons hcurrent
    exact iff_of_false (by simp) (walk_ne_found hcurrent hparent hnext)
  case case8 hcurrent hparent hshort _ hnext ih =>
    obtain ⟨rest, rfl, hrest⟩ := h.of_cons hcurrent
    rw [walk_name hcurrent hparent hshort hnext, ih hrest]
  -- a file is no directory, and nothing is below it
  case case9 hcurrent hparent hshort _ _ hnext _ | case10 hcurrent hparent hshort _ _ hnext _ =>
    obtain ⟨rest, rfl, hrest⟩ := h.of_cons hcurrent
    rw [walk_name hcurrent hparent hshort hnext]
    dsimp only
    exact iff_of_false (by simp) (by split <;> simp)
  -- every link is followed
  case case11 hstays => simp [← hfollow] at hstays
  case case12 hcurrent hparent hshort _ _ hnext _ =>
    subst hfollow
    obtain ⟨rest, rfl, hrest⟩ := h.of_cons hcurrent
    rw [walk_link hcurrent hparent hshort hnext]
  case case13 hcurrent hparent hshort _ _ hnext _ _ hempty =>
    subst hfollow
    obtain ⟨rest, rfl, hrest⟩ := h.of_cons hcurrent
    rw [walk_link hcurrent hparent hshort hnext]
    dsimp only
    rw [if_pos hempty]
  case case14 hcurrent hparent hshort _ _ hnext _ _ hempty ih =>
    subst hfollow
    obtain ⟨rest, rfl, hrest⟩ := h.of_cons hcurrent
    rw [walk_link hcurrent hparent hshort hnext, ih ((Shortened.refl _).append hrest)]
    dsimp only
    rw [if_neg hempty]

/-! ## The way to a file -/

/-- The steps to a file, but for the last one, lead to a directory. -/
theorem exists_walk_front {last : List UInt8} {content : List UInt8}
    (h : t.walk true links place (path ++ [last]) = .ok (.found found (.file content))) :
    ∃ directory, t.walk true links place path = .ok (.found directory .directory) := by
  generalize hfollow : true = follow at h ⊢
  generalize hsteps : path ++ [last] = steps at h
  fun_induction FileTree.walk t follow links place steps generalizing path
  case case1 => simp at hsteps
  case case6 => cases h
  all_goals
    rcases path with _ | ⟨name, path⟩
    · exact ⟨_, walk_nil⟩
    obtain ⟨rfl, rfl⟩ := List.cons.inj hsteps
  case case2.cons ih =>
    obtain ⟨directory, hdirectory⟩ := ih rfl h
    exact ⟨directory, by rw [walk, if_pos rfl, hdirectory]⟩
  case case3.cons hne ih =>
    obtain ⟨directory, hdirectory⟩ := ih rfl h
    exact ⟨directory, by rw [walk, if_neg hne, if_pos rfl, hdirectory]⟩
  case case8.cons hcurrent hparent hshort _ hnext ih =>
    obtain ⟨directory, hdirectory⟩ := ih rfl h
    exact ⟨directory, by rw [walk_name hcurrent hparent hshort hnext, hdirectory]⟩
  -- the file is not reached before the last step
  case case9.cons hend => simp at hend
  case case14.cons hempty hcurrent hparent hshort _ hnext _ ih =>
    subst hfollow
    obtain ⟨directory, hdirectory⟩ := ih (List.append_assoc ..) h
    refine ⟨directory, ?_⟩
    rw [walk_link hcurrent hparent hshort hnext]
    dsimp only
    rw [if_neg hempty, hdirectory]
  all_goals simp at h

/-- If the steps lead to an entry, they lead to one without following a last link as well. -/
theorem exists_walk_false (h : t.walk true links place path = .ok (.found found entry)) :
    ∃ reached there, t.walk false links place path = .ok (.found reached there) := by
  generalize hfollow : true = follow at h
  fun_induction FileTree.walk t follow links place path
  case case1 => exact ⟨_, _, walk_nil⟩
  case case2 ih => rw [walk, if_pos rfl]; exact ih h
  case case3 hne ih => rw [walk, if_neg hne, if_pos rfl]; exact ih h
  case case8 hcurrent hparent hshort _ hnext ih =>
    rw [walk_name hcurrent hparent hshort hnext]
    exact ih h
  case case9 hcurrent hparent hshort _ _ hnext hend =>
    rw [walk_name hcurrent hparent hshort hnext]
    exact ⟨_, _, if_pos hend⟩
  case case14 hcurrent hparent hshort _ target hnext _ _ hempty ih =>
    rw [walk_name hcurrent hparent hshort hnext]
    dsimp only
    split
    · exact ⟨_, _, rfl⟩
    · exact ih h
  case case11 hstays => simp [← hfollow] at hstays
  all_goals simp at h

/-! ## Steps and components -/

/-- The steps that components ask for. -/
def stepsOf : List Path.Component → List (List UInt8)
  | .root :: components => components.map Path.Component.bytes
  | components => components.map Path.Component.bytes

theorem stepsOf_of_not_mem {components : List Path.Component} (h : .root ∉ components) :
    stepsOf components = components.map Path.Component.bytes := by
  unfold stepsOf
  split
  · exact absurd List.mem_cons_self h
  · rfl

/-- A piece between slashes is a step, or stays where it is. -/
theorem shortened_piece (isFirst : Bool) (piece : List UInt8) :
    Shortened ([piece].filter (!·.isEmpty))
      ((Path.Component.ofPiece? isFirst piece).toList.map Path.Component.bytes) := by
  by_cases hempty : piece = []
  · simpa [hempty, Path.Component.ofPiece?] using Shortened.nil
  by_cases hcurrent : piece = [Path.dot]
  · cases isFirst with
    | true => simpa [hcurrent, Path.Component.ofPiece?, Path.Component.bytes] using
        Shortened.refl [[Path.dot]]
    | false => simpa [hcurrent, Path.Component.ofPiece?] using Shortened.nil.drop
  by_cases hparent : piece = [Path.dot, Path.dot]
  · simpa [hparent, Path.Component.ofPiece?, Path.Component.bytes] using
      Shortened.refl [[Path.dot, Path.dot]]
  · simpa [hempty, hcurrent, hparent, Path.Component.ofPiece?, Path.Component.bytes] using
      Shortened.refl [piece]

theorem shortened_pieces (pieces : List (List UInt8)) :
    Shortened (pieces.filter (!·.isEmpty))
      ((pieces.filterMap (Path.Component.ofPiece? false)).map Path.Component.bytes) := by
  induction pieces with
  | nil => exact .nil
  | cons piece pieces ih =>
      have hfirst := (shortened_piece false piece).append ih
      rw [← List.filter_append, ← List.map_append] at hfirst
      cases hpiece : Path.Component.ofPiece? false piece with
      | none => simpa [hpiece] using hfirst
      | some c => simpa [hpiece] using hfirst

theorem root_not_mem_of_isRelative {path : Path} (h : path.isAbsolute = false) :
    .root ∉ path.components := fun hmem =>
  absurd ((Path.root_mem_components_append_iff (List.nil_append _).symm).mp hmem).2 (by simp [h])

/-- An absolute path has nothing before its first slash. -/
theorem exists_splitOnP_of_isAbsolute {path : Path} (h : path.isAbsolute = true) :
    ∃ pieces, path.bytes.splitOnP (· == Path.slash) = [] :: pieces := by
  obtain ⟨bytes⟩ := path
  cases bytes with
  | nil => simp [Path.isAbsolute] at h
  | cons b bytes =>
      have hslash : b = Path.slash := by simpa [Path.isAbsolute] using h
      exact ⟨_, by rw [List.splitOnP_cons_eq_if_modifyHead, if_pos (by simpa using hslash)]⟩

/-- The steps of a path are those of its components, and some that stay. -/
theorem shortened_steps (path : Path) : Shortened (steps path) (stepsOf path.components) := by
  have hpieces : Shortened ((path.bytes.splitOnP (· == Path.slash)).filter (!·.isEmpty))
      (stepsOf path.components) := by
    cases habsolute : path.isAbsolute with
    | true =>
        obtain ⟨pieces, hsplit⟩ := exists_splitOnP_of_isAbsolute habsolute
        rw [Path.components, hsplit]
        dsimp only
        rw [habsolute]
        exact shortened_pieces pieces
    | false =>
        obtain ⟨first, pieces, hsplit⟩ :=
          List.exists_cons_of_ne_nil (List.splitOnP_ne_nil (· == Path.slash) path.bytes)
        have hboth := (shortened_piece true first).append (shortened_pieces pieces)
        rw [← List.filter_append, ← List.map_append] at hboth
        rw [stepsOf_of_not_mem (root_not_mem_of_isRelative habsolute), Path.components, hsplit]
        dsimp only
        rw [habsolute]
        exact hboth
  unfold steps
  dsimp only
  split
  · simpa using hpieces.append Shortened.nil.drop
  · exact hpieces

section Intercalate

variable {names : List (List UInt8)}

/-- Names joined by slashes are split again at the slashes. -/
theorem splitOnP_intercalate (hne : names ≠ []) (hnames : ∀ name ∈ names, IsStep name) :
    ([Path.slash].intercalate names).splitOnP (· == Path.slash) = names :=
  List.splitOn_intercalate Path.slash (fun name hname => (hnames name hname).noSlash) hne

theorem isAbsolute_intercalate (hne : names ≠ []) (hnames : ∀ name ∈ names, IsStep name) :
    Path.isAbsolute ⟨[Path.slash].intercalate names⟩ = false := by
  by_contra habsolute
  obtain ⟨pieces, hpieces⟩ := exists_splitOnP_of_isAbsolute (Bool.not_eq_false _ ▸ habsolute)
  rw [splitOnP_intercalate hne hnames] at hpieces
  exact (hnames [] (hpieces ▸ List.mem_cons_self)).nonempty rfl

/-- Steps that are written with slashes between them are the steps of the path, be it absolute
or not. -/
theorem steps_intercalate (hne : names ≠ []) (hnames : ∀ name ∈ names, IsStep name) :
    steps ⟨[Path.slash].intercalate names⟩ = names ∧
      steps ⟨Path.slash :: [Path.slash].intercalate names⟩ = names := by
  have hsplit := splitOnP_intercalate hne hnames
  have hkept : names.filter (!·.isEmpty) = names :=
    List.filter_eq_self.mpr fun name hname => by simpa using (hnames name hname).nonempty
  have hempty : [] ∉ names := fun hmem => (hnames [] hmem).nonempty rfl
  -- the joined names matter only through their pieces from here on
  generalize [Path.slash].intercalate names = bytes at *
  have hlast : bytes.getLast? ≠ some Path.slash := by
    intro hlast
    obtain ⟨front, rfl⟩ := List.getLast?_eq_some_iff.mp hlast
    rw [List.splitOnP_append_cons front [] (by simp)] at hsplit
    exact hempty (by simp [← hsplit])
  have hbytes : bytes ≠ [] := by
    rintro rfl
    exact hempty (by simp [← hsplit])
  have hcons : (Path.slash :: bytes).splitOnP (· == Path.slash) = [] :: names := by
    rw [List.splitOnP_cons_eq_if_modifyHead, hsplit]
    rfl
  have hslash : (Path.slash :: bytes).getLast? ≠ some Path.slash := by
    rwa [List.getLast?_cons_of_ne_nil hbytes]
  constructor
  · unfold steps
    dsimp only
    rw [hsplit, hkept, if_neg hlast]
  · unfold steps
    dsimp only
    rw [if_neg hslash, hcons]
    exact hkept

end Intercalate

theorem isStep_bytes {c : Path.Component} (h : c.IsStep ∨ c = .current) : IsStep c.bytes := by
  rcases h with hstep | rfl
  · exact ⟨hstep.bytes_ne_nil, hstep.slash_not_mem⟩
  · exact ⟨by decide, by decide⟩

theorem ofComponents_of_not_mem {components : List Path.Component} (h : .root ∉ components) :
    Path.ofComponents components =
      ⟨[Path.slash].intercalate (components.map Path.Component.bytes)⟩ := by
  unfold Path.ofComponents
  split
  · exact absurd List.mem_cons_self h
  · rfl

/-- The path of some first components asks for their steps, from the same place. -/
theorem shortened_steps_ofComponents {path : Path} {front back : List Path.Component}
    (h : path.components = front ++ back) (hne : front ≠ []) :
    Shortened (steps (Path.ofComponents front)) (stepsOf front) ∧
      (Path.ofComponents front).isAbsolute = path.isAbsolute := by
  rcases path.components_cases with ⟨habsolute, names, hnames, hstep⟩ | ⟨hrelative, hstep⟩
  · obtain ⟨rest, rfl, rfl⟩ := (List.cons_eq_append_iff.mp (hnames.symm.trans h)).resolve_left
      fun h => hne h.1
    refine ⟨?_, by rw [habsolute]; rfl⟩
    cases rest with
    | nil => exact Shortened.nil.drop
    | cons c rest =>
        have hnames : ∀ name ∈ (c :: rest).map Path.Component.bytes, IsStep name :=
          List.forall_mem_map.mpr fun c hc =>
            isStep_bytes (.inl (hstep c (List.mem_append_left back hc)))
        rw [Path.ofComponents, (steps_intercalate (by simp) hnames).2]
        exact .refl _
  · -- a relative path has no root among its components
    have hfront : ∀ c ∈ front, c.IsStep ∨ c = .current := fun c hc =>
      hstep c (h ▸ List.mem_append_left back hc)
    have hroot : .root ∉ front := fun hmem =>
      root_not_mem_of_isRelative hrelative (h ▸ List.mem_append_left back hmem)
    have hnames : ∀ name ∈ front.map Path.Component.bytes, IsStep name :=
      List.forall_mem_map.mpr fun c hc => isStep_bytes (hfront c hc)
    have hsome : front.map Path.Component.bytes ≠ [] := by simpa using hne
    rw [ofComponents_of_not_mem hroot, stepsOf_of_not_mem hroot, hrelative,
      (steps_intercalate hsome hnames).1]
    exact ⟨.refl _, isAbsolute_intercalate hsome hnames⟩

/-! ## The directories around a file -/

section Around

variable {path : Path}

/-- A path leads to a directory exactly if its steps do. -/
theorem isDirectory_iff_walk :
    t.isDirectory path = true ↔ path.bytes.isEmpty = false ∧ ∃ found,
      t.walk true linkLimit (startOf t.workingDirectory path) (steps path) =
        .ok (.found found .directory) := by
  rw [isDirectory_iff]
  simp only [find_eq_ok_iff, resolve_eq_ok_iff, exists_and_left]

/-- A path to a file ends in a name, and what stands before it leads to a directory. -/
theorem steps_of_isFile (h : t.isFile path = true) :
    ∃ front last directory, steps path = front ++ [last] ∧ last ≠ [Path.dot] ∧
      t.walk true linkLimit (startOf t.workingDirectory path) front =
        .ok (.found directory .directory) := by
  obtain ⟨found, content, hfind⟩ := isFile_iff.mp h
  have hwalk := (resolve_eq_ok_iff.mp (find_eq_ok_iff.mp hfind)).2
  have hne : steps path ≠ [] := by
    intro hnil
    rw [hnil, walk_nil] at hwalk
    cases hwalk
  obtain ⟨front, last, hsteps⟩ := (List.eq_nil_or_concat _).resolve_left hne
  rw [List.concat_eq_append] at hsteps
  rw [hsteps] at hwalk
  obtain ⟨directory, hfront⟩ := exists_walk_front hwalk
  refine ⟨front, last, directory, hsteps, ?_, hfront⟩
  rintro rfl
  have hshortened := (Shortened.refl front).append Shortened.nil.drop
  rw [List.append_nil] at hshortened
  rw [(walk_directory_iff hshortened).mpr hfront] at hwalk
  cases hwalk

theorem stepsOf_concat {components : List Path.Component} (hne : components ≠ [])
    (c : Path.Component) : stepsOf (components ++ [c]) = stepsOf components ++ [c.bytes] := by
  obtain ⟨first, rest, rfl⟩ := List.exists_cons_of_ne_nil hne
  cases first <;> simp [stepsOf]

/-- The parent of a path has all components but the last. -/
theorem parent?_of_concat {components : List Path.Component} {c : Path.Component}
    (h : path.components = components ++ [c]) (hroot : components ++ [c] ≠ [.root]) :
    path.parent? = some (Path.ofComponents components) := by
  unfold Path.parent?
  split
  next hnil => simp [hnil] at h
  next hsingle => exact absurd (h.symm.trans hsingle) hroot
  next => rw [h, List.dropLast_concat]

/-- The parent of a path to a file leads to a directory. -/
theorem exists_parent_of_isFile (h : t.isFile path = true) :
    ∃ parent, path.parent? = some parent ∧
      (parent = ⟨[]⟩ ∨ t.isDirectory parent = true) := by
  obtain ⟨front, last, directory, hsteps, hlast, hfront⟩ := steps_of_isFile h
  have hshortened := shortened_steps path
  rw [hsteps] at hshortened
  -- the last step is the file itself, so the last component is
  obtain ⟨kept, hkept, hshorter⟩ := hshortened.of_concat hlast
  cases hcomponents : path.components using List.reverseRecOn with
  | nil => simp [hcomponents, stepsOf] at hkept
  | append_singleton components c =>
      rw [hcomponents] at hkept
      have hroot : components ++ [c] ≠ [.root] := by
        intro hroot
        simp [hroot, stepsOf] at hkept
      refine ⟨_, parent?_of_concat hcomponents hroot, ?_⟩
      by_cases hne : components = []
      · exact .inl (by rw [hne]; rfl)
      obtain ⟨hmade, habsolute⟩ := shortened_steps_ofComponents hcomponents hne
      rw [stepsOf_concat hne] at hkept
      have hsame := (List.append_inj' hkept rfl).1
      cases hempty : (Path.ofComponents components).bytes.isEmpty with
      | true => exact .inl (congrArg Path.mk (List.isEmpty_iff.mp hempty))
      | false =>
          refine .inr (isDirectory_iff_walk.mpr ⟨hempty, directory, ?_⟩)
          rw [walk_directory_iff hmade, hsame, startOf, habsolute]
          exact (walk_directory_iff hshorter).mp hfront

/-- A directory that is there already cannot be made. -/
theorem makeDirectory_of_isDirectory (h : t.isDirectory path = true) :
    t.makeDirectory path = .error .alreadyExists := by
  obtain ⟨hempty, found, hwalk⟩ := isDirectory_iff_walk.mp h
  obtain ⟨reached, there, hreached⟩ := exists_walk_false hwalk
  rw [makeDirectory, resolve_eq_ok_iff.mpr ⟨hempty, hreached⟩]

/-- Nothing is made where a directory is already. -/
theorem makeDirectories_of_isDirectory (h : path = ⟨[]⟩ ∨ t.isDirectory path = true) :
    t.makeDirectories path = .ok t := by
  rcases h with rfl | h
  · rfl
  have hempty := (isDirectory_iff_walk.mp h).1
  have hself : ∃ parents, path.selfAndParents = path :: parents :=
    ⟨_, by rw [Path.selfAndParents, hempty, if_neg (by simp)]⟩
  obtain ⟨parents, hparents⟩ := hself
  rw [makeDirectories, hparents, makeDirectoriesUp, makeDirectory_of_isDirectory h]
  exact if_pos h

/-- The directories around a file are there already. -/
theorem makeDirectories_parent (h : t.isFile path = true) :
    ∃ parent, path.parent? = some parent ∧ t.makeDirectories parent = .ok t := by
  obtain ⟨parent, hparent, hdirectory⟩ := exists_parent_of_isFile h
  exact ⟨parent, hparent, makeDirectories_of_isDirectory hdirectory⟩

end Around

end DocSentences.FileTree
