import DocSentences.Proofs.FileTree.Resolution

/-!
# Written files

A file that has been written is found along the path it was written to, with the content it was
given. The way there is the same as before: it leads through directories and links, and the place
that is written held neither.
-/

namespace DocSentences.FileTree

variable {t : FileTree} {place other : Place}

/-! ## Entries of a changed tree -/

theorem lookup_map_replace (entries : List (Place × Entry)) (place other : Place) (entry : Entry) :
    (entries.map fun (name, old) => (name, if name = place then entry else old)).lookup other =
      (entries.lookup other).map fun old => if other = place then entry else old := by
  induction entries with
  | nil => rfl
  | cons first entries ih =>
    obtain ⟨name, old⟩ := first
    rw [List.map_cons, List.lookup_cons, List.lookup_cons, ih]
    by_cases h : other = name
    · subst h
      simp
    · rw [beq_eq_false_iff_ne.mpr h]

/-- A change to one place keeps the entries of all others. -/
theorem lookup_put (t : FileTree) (place other : Place) (entry : Entry) :
    (t.put place entry).entries.lookup other =
      if other = place then some entry else t.entries.lookup other := by
  unfold put
  split
  next hsome =>
    rw [lookup_map_replace]
    split
    next hother =>
      obtain ⟨old, hold⟩ := Option.isSome_iff_exists.mp hsome
      rw [hother, hold, Option.map_some]
    next => simp
  next hnone =>
    rw [Option.not_isSome_iff_eq_none] at hnone
    rw [List.lookup_append]
    split
    next hother => simp [hother, hnone]
    next hother => simp [List.lookup_cons, beq_eq_false_iff_ne.mpr hother]

theorem entry?_put_of_ne (hne : other ≠ place) (entry : Entry) :
    entry? (t.put place entry) other = t.entry? other := by
  unfold entry?
  rw [lookup_put, if_neg hne]

theorem entry?_put_self (hplace : place ≠ []) (entry : Entry) :
    entry? (t.put place entry) place = some entry := by
  unfold entry?
  rw [lookup_put, if_pos rfl, if_neg (by simpa using hplace)]

/-! ## The way to a file -/

/-- Whether a file can stand at a place: it is free, or holds a file already. -/
def MayHoldFile (t : FileTree) (place : Place) : Prop :=
  place ≠ [] ∧ ∀ entry, t.entry? place = some entry → ∃ content, entry = .file content

theorem MayHoldFile.ne_of_entry? (h : t.MayHoldFile place) {entry : Entry}
    (hentry : t.entry? other = some entry) (hfile : ∀ content, entry ≠ .file content) :
    other ≠ place := by
  rintro rfl
  obtain ⟨content, rfl⟩ := h.2 entry hentry
  exact hfile content rfl

/-- The path of a file leads to it, or to the free place where it can be made. -/
def IsFilePlace (place : Place) (target : Target) : Prop :=
  (∃ content, target = .found place (.file content)) ∨ target = .free place false

/-- The place that a walk ends at may hold a file. -/
theorem mayHoldFile_of_walk {follow : Bool} {links : Nat} {start : Place} {path : List (List UInt8)}
    {target : Target} (h : t.walk follow links start path = .ok target)
    (htarget : IsFilePlace place target) : t.MayHoldFile place := by
  fun_induction FileTree.walk t follow links start path
  case case2 ih => exact ih h
  case case3 ih => exact ih h
  case case8 ih => exact ih h
  case case14 ih => exact ih h
  -- the place is reached: it is free, or holds a file
  case case5 hnext _ =>
    obtain ⟨_, rfl⟩ | rfl := htarget
    · cases h
    · rw [← (Target.free.inj (Except.ok.inj h)).1]
      refine ⟨List.append_ne_nil_of_right_ne_nil _ (List.cons_ne_nil _ _), fun entry hentry => ?_⟩
      rw [hnext] at hentry
      cases hentry
  case case9 hnext _ =>
    obtain ⟨_, rfl⟩ | rfl := htarget
    · rw [← (Target.found.inj (Except.ok.inj h)).1]
      refine ⟨List.append_ne_nil_of_right_ne_nil _ (List.cons_ne_nil _ _), fun entry hentry => ?_⟩
      exact ⟨_, Option.some.inj (hentry.symm.trans hnext)⟩
    · cases h
  all_goals
    obtain ⟨_, rfl⟩ | rfl := htarget
    all_goals exact absurd h (by simp)

/-- The last step of a walk leads to the file that was put there. -/
theorem walk_put_last {follow : Bool} {links : Nat} {start : Place} {name : List UInt8}
    {rest : List (List UInt8)} (hcurrent : name ≠ [Path.dot])
    (hparent : name ≠ [Path.dot, Path.dot]) (hshort : ¬ nameLimit < name.length)
    (hend : rest.isEmpty = true) (content : List UInt8) :
    (t.put (start ++ [name]) (.file content)).walk follow links start (name :: rest) =
      .ok (.found (start ++ [name]) (.file content)) := by
  rw [walk_name hcurrent hparent hshort (entry?_put_self (by simp) _)]
  exact if_pos hend

/-- The same steps lead to the file that has been written. -/
theorem walk_put {follow : Bool} {links : Nat} {start : Place} {path : List (List UInt8)}
    {target : Target} (h : t.walk follow links start path = .ok target)
    (htarget : IsFilePlace place target) (content : List UInt8) :
    (t.put place (.file content)).walk follow links start path =
      .ok (.found place (.file content)) := by
  have hplace := mayHoldFile_of_walk h htarget
  fun_induction FileTree.walk t follow links start path
  case case2 ih => rw [walk, if_pos rfl, ih h]
  case case3 hne ih => rw [walk, if_neg hne, if_pos rfl, ih h]
  case case5 hcurrent hparent hshort _ _ hend =>
    obtain ⟨_, rfl⟩ | rfl := htarget
    · cases h
    · rw [← (Target.free.inj (Except.ok.inj h)).1]
      exact walk_put_last hcurrent hparent hshort hend content
  case case9 hcurrent hparent hshort _ _ _ hend =>
    obtain ⟨_, rfl⟩ | rfl := htarget
    · rw [← (Target.found.inj (Except.ok.inj h)).1]
      exact walk_put_last hcurrent hparent hshort hend content
    · cases h
  -- a directory or a link on the way, where nothing is written
  case case8 hcurrent hparent hshort _ hnext ih =>
    have hne := hplace.ne_of_entry? hnext (by simp)
    rw [walk_name hcurrent hparent hshort ((entry?_put_of_ne hne _).trans hnext)]
    exact ih h
  case case14 hcurrent hparent hshort _ _ hnext hfollows _ hlink ih =>
    have hne := hplace.ne_of_entry? hnext (by simp)
    rw [walk_name hcurrent hparent hshort ((entry?_put_of_ne hne _).trans hnext), ← ih h]
    dsimp only
    rw [if_neg hfollows, if_neg hlink]
  all_goals
    obtain ⟨_, rfl⟩ | rfl := htarget
    all_goals exact absurd h (by simp)

/-! ## Writing and reading -/

theorem isFilePlace_of_filePlace {path : Path} (h : t.filePlace path = .ok place) :
    ∃ target, t.resolve true path = .ok target ∧ IsFilePlace place target := by
  unfold filePlace at h
  split at h
  next hresolve =>
    cases h
    exact ⟨_, hresolve, .inl ⟨_, rfl⟩⟩
  next hresolve =>
    cases h
    exact ⟨_, hresolve, .inr rfl⟩
  all_goals cases h

/-- A file that is put at its place is found there. -/
theorem find_put {path : Path} (h : t.filePlace path = .ok place) (content : List UInt8) :
    (t.put place (.file content)).find true path = .ok (place, .file content) := by
  obtain ⟨target, hresolve, htarget⟩ := isFilePlace_of_filePlace h
  unfold resolve at hresolve
  unfold find resolve
  split at hresolve
  next => cases hresolve
  next hempty =>
    have hwalk := walk_put hresolve htarget content
    rw [if_neg hempty]
    rw [show (t.put place (.file content)).workingDirectory = t.workingDirectory from rfl, hwalk]

/-- A file that is found is written at the place it was found at. -/
theorem filePlace_of_find {path : Path} {content : List UInt8}
    (h : t.find true path = .ok (place, .file content)) : t.filePlace path = .ok place := by
  rw [filePlace, find_eq_ok_iff.mp h]

/-- A file that has been written is there, and is read with the content it was given. -/
theorem read_of_write {written : FileTree} {path : Path} {content : List UInt8}
    (h : t.write path content = .ok written) :
    written.isFile path = true ∧ written.read path = .ok content := by
  unfold write at h
  cases hplace : t.filePlace path with
  | error error =>
    rw [hplace] at h
    cases h
  | ok place =>
    rw [hplace] at h
    cases h
    rw [isFile, read, find_put hplace content]
    exact ⟨rfl, rfl⟩

end DocSentences.FileTree
