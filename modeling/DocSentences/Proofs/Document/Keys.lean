import DocSentences.Document.Basic
import DocSentences.Proofs.Document.Components
import DocSentences.Proofs.Text.Utf8

/-!
# Keys of documents

The key of a document below a root spells the way from the root to it, with dots between the names,
and the stem at its end. It depends on the components of the two paths only, it tells documents
apart unless there are dots in their names, and it has no slash unless the root is the empty path.
-/

namespace DocSentences

namespace Path

/-! ## Stems -/

/-- The text of some bytes. -/
def textOf (bytes : List UInt8) : String := String.ofList (Utf8.decodeLossy bytes)

theorem textOf_ne_empty {bytes : List UInt8} (h : bytes ≠ []) : textOf bytes ≠ "" := by
  simpa [textOf] using Utf8.decodeLossy_ne_nil h

/-- A stem and a name that it is the stem of: the name without its last dot and what follows it,
unless that dot begins the name. -/
inductive IsStem : List UInt8 → List UInt8 → Prop
  | whole (name : List UInt8) (h : dot ∉ name.tail) : IsStem name name
  | cut (stem extension : List UInt8) (hne : stem ≠ []) (h : dot ∉ extension) :
      IsStem stem (stem ++ dot :: extension)

theorem bne_dot_of_not_mem {bytes : List UInt8} (h : dot ∉ bytes) :
    ∀ b ∈ bytes.reverse, (b != dot) = true := by
  intro b hb
  simpa using fun heq : b = dot => h (heq ▸ List.mem_reverse.mp hb)

/-- A name is cut at its last dot, unless that is its first character. -/
theorem splitExtension_of_dot (stem : List UInt8) {extension : List UInt8}
    (h : dot ∉ extension) :
    splitExtension (stem ++ dot :: extension) =
      if stem = [] then (stem ++ dot :: extension, none) else (stem, some extension) := by
  have hreverse : (stem ++ dot :: extension).reverse =
      extension.reverse ++ dot :: stem.reverse := by simp
  rw [splitExtension, hreverse, List.takeWhile_append_of_pos (bne_dot_of_not_mem h),
    List.dropWhile_append_of_pos (bne_dot_of_not_mem h), List.dropWhile_cons_of_neg (by simp),
    List.takeWhile_cons_of_neg (by simp), List.append_nil, List.tail_cons, List.reverse_reverse,
    List.reverse_reverse]

/-- A name without a dot has no extension. -/
theorem splitExtension_of_not_mem {name : List UInt8} (h : dot ∉ name) :
    splitExtension name = (name, none) := by
  rw [splitExtension, List.dropWhile_eq_nil_iff.mpr (bne_dot_of_not_mem h)]
  rfl

theorem IsStem.eq_splitExtension {stem name : List UInt8} (h : IsStem stem name) :
    stem = (splitExtension name).1 := by
  cases h with
  | cut extension hne h => rw [splitExtension_of_dot stem h, if_neg hne]
  | whole h =>
      by_cases hdot : dot ∈ stem
      · cases stem with
        | nil => cases hdot
        | cons b rest =>
            obtain rfl : dot = b := (List.mem_cons.mp hdot).resolve_right h
            exact (congrArg Prod.fst (splitExtension_of_dot [] h)).symm
      · rw [splitExtension_of_not_mem hdot]

/-- Every name has a stem, and only one. -/
theorem isStem_iff (stem name : List UInt8) :
    IsStem stem name ↔ stem = (splitExtension name).1 := by
  refine ⟨IsStem.eq_splitExtension, ?_⟩
  rintro rfl
  by_cases hdot : dot ∈ name.reverse
  · obtain ⟨back, front, hname, h⟩ := List.eq_append_cons_of_mem hdot
    have hback : dot ∉ back.reverse := fun hmem => h (List.mem_reverse.mp hmem)
    obtain rfl : name = front.reverse ++ dot :: back.reverse := by
      rw [← List.reverse_reverse name, hname]
      simp
    rw [splitExtension_of_dot front.reverse hback]
    split
    · next hnil =>
      rw [hnil]
      exact .whole _ hback
    · next hne => exact .cut _ _ hne hback
  · have hnot : dot ∉ name := fun hmem => hdot (List.mem_reverse.mpr hmem)
    rw [splitExtension_of_not_mem hnot]
    exact .whole name fun hmem => hnot (List.mem_of_mem_tail hmem)

/-- The stem of a path is that of its file name. -/
theorem stem_of_fileName? {path : Path} {name stem : List UInt8}
    (hname : path.fileName? = some name) (hstem : IsStem stem name) : path.stem = textOf stem := by
  rw [Path.stem, stemOf, ← fileName?, hname, hstem.eq_splitExtension]
  rfl

/-- A path without a file name has an empty stem. -/
theorem stem_of_fileName?_eq_none {path : Path} (h : path.fileName? = none) : path.stem = "" := by
  rw [Path.stem, stemOf, ← fileName?, h]
  rfl

/-! ## Paths below a root -/

/-- A path has a file name exactly if its last component is a name. -/
theorem nameOf_eq_some_iff {components : List Component} {name : List UInt8} :
    nameOf components = some name ↔ ∃ directories, components = directories ++ [.normal name] := by
  rw [← List.getLast?_eq_some_iff, nameOf]
  split
  next other hlast => simp [hlast]
  next hother => simpa using hother name

theorem mem_components_of_fileName? {path : Path} {name : List UInt8}
    (h : path.fileName? = some name) : .normal name ∈ path.components := by
  obtain ⟨directories, hcomponents⟩ := nameOf_eq_some_iff.mp h
  simp [hcomponents]

/-- Stripping a prefix gives what was appended to it, and nothing else. -/
theorem stripComponents?_eq_some_iff {prior components below : List Component} :
    stripComponents? prior components = some below ↔ components = prior ++ below := by
  fun_induction stripComponents? prior components with
  | case1 components => simp
  | case2 => simp
  | case3 p prior rest ih => simpa using ih
  | case4 p prior c rest hne => simpa using fun heq => absurd heq.symm hne

/-- The way from a root down to a file: through directories to its name. -/
structure Below (root path : Path) where
  directories : List Component
  name : List UInt8
  components_eq : path.components = root.components ++ (directories ++ [.normal name])

variable {root path other : Path}

theorem Below.fileName?_eq (below : Below root path) : path.fileName? = some below.name := by
  rw [fileName?, nameOf_eq_some_iff]
  exact ⟨root.components ++ below.directories, by rw [below.components_eq, List.append_assoc]⟩

/-- A path that the root cannot be stripped off is not below it. -/
theorem isEmpty_below_of_stripComponents?
    (h : stripComponents? root.components path.components = none) : IsEmpty (Below root path) := by
  refine ⟨fun below => ?_⟩
  rw [stripComponents?_eq_some_iff.mpr below.components_eq] at h
  cases h

theorem display_ne_empty_of_mem_components {c : Component} (h : c ∈ path.components) :
    c.display ≠ "" :=
  textOf_ne_empty (bytes_ne_nil_of_mem_components h)

end Path

open DocSentences.Path

namespace KeyStrategy

variable {root path other : Path}

/-- Below a root the directories and the stem are joined by dots. -/
theorem dotted_eq (below : Below root path) {stem : List UInt8} (h : IsStem stem below.name) :
    dotted (below.directories ++ [.normal below.name]) =
      String.intercalate "." (below.directories.map Component.display ++ [textOf stem]) := by
  have hkept : ∀ segment ∈ below.directories.map Component.display,
      (!segment.isEmpty) = true := by
    intro segment hsegment
    obtain ⟨c, hc, rfl⟩ := List.mem_map.mp hsegment
    have hmem : c ∈ path.components := by rw [below.components_eq]; simp [hc]
    simpa using display_ne_empty_of_mem_components hmem
  have hstem : stemOf (below.directories ++ [.normal below.name]) = stem := by
    rw [stemOf, nameOf_eq_some_iff.mpr ⟨below.directories, rfl⟩, h.eq_splitExtension]
  rw [dotted, List.dropLast_concat, List.filter_eq_self.mpr hkept, hstem]
  rfl

/-- The key of a document below the root spells the way to it. -/
theorem keyFor_of_below (below : Below root path) {stem : List UInt8}
    (h : IsStem stem below.name) :
    (relativeTo root).keyFor path =
      String.intercalate "." (below.directories.map Component.display ++ [textOf stem]) := by
  have hname : nameOf (below.directories ++ [.normal below.name]) = some below.name :=
    nameOf_eq_some_iff.mpr ⟨below.directories, rfl⟩
  rw [keyFor, stripComponents?_eq_some_iff.mpr below.components_eq]
  dsimp only
  rw [hname, Option.isSome_some, if_pos rfl, dotted_eq below h]

/-- Any other key is the stem of the file name. -/
theorem keyFor_of_not_below (h : IsEmpty (Below root path)) :
    (relativeTo root).keyFor path = path.stem := by
  unfold keyFor
  dsimp only
  split
  next rest hrest =>
    split
    next hname =>
      obtain ⟨name, hname⟩ := Option.isSome_iff_exists.mp hname
      obtain ⟨directories, rfl⟩ := nameOf_eq_some_iff.mp hname
      exact h.elim ⟨directories, name, stripComponents?_eq_some_iff.mp hrest⟩
    next => rfl
  next => rfl

/-- A key depends on the components of the root and of the path only. -/
theorem keyFor_congr {root' path' : Path} (hroot : root'.components = root.components)
    (hpath : path'.components = path.components) :
    (relativeTo root').keyFor path' = (relativeTo root).keyFor path := by
  have hstem : path'.stem = path.stem := by rw [Path.stem, Path.stem, hpath]
  rw [keyFor, keyFor, hroot, hpath, hstem]

/-- However often a path is respelled, its components stay the same. -/
theorem components_eq_of_eqvGen (h : Relation.EqvGen Respelled path other) :
    path.components = other.components := by
  induction h with
  | rel _ _ hstep => exact hstep.components_eq
  | refl => rfl
  | symm _ _ _ ih => exact ih.symm
  | trans _ _ _ _ _ ihleft ihright => exact ihleft.trans ihright

/-- The names on the way from a root to a file are texts, without dots except before what the stem
of the file name leaves out. -/
structure Undotted (below : Below root path) where
  directories : List (List Char)
  stem : List Char
  directories_eq : below.directories = directories.map fun text => .normal (Utf8.encode text)
  isStem : IsStem (Utf8.encode stem) below.name
  noDot : ∀ text ∈ directories ++ [stem], '.' ∉ text

/-- Names without dots can be read off the key. -/
theorem splitOn_keyFor {below : Below root path} (undotted : Undotted below) :
    ((relativeTo root).keyFor path).toList.splitOn '.' =
      undotted.directories ++ [undotted.stem] := by
  have hdirectories : (below.directories.map Component.display).map String.toList =
      undotted.directories := by
    rw [undotted.directories_eq, List.map_map, List.map_map]
    have htext : ∀ text ∈ undotted.directories,
        (Component.display (.normal (Utf8.encode text))).toList = text := by
      intro text _
      simp [Component.display, Component.bytes]
    exact (List.map_congr_left htext).trans (List.map_id' _)
  have hstem : (textOf (Utf8.encode undotted.stem)).toList = undotted.stem := by simp [textOf]
  rw [keyFor_of_below below undotted.isStem, String.toList_intercalate, List.map_append,
    hdirectories, List.map_singleton, hstem]
  exact List.splitOn_intercalate '.' undotted.noDot (by simp)

/-- Below a root the key is the way to the file, with dots between the names; elsewhere it is the
stem of the file name. It does not depend on how the two paths are spelled, and without dots in the
names it tells the documents below a root apart. -/
theorem keyFor_relativeTo (root path : Path) :
    (∀ below : Below root path, ∃ stem, IsStem stem below.name ∧
      (relativeTo root).keyFor path =
        String.intercalate "." (below.directories.map Component.display ++ [textOf stem])) ∧
    (IsEmpty (Below root path) →
      (∀ name, path.fileName? = some name →
        ∃ stem, IsStem stem name ∧ (relativeTo root).keyFor path = textOf stem) ∧
      (path.fileName? = none → (relativeTo root).keyFor path = "")) ∧
    (∀ root' path' : Path,
      root'.components = root.components ∧ path'.components = path.components ∨
        Relation.EqvGen Respelled root' root ∧ Relation.EqvGen Respelled path' path →
      (relativeTo root').keyFor path' = (relativeTo root).keyFor path) ∧
    ∀ (other : Path) (below : Below root path) (below' : Below root other)
      (undotted : Undotted below) (undotted' : Undotted below'),
      (relativeTo root).keyFor path = (relativeTo root).keyFor other →
        below.directories = below'.directories ∧ undotted.stem = undotted'.stem := by
  have hstem : ∀ name, IsStem (splitExtension name).1 name :=
    fun name => (isStem_iff _ name).mpr rfl
  refine ⟨?_, ?_, ?_, ?_⟩
  · exact fun below => ⟨_, hstem below.name, keyFor_of_below below (hstem below.name)⟩
  · intro hempty
    rw [keyFor_of_not_below hempty]
    exact ⟨fun name hname => ⟨_, hstem name, stem_of_fileName? hname (hstem name)⟩,
      stem_of_fileName?_eq_none⟩
  · rintro root' path' (⟨hroot, hpath⟩ | ⟨hroot, hpath⟩)
    · exact keyFor_congr hroot hpath
    · exact keyFor_congr (components_eq_of_eqvGen hroot) (components_eq_of_eqvGen hpath)
  · intro other below below' undotted undotted' hkey
    -- a key without dots in its parts is split into these parts again
    have hnames := splitOn_keyFor undotted
    rw [hkey, splitOn_keyFor undotted'] at hnames
    obtain ⟨hdirectories, hlast⟩ := List.append_inj' hnames rfl
    rw [undotted.directories_eq, undotted'.directories_eq, hdirectories]
    exact ⟨rfl, (List.singleton_inj.mp hlast).symm⟩

/-- A directory with sources. -/
def sourceRoot : Path := .ofString "/repo/src"

/-- The way to a class, through two directories, in a path that is spelled with more slashes than it
needs. -/
def classBelow : Below sourceRoot (.ofString "//repo/./src/java//util/List.java/") where
  directories := [.normal (Utf8.encode "java".toList), .normal (Utf8.encode "util".toList)]
  name := Utf8.encode "List.java".toList
  components_eq := by decide

/-- The way to the page about the same class. -/
def pageBelow : Below sourceRoot (.ofString "/repo/src/java/util/List.html") where
  directories := [.normal (Utf8.encode "java".toList), .normal (Utf8.encode "util".toList)]
  name := Utf8.encode "List.html".toList
  components_eq := by decide

def classUndotted : Undotted classBelow where
  directories := ["java".toList, "util".toList]
  stem := "List".toList
  directories_eq := rfl
  isStem := (isStem_iff _ _).mpr (by decide)
  noDot := by decide

def pageUndotted : Undotted pageBelow where
  directories := ["java".toList, "util".toList]
  stem := "List".toList
  directories_eq := rfl
  isStem := (isStem_iff _ _).mpr (by decide)
  noDot := by decide

theorem keyFor_classBelow :
    (relativeTo sourceRoot).keyFor (.ofString "//repo/./src/java//util/List.java/") =
        "java.util.List" ∧
      (relativeTo sourceRoot).keyFor (.ofString "/repo/srcs/.Bar.java") = ".Bar" ∧
      (relativeTo sourceRoot).keyFor (.ofString "/repo/src/..") = "" ∧
      (relativeTo (.ofString "/repo/src/")).keyFor (.ofString "/repo/src/./Top.java") =
        (relativeTo sourceRoot).keyFor (.ofString "/repo/src/Top.java") ∧
      classBelow.directories = pageBelow.directories ∧ classUndotted.stem = pageUndotted.stem := by
  refine ⟨?_, ?_, ?_, ?_, ?_⟩
  · obtain ⟨stem, hstem, hkey⟩ := (keyFor_relativeTo _ _).1 classBelow
    rw [hkey, hstem.eq_splitExtension]
    decide +kernel
  · have houtside : IsEmpty (Below sourceRoot (.ofString "/repo/srcs/.Bar.java")) :=
      isEmpty_below_of_stripComponents? (by decide)
    obtain ⟨stem, hstem, hkey⟩ := ((keyFor_relativeTo _ _).2.1 houtside).1 _ rfl
    rw [hkey, hstem.eq_splitExtension]
    decide +kernel
  · have hnone : fileName? (.ofString "/repo/src/..") = none := by decide
    refine ((keyFor_relativeTo _ _).2.1 ⟨fun below => ?_⟩).2 hnone
    rw [below.fileName?_eq] at hnone
    cases hnone
  · refine (keyFor_relativeTo _ _).2.2.1 _ _ (.inr ⟨?_, ?_⟩)
    · exact .symm _ _ (.rel _ _ (.trailing (Utf8.encode "/repo/src".toList) (by decide)))
    · exact .symm _ _ (.rel _ _
        (.stay (Utf8.encode "/repo/src".toList) (Utf8.encode "Top.java".toList)))
  · exact (keyFor_relativeTo _ _).2.2.2 _ classBelow pageBelow classUndotted pageUndotted
      (by decide +kernel)

/-! ## Slashes in keys -/

/-- A character of a joined text is the separator, or one of the parts has it. -/
theorem mem_intercalate_iff {c d : Char} {parts : List (List Char)} :
    c ∈ [d].intercalate parts ↔ c = d ∧ 1 < parts.length ∨ ∃ part ∈ parts, c ∈ part := by
  induction parts with
  | nil => simp
  | cons part parts ih =>
      cases parts with
      | nil => simp
      | cons next rest =>
          rw [List.intercalate_cons_cons, List.mem_append, List.mem_append, ih, List.mem_singleton]
          have hlong : 1 < (part :: next :: rest).length := by simp
          simp only [hlong, and_true, List.exists_mem_cons_iff]
          tauto

/-- A slash is read only where there is one, even in bytes that are no text. -/
theorem slash_mem_of_mem_textOf {bytes : List UInt8} (h : '/' ∈ (textOf bytes).toList) :
    slash ∈ bytes := by
  rw [textOf, String.toList_ofList] at h
  exact Utf8.ofNat_mem_of_mem_decodeLossy (by decide) (by decide) h

/-- Only the root is displayed with a slash. -/
theorem slash_mem_display_iff {c : Component} (h : c ∈ path.components) :
    '/' ∈ c.display.toList ↔ c = .root := by
  rcases cases_of_mem_components h with rfl | rfl | hstep
  · have hroot : '/' ∈ (Component.display .root).toList := by decide
    simp [hroot]
  · have hcurrent : '/' ∉ (Component.display .current).toList := by decide
    simp [hcurrent]
  · have hnot : '/' ∉ c.display.toList :=
      fun hmem => hstep.slash_not_mem (slash_mem_of_mem_textOf hmem)
    refine ⟨fun hmem => absurd hmem hnot, ?_⟩
    rintro rfl
    exact absurd hstep id

theorem slash_not_mem_textOf_stem {name stem : List UInt8} (h : .normal name ∈ path.components)
    (hstem : IsStem stem name) : '/' ∉ (textOf stem).toList := by
  intro hslash
  have hmem : slash ∈ name := by
    have hmem := slash_mem_of_mem_textOf hslash
    cases hstem with
    | whole => exact hmem
    | cut => exact List.mem_append_left _ hmem
  exact (isEntryName_of_mem_components h).noSlash hmem

/-- No stem of a path has a slash in it. -/
theorem slash_not_mem_stem (path : Path) : '/' ∉ path.stem.toList := by
  cases hname : path.fileName? with
  | none =>
      rw [stem_of_fileName?_eq_none hname]
      simp
  | some name =>
      have hstem := (isStem_iff _ name).mpr rfl
      rw [stem_of_fileName? hname hstem]
      exact slash_not_mem_textOf_stem (mem_components_of_fileName? hname) hstem

/-- The root directory is below a root only if that root is the empty path. -/
theorem root_mem_directories_iff (below : Below root path) :
    .root ∈ below.directories ↔ root = ⟨[]⟩ ∧ path.isAbsolute = true := by
  have hback := root_mem_components_append_iff below.components_eq
  rw [← components_eq_nil_iff, ← hback]
  simp

/-- What a key below the root is made of. -/
theorem mem_keyFor_of_below_iff (below : Below root path) {stem : List UInt8}
    (hstem : IsStem stem below.name) {c : Char} :
    c ∈ ((relativeTo root).keyFor path).toList ↔
      (c = '.' ∧ below.directories ≠ []) ∨
        (∃ directory ∈ below.directories, c ∈ directory.display.toList) ∨
          c ∈ (textOf stem).toList := by
  have hdot : ".".toList = ['.'] := rfl
  have hlength : 0 < below.directories.length ↔ below.directories ≠ [] := List.length_pos_iff
  rw [keyFor_of_below below hstem, String.toList_intercalate, hdot, mem_intercalate_iff]
  simp [hlength, or_and_right, exists_or]

/-- A key below a root has a slash exactly if the root is empty and the path absolute. -/
theorem slash_mem_keyFor_of_below (below : Below root path) :
    '/' ∈ ((relativeTo root).keyFor path).toList ↔ root = ⟨[]⟩ ∧ path.isAbsolute = true := by
  have hstem := (isStem_iff _ below.name).mpr rfl
  have hdirectory : ∀ c ∈ below.directories, ('/' ∈ c.display.toList ↔ c = .root) := by
    intro c hc
    have hmem : c ∈ path.components := by simp [below.components_eq, hc]
    exact slash_mem_display_iff hmem
  rw [mem_keyFor_of_below_iff below hstem, ← root_mem_directories_iff below]
  constructor
  · rintro (⟨hdot, -⟩ | ⟨c, hc, hslash⟩ | hslash)
    · exact absurd hdot (by decide)
    · exact (hdirectory c hc).mp hslash ▸ hc
    · have hname := mem_components_of_fileName? below.fileName?_eq
      exact absurd hslash (slash_not_mem_textOf_stem hname hstem)
  · exact fun hroot => .inr (.inl ⟨.root, hroot, (hdirectory .root hroot).mpr rfl⟩)

theorem textOf_stem_ne_empty {name stem : List UInt8} (h : .normal name ∈ path.components)
    (hstem : IsStem stem name) : textOf stem ≠ "" := by
  refine textOf_ne_empty ?_
  cases hstem with
  | whole => exact IsStep.nonempty (IsEntryName.toIsStep (isEntryName_of_mem_components h))
  | cut _ hne => exact hne

/-- A path with a file name has a stem. -/
theorem stem_ne_empty (h : path.fileName?.isSome = true) : path.stem ≠ "" := by
  obtain ⟨name, hname⟩ := Option.isSome_iff_exists.mp h
  have hstem := (isStem_iff _ name).mpr rfl
  rw [stem_of_fileName? hname hstem]
  exact textOf_stem_ne_empty (mem_components_of_fileName? hname) hstem

/-- A path with a file name has a key, by every strategy. -/
theorem keyFor_ne_empty (strategy : KeyStrategy) (h : path.fileName?.isSome = true) :
    strategy.keyFor path ≠ "" := by
  cases strategy with
  | baseName => exact stem_ne_empty h
  | relativeTo root =>
      rcases isEmpty_or_nonempty (Below root path) with hempty | ⟨⟨below⟩⟩
      · rw [keyFor_of_not_below hempty]
        exact stem_ne_empty h
      · have hstem := (isStem_iff _ below.name).mpr rfl
        have hne := textOf_stem_ne_empty (mem_components_of_fileName? below.fileName?_eq) hstem
        obtain ⟨c, hc⟩ := List.exists_mem_of_ne_nil _ (String.toList_eq_nil_iff.not.mpr hne)
        have hmem := (mem_keyFor_of_below_iff below hstem).mpr (.inr (.inr hc))
        intro hkey
        rw [hkey] at hmem
        cases hmem

theorem isSome_fileName?_of_ofPath? {strategy : KeyStrategy} {document : Document}
    (h : Document.ofPath? path strategy = some document) : path.fileName?.isSome = true := by
  obtain ⟨format, hformat, -⟩ := Option.bind_eq_some_iff.mp h
  obtain ⟨extension, hextension, -⟩ := Option.bind_eq_some_iff.mp hformat
  obtain ⟨name, hname, -⟩ := Option.bind_eq_some_iff.mp hextension
  rw [hname]
  rfl

theorem key_of_ofPath? {strategy : KeyStrategy} {document : Document}
    (h : Document.ofPath? path strategy = some document) :
    document.key = strategy.keyFor path := by
  obtain ⟨format, -, h⟩ := Option.bind_eq_some_iff.mp h
  rw [← Option.some.inj h]

/-- A key has a slash in it only if it is the way from the empty path to a file with an absolute
path, and the key of a document is never empty. -/
theorem slash_mem_keyFor_iff (strategy : KeyStrategy) (path : Path) :
    ('/' ∈ (strategy.keyFor path).toList ↔
      strategy = .relativeTo ⟨[]⟩ ∧ path.isAbsolute = true ∧ path.fileName?.isSome = true) ∧
    ∀ document ∈ Document.ofPath? path strategy, document.key ≠ "" := by
  constructor
  · cases strategy with
    | baseName => simpa [keyFor] using slash_not_mem_stem path
    | relativeTo root =>
        rcases isEmpty_or_nonempty (Below root path) with hempty | ⟨⟨below⟩⟩
        · rw [keyFor_of_not_below hempty]
          refine iff_of_false (slash_not_mem_stem path) ?_
          rintro ⟨hroot, -, hname⟩
          obtain rfl : root = ⟨[]⟩ := by simpa using hroot
          obtain ⟨name, hname⟩ := Option.isSome_iff_exists.mp hname
          obtain ⟨directories, hcomponents⟩ := nameOf_eq_some_iff.mp hname
          exact hempty.elim ⟨directories, name, hcomponents⟩
        · rw [slash_mem_keyFor_of_below below, below.fileName?_eq]
          simp
  · intro document hdocument
    rw [key_of_ofPath? hdocument]
    exact keyFor_ne_empty strategy (isSome_fileName?_of_ofPath? hdocument)

theorem keyFor_emptyRoot :
    '/' ∈ ((relativeTo ⟨[]⟩).keyFor (.ofString "/b.java")).toList ∧
      '/' ∉ ((relativeTo ⟨[]⟩).keyFor (.ofString "a/b.java")).toList ∧
      ∃ document ∈ Document.ofPath? (.ofString "/a/.b.HTML") (relativeTo ⟨[]⟩),
        document.key ≠ "" := by
  refine ⟨(slash_mem_keyFor_iff _ _).1.mpr (by decide), ?_, ?_⟩
  · exact (slash_mem_keyFor_iff _ _).1.not.mpr (by decide)
  · have hdocument : Document.ofPath? (.ofString "/a/.b.HTML") (relativeTo ⟨[]⟩) =
        some ⟨.ofString "/a/.b.HTML", .markup, "/.a..b"⟩ := by decide +kernel
    exact ⟨_, hdocument, (slash_mem_keyFor_iff _ _).2 _ hdocument⟩

/-- The first slash of an absolute path is one of its components, so it is a part of the key below
the empty path. -/
theorem not_forall_slash_not_mem_keyFor :
    ¬ ∀ (strategy : KeyStrategy) (path : Path), '/' ∉ (strategy.keyFor path).toList ∧
      ∀ document ∈ Document.ofPath? path strategy, document.key ≠ "" := by
  intro h
  exact (h (relativeTo ⟨[]⟩) (.ofString "/b.java")).1 (by decide +kernel)

end KeyStrategy

end DocSentences
