import DocSentences.Corpus.Basic
import DocSentences.Proofs.FileTree.Resolution
import Mathlib

/-!
# Discovery of a corpus

The documents found below several roots are those found below each of them, each listed where it is
met first. Which documents there are, and under which keys, does not depend on the order of the
roots or on a root that is named twice; what was skipped adds up.
-/

namespace DocSentences.Corpus

variable {t : FileTree} {strategy : KeyStrategy} {follow : Bool}

/-! ## Files that are met -/

/-- Every file that is met can be found, also if links are followed. -/
theorem exists_find_of_mem_walk {path : Path} (fuel : Nat) :
    (∀ isFirst around start, .file path ∈ walkPath t follow isFirst around fuel start →
        ∃ place content, t.find true path = .ok (place, .file content)) ∧
      ∀ around start names, .file path ∈ walkAll t follow around fuel start names →
        ∃ place content, t.find true path = .ok (place, .file content) := by
  induction fuel with
  | zero =>
      refine ⟨fun isFirst around start h => ?_, fun around start names h => ?_⟩
      · unfold walkPath at h
        cases h
      · unfold walkAll at h
        cases h
  | succ fuel ih =>
      obtain ⟨ihPath, ihAll⟩ := ih
      constructor
      · intro isFirst around start h
        unfold walkPath at h
        split at h
        next => simp at h
        next place content hfind =>
          obtain rfl : path = start := by simpa using h
          exact ⟨place, content, FileTree.find_true_of_false (by simp) hfind⟩
        next => exact ihAll _ _ _ h
        next =>
          -- a link, which leads on only if it is followed
          split at h
          · split at h
            next => simp at h
            next =>
              split at h
              · simp at h
              · exact ihAll _ _ _ h
            next place content hfind =>
              split at h
              · obtain rfl : path = start := by simpa using h
                exact ⟨place, content, hfind⟩
              · cases h
            next => cases h
          · cases h
      · intro around start names h
        cases names with
        | nil =>
            unfold walkAll at h
            cases h
        | cons name rest =>
            unfold walkAll at h
            rcases List.mem_append.mp h with hfirst | hrest
            · exact ihPath _ _ _ hfirst
            · exact ihAll _ _ _ hrest

/-- The path under which a file is listed. -/
def listedPath (t : FileTree) (path : Path) : Path :=
  match t.canonical path with
  | .ok path => path
  | .error _ => path

/-- Every file that is met is listed under the path of its place. -/
theorem exists_place_of_mem_walk {path root : Path} (h : .file path ∈ walk t follow root) :
    ∃ place : Place, listedPath t path = place.toPath ∧
      (t.workingDirectory.IsProper → place.IsProper) := by
  obtain ⟨place, content, hfind⟩ := (exists_find_of_mem_walk _).1 _ _ _ h
  refine ⟨place, ?_, fun hproper => FileTree.isProper_find hproper hfind⟩
  rw [listedPath, FileTree.canonical, hfind]
  rfl

/-! ## What is found when entries are met -/

/-- The document that is met, if the entry is one. -/
def Meeting.document? (t : FileTree) (strategy : KeyStrategy) : Meeting → Option Document
  | .file path => Document.ofPath? (listedPath t path) strategy
  | .skipped _ => none

/-- The entry that is skipped, if this is one. -/
def Meeting.skip? (root : Path) : Meeting → Option Skip
  | .file _ => none
  | .skipped reason => some ⟨root, reason⟩

theorem path_of_ofPath? {path : Path} {document : Document}
    (h : Document.ofPath? path strategy = some document) : document.path = path := by
  obtain ⟨format, -, hdocument⟩ := Option.bind_eq_some_iff.mp h
  exact Option.some.inj hdocument ▸ rfl

/-- What a search has found once some entries have been met, each below its root. -/
structure Search.Holds (t : FileTree) (strategy : KeyStrategy) (met : List (Path × Meeting))
    (s : Search) : Prop where
  documents : s.documents.reverse = (met.filterMap (·.2.document? t strategy)).eraseDups
  skips : s.skips.reverse = met.filterMap fun entry => entry.2.skip? entry.1
  seen : ∀ path, path ∈ s.seen ↔ ∃ root file, (root, .file file) ∈ met ∧ listedPath t file = path

theorem eraseDups_concat_of_mem {α : Type} [BEq α] [LawfulBEq α] {as : List α} {a : α}
    (h : a ∈ as) : (as ++ [a]).eraseDups = as.eraseDups := by
  have hremoved : [a].removeAll as = [] := by simp [List.removeAll, h]
  rw [List.eraseDups_append, hremoved, List.eraseDups_nil, List.append_nil]

theorem eraseDups_concat_of_not_mem {α : Type} [BEq α] [LawfulBEq α] {as : List α} {a : α}
    (h : a ∉ as) : (as ++ [a]).eraseDups = as.eraseDups ++ [a] := by
  have hkept : [a].removeAll as = [a] := by simp [List.removeAll, h]
  rw [List.eraseDups_append, hkept]
  rfl

theorem nodup_eraseDups {α : Type} [BEq α] [LawfulBEq α] (as : List α) : as.eraseDups.Nodup := by
  induction as using List.reverseRecOn with
  | nil => exact List.nodup_nil
  | append_singleton as a ih =>
      by_cases hmem : a ∈ as
      · rwa [eraseDups_concat_of_mem hmem]
      · rw [eraseDups_concat_of_not_mem hmem]
        refine List.nodup_append.mpr ⟨ih, List.nodup_singleton a, ?_⟩
        rintro b hb _ hother rfl
        rw [List.mem_singleton.mp hother] at hb
        exact hmem (List.mem_eraseDups.mp hb)

namespace Search.Holds

variable {met : List (Path × Meeting)} {s : Search}

theorem initial : Search.Holds t strategy [] {} where
  documents := rfl
  skips := rfl
  seen path := by simp

/-- A document has been found if its path has been seen. -/
theorem mem_documents_iff (h : Search.Holds t strategy met s) {path : Path} {document : Document}
    (hdocument : Document.ofPath? path strategy = some document) :
    document ∈ met.filterMap (·.2.document? t strategy) ↔ path ∈ s.seen := by
  rw [h.seen, List.mem_filterMap]
  constructor
  · rintro ⟨⟨root, meeting⟩, hmem, hmet⟩
    cases meeting with
    | skipped => cases hmet
    | file file =>
        refine ⟨root, file, hmem, ?_⟩
        rw [← path_of_ofPath? hmet, path_of_ofPath? hdocument]
  · rintro ⟨root, file, hmem, rfl⟩
    exact ⟨(root, .file file), hmem, hdocument⟩

theorem step_skipped (h : Search.Holds t strategy met s) (root : Path) (reason : SkipReason) :
    Search.Holds t strategy (met ++ [(root, .skipped reason)])
      (s.step t strategy root (.skipped reason)) where
  documents := by
    have hnone : [(root, Meeting.skipped reason)].filterMap (·.2.document? t strategy) = [] := rfl
    rw [List.filterMap_append, hnone, List.append_nil]
    exact h.documents
  skips := by
    rw [List.filterMap_append, ← h.skips]
    exact List.reverse_cons
  seen path := by
    refine (h.seen path).trans ?_
    simp

/-- A search keeps its account when it meets a file, whether it was seen before or not. -/
theorem step_file (h : Search.Holds t strategy met s) (root path : Path) :
    Search.Holds t strategy (met ++ [(root, .file path)])
      (s.step t strategy root (.file path)) := by
  have hskips : (met ++ [(root, Meeting.file path)]).filterMap
      (fun entry => entry.2.skip? entry.1) = met.filterMap fun entry => entry.2.skip? entry.1 := by
    simp [Meeting.skip?]
  have hseen : ∀ other, (∃ above file, (above, .file file) ∈ met ++ [(root, .file path)] ∧
      listedPath t file = other) ↔ other ∈ s.seen ∨ other = listedPath t path := by
    intro other
    rw [h.seen]
    constructor
    · rintro ⟨above, file, hmem, rfl⟩
      rcases List.mem_append.mp hmem with hold | hnew
      · exact .inl ⟨above, file, hold, rfl⟩
      · obtain ⟨rfl, rfl⟩ : above = root ∧ file = path := by simpa using hnew
        exact .inr rfl
    · rintro (⟨above, file, hold, rfl⟩ | rfl)
      · exact ⟨above, file, List.mem_append_left _ hold, rfl⟩
      · exact ⟨root, path, List.mem_append_right met List.mem_cons_self, rfl⟩
  have hdocuments : (met ++ [(root, Meeting.file path)]).filterMap (·.2.document? t strategy) =
      met.filterMap (·.2.document? t strategy) ++
        (Document.ofPath? (listedPath t path) strategy).toList := by
    rw [List.filterMap_append]
    congr 1
  have hstep : s.step t strategy root (.file path) =
      if s.seen.contains (listedPath t path) then s
      else { s with
        seen := listedPath t path :: s.seen
        documents := (Document.ofPath? (listedPath t path) strategy).toList ++ s.documents } := rfl
  rw [hstep]
  -- if the path is new, so is the document
  by_cases hold : listedPath t path ∈ s.seen
  · rw [if_pos (List.contains_iff_mem.mpr hold)]
    refine ⟨?_, h.skips.trans hskips.symm, fun other => ?_⟩
    · rw [h.documents, hdocuments]
      cases hdocument : Document.ofPath? (listedPath t path) strategy with
      | none => rw [Option.toList_none, List.append_nil]
      | some document =>
          exact (eraseDups_concat_of_mem ((h.mem_documents_iff hdocument).mpr hold)).symm
    · rw [hseen]
      exact ⟨.inl, fun hother => hother.elim id fun heq => heq ▸ hold⟩
  · rw [if_neg (mt List.contains_iff_mem.mp hold)]
    refine ⟨?_, h.skips.trans hskips.symm, fun other => ?_⟩
    · rw [List.reverse_append, h.documents, hdocuments]
      cases hdocument : Document.ofPath? (listedPath t path) strategy with
      | none => rw [Option.toList_none, List.reverse_nil, List.append_nil, List.append_nil]
      | some document =>
          exact (eraseDups_concat_of_not_mem (mt (h.mem_documents_iff hdocument).mp hold)).symm
    · rw [hseen, List.mem_cons, or_comm]

theorem step (h : Search.Holds t strategy met s) (root : Path) (meeting : Meeting) :
    Search.Holds t strategy (met ++ [(root, meeting)]) (s.step t strategy root meeting) := by
  cases meeting with
  | file path => exact h.step_file root path
  | skipped reason => exact h.step_skipped root reason

/-- A search keeps its account of all that it meets. -/
theorem run (h : Search.Holds t strategy met s) (more : List (Path × Meeting)) :
    Search.Holds t strategy (met ++ more)
      (more.foldl (fun s entry => s.step t strategy entry.1 entry.2) s) := by
  induction more generalizing met s with
  | nil => rwa [List.append_nil]
  | cons entry rest ih =>
      have hrest := ih (h.step entry.1 entry.2)
      rwa [List.append_assoc] at hrest

end Search.Holds

/-! ## Several roots -/

/-- What is met below some roots, each entry with its root. -/
def metBelow (t : FileTree) (follow : Bool) (roots : List Path) : List (Path × Meeting) :=
  roots.flatMap fun root => (walk t follow root).map (root, ·)

/-- The documents below a root as they are met, those again that are met again. -/
def documentsMet (t : FileTree) (strategy : KeyStrategy) (follow : Bool) (root : Path) :
    List Document :=
  (walk t follow root).filterMap (·.document? t strategy)

/-- What is discovered is what the search over all roots has kept account of. -/
theorem holds_discover (t : FileTree) (strategy : KeyStrategy) (follow : Bool)
    (roots : List Path) :
    ∃ s, Search.Holds t strategy (metBelow t follow roots) s ∧
      discover t strategy follow roots = ⟨s.documents.reverse, s.skips.reverse⟩ := by
  refine ⟨_, Search.Holds.initial.run (metBelow t follow roots), ?_⟩
  rw [metBelow, List.foldl_flatMap]
  simp only [List.foldl_map]
  rfl

/-- The documents are those met below the roots, each at its first occurrence. -/
theorem documents_discover (t : FileTree) (strategy : KeyStrategy) (follow : Bool)
    (roots : List Path) :
    (discover t strategy follow roots).documents =
      (roots.flatMap (documentsMet t strategy follow)).eraseDups := by
  obtain ⟨s, hs, heq⟩ := holds_discover t strategy follow roots
  rw [heq, hs.documents, metBelow, List.filterMap_flatMap]
  simp only [List.filterMap_map]
  rfl

/-- What is skipped is what is skipped below each root. -/
theorem skips_discover (t : FileTree) (strategy : KeyStrategy) (follow : Bool)
    (roots : List Path) :
    (discover t strategy follow roots).skips =
      roots.flatMap fun root => (walk t follow root).filterMap (Meeting.skip? root) := by
  obtain ⟨s, hs, heq⟩ := holds_discover t strategy follow roots
  rw [heq, hs.skips, metBelow, List.filterMap_flatMap]
  simp only [List.filterMap_map]
  rfl

/-- A document is discovered exactly if it is met below one of the roots. -/
theorem mem_discover_iff {roots : List Path} {document : Document} :
    document ∈ (discover t strategy follow roots).documents ↔
      ∃ root ∈ roots, document ∈ documentsMet t strategy follow root := by
  rw [documents_discover, List.mem_eraseDups, List.mem_flatMap]

/-- A document follows from its path, which is that of a place. -/
theorem of_mem_documentsMet {root : Path} {document : Document}
    (h : document ∈ documentsMet t strategy follow root) :
    Document.ofPath? document.path strategy = some document ∧
      ∃ place : Place, document.path = place.toPath ∧
        (t.workingDirectory.IsProper → place.IsProper) := by
  obtain ⟨meeting, hmem, hdocument⟩ := List.mem_filterMap.mp h
  cases meeting with
  | skipped => cases hdocument
  | file path =>
      have hpath := path_of_ofPath? hdocument
      exact ⟨hpath ▸ hdocument, hpath ▸ exists_place_of_mem_walk hmem⟩

variable {roots : List Path}

/-- No two documents that are discovered share a path. -/
theorem eq_of_path_eq {d e : Document} (hd : d ∈ (discover t strategy follow roots).documents)
    (he : e ∈ (discover t strategy follow roots).documents) (h : d.path = e.path) : d = e := by
  obtain ⟨_, -, hdmet⟩ := mem_discover_iff.mp hd
  obtain ⟨_, -, hemet⟩ := mem_discover_iff.mp he
  have hpath := (of_mem_documentsMet hdmet).1
  rw [h, (of_mem_documentsMet hemet).1] at hpath
  exact (Option.some.inj hpath).symm

/-- No two documents that are discovered have paths of the same components. -/
theorem path_eq_of_components_eq (hproper : t.workingDirectory.IsProper) {d e : Document}
    (hd : d ∈ (discover t strategy follow roots).documents)
    (he : e ∈ (discover t strategy follow roots).documents)
    (h : d.path.components = e.path.components) : d.path = e.path := by
  obtain ⟨_, -, hdmet⟩ := mem_discover_iff.mp hd
  obtain ⟨_, -, hemet⟩ := mem_discover_iff.mp he
  obtain ⟨-, place, hplace, hdproper⟩ := of_mem_documentsMet hdmet
  obtain ⟨-, other, hother, heproper⟩ := of_mem_documentsMet hemet
  rw [hplace, hother] at h ⊢
  rw [FileTree.toPath_inj (hdproper hproper) (heproper hproper) h]

theorem nodup_documents (t : FileTree) (strategy : KeyStrategy) (follow : Bool)
    (roots : List Path) : (discover t strategy follow roots).documents.Nodup := by
  rw [documents_discover]
  exact nodup_eraseDups _

theorem mem_discover_singleton (t : FileTree) (strategy : KeyStrategy) (follow : Bool)
    (root : Path) {document : Document} :
    document ∈ (discover t strategy follow [root]).documents ↔
      document ∈ documentsMet t strategy follow root := by
  simp [mem_discover_iff]

/-- The documents below some roots have different paths, however these are spelled. They are those
below the single roots and listed in the order in which they are met first, so that roots in another
order, or named again, give the same documents with the same keys. What is skipped adds up. -/
theorem discover_roots (t : FileTree) (strategy : KeyStrategy) (follow : Bool)
    (roots : List Path) :
    ((discover t strategy follow roots).documents.map Document.path).Nodup ∧
      (t.workingDirectory.IsProper → (discover t strategy follow roots).documents.Pairwise
        fun d e => d.path.components ≠ e.path.components) ∧
      (∀ d, d ∈ (discover t strategy follow roots).documents ↔
        ∃ root ∈ roots, d ∈ (discover t strategy follow [root]).documents) ∧
      (∀ others, (∀ root, root ∈ roots ↔ root ∈ others) →
        (discover t strategy follow roots).documents.Perm
          (discover t strategy follow others).documents) ∧
      (discover t strategy follow roots).documents =
        (roots.flatMap (documentsMet t strategy follow)).eraseDups ∧
      (discover t strategy follow roots).skipped =
        (roots.map fun root => (discover t strategy follow [root]).skipped).sum := by
  have hnodup := nodup_documents t strategy follow roots
  refine ⟨?paths, ?spellings, ?union, ?order, documents_discover t strategy follow roots, ?skipped⟩
  case paths =>
    refine List.pairwise_map.mpr (hnodup.imp_of_mem fun hd he hne hpath => hne ?_)
    exact eq_of_path_eq hd he hpath
  case spellings =>
    intro hproper
    refine hnodup.imp_of_mem fun hd he hne hspelling => hne ?_
    exact eq_of_path_eq hd he (path_eq_of_components_eq hproper hd he hspelling)
  case union =>
    intro d
    rw [mem_discover_iff]
    simp only [mem_discover_singleton]
  case order =>
    intro others hsame
    refine (List.perm_ext_iff_of_nodup hnodup (nodup_documents ..)).mpr fun d => ?_
    rw [mem_discover_iff, mem_discover_iff]
    simp only [hsame]
  case skipped =>
    unfold skipped
    simp only [skips_discover, List.length_flatMap, List.flatMap_singleton]

/-- A tree with a directory of one source file and one page, and with a link to that directory. -/
def linkedTree : FileTree where
  entries := [([Utf8.encode "a".toList], .directory),
    ([Utf8.encode "a".toList, Utf8.encode "B.java".toList], .file []),
    ([Utf8.encode "a".toList, Utf8.encode "c.htm".toList], .file []),
    ([Utf8.encode "l".toList], .link (.ofString "a"))]

/-- The file, the directory by the link and by itself, and a root that is missing. -/
def linkedRoots : List Path :=
  [.ofString "/a/./c.htm", .ofString "/l", .ofString "/x", .ofString "/a"]

theorem linkedTree_discovered :
    linkedTree.workingDirectory.IsProper ∧
      (discover linkedTree .baseName true linkedRoots).documents =
        [⟨.ofString "/a/c.htm", .markup, "c"⟩, ⟨.ofString "/a/B.java", .structured, "B"⟩] ∧
      ((discover linkedTree .baseName true linkedRoots).documents.Pairwise
        fun d e => d.path.components ≠ e.path.components) ∧
      (discover linkedTree .baseName true linkedRoots).skipped = 1 ∧
      (linkedRoots.map fun root =>
        (discover linkedTree .baseName true [root]).skipped).sum = 1 := by
  have hproper : linkedTree.workingDirectory.IsProper := fun _ h => absurd h List.not_mem_nil
  have hdocuments : (discover linkedTree .baseName true linkedRoots).documents =
      [⟨.ofString "/a/c.htm", .markup, "c"⟩, ⟨.ofString "/a/B.java", .structured, "B"⟩] := by cbv
  have hskipped : (discover linkedTree .baseName true linkedRoots).skipped = 1 := by cbv
  obtain ⟨-, hspellings, -, -, -, hsum⟩ := discover_roots linkedTree .baseName true linkedRoots
  exact ⟨hproper, hdocuments, hspellings hproper, hskipped, hsum ▸ hskipped⟩

end DocSentences.Corpus
