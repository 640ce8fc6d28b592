import DocSentences.FileTree.Basic

/-!
# Walking a file tree

What is met below a path: files, and entries that have to be skipped. Links are followed if that is
wanted, and a link that leads back to a directory which is being walked is skipped; the first path
may always be a link to a directory.
-/

namespace DocSentences.Corpus

/-- Why an entry is skipped. -/
inductive SkipReason
  | system (path : Path) (error : SystemError)
  /-- The entry leads back to a directory around it. -/
  | loop (ancestor path : Path)
  deriving DecidableEq, Repr

/-- Why an entry is skipped, in words. -/
def SkipReason.message : SkipReason → String
  | system path error => s!"IO error for operation on {path.display}: {error.message}"
  | loop ancestor path =>
      s!"File system loop found: {path.display} points to an ancestor {ancestor.display}"

/-- What is met on a walk. -/
inductive Meeting
  | file (path : Path)
  | skipped (reason : SkipReason)
  deriving DecidableEq, Repr

/-- The directories around an entry: their places, and the paths on which they were reached. -/
abbrev Ancestors := List (Place × Path)

mutual

/-- What is met at a path and below it. -/
def walkPath (t : FileTree) (follow isFirst : Bool) (around : Ancestors) :
    Nat → Path → List Meeting
  | 0, _ => []
  | fuel + 1, path =>
      match t.find false path with
      | .error error => [.skipped (.system path error)]
      | .ok (_, .file _) => [.file path]
      | .ok (place, .directory) =>
          walkAll t follow ((place, path) :: around) fuel path (t.children place)
      | .ok (_, .link _) =>
          if follow || isFirst then
            match t.find true path with
            | .error error => [.skipped (.system path error)]
            | .ok (place, .directory) =>
                match if follow then around.find? (·.1 = place) else none with
                | some ancestor => [.skipped (.loop ancestor.2 path)]
                | none => walkAll t follow ((place, path) :: around) fuel path (t.children place)
            | .ok (_, .file _) => if follow then [.file path] else []
            | .ok (_, .link _) => []
          else []

/-- What is met at the entries of a directory and below them. -/
def walkAll (t : FileTree) (follow : Bool) (around : Ancestors) :
    Nat → Path → List (List UInt8) → List Meeting
  | 0, _, _ => []
  | _ + 1, _, [] => []
  | fuel + 1, path, name :: rest =>
      walkPath t follow false around fuel (path.join ⟨name⟩) ++
        walkAll t follow around fuel path rest

end

/-- What is met below a path. A directory is entered only once on each way down, so a way down has
no more directories than the tree has entries, and each costs one step for every entry it has. -/
def walk (t : FileTree) (follow : Bool) (root : Path) : List Meeting :=
  walkPath t follow true [] (3 * (t.entries.length + 2) * (t.entries.length + 2)) root

end DocSentences.Corpus
