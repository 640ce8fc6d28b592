import DocSentences.Corpus.Walk
import DocSentences.Document.Basic

/-!
# Corpora

The documents of a run. A corpus is found by walking from several roots; a file that is reached more
than once is listed once, by its path without links, and entries that cannot be read are counted.
-/

namespace DocSentences

/-- An entry that was skipped below a root. -/
structure Skip where
  root : Path
  reason : Corpus.SkipReason
  deriving DecidableEq, Repr

/-- The documents of a run, and what was skipped while they were found. -/
structure Corpus where
  documents : List Document := []
  skips : List Skip := []
  deriving DecidableEq, Repr

namespace Corpus

/-- A corpus while it is found: the documents and the skipped entries, the latest first, and the
paths of the files met. -/
structure Search where
  documents : List Document := []
  skips : List Skip := []
  seen : List Path := []

/-- Takes note of what is met below a root. -/
def Search.step (t : FileTree) (strategy : KeyStrategy) (root : Path) (s : Search) :
    Meeting → Search
  | .skipped reason => { s with skips := ⟨root, reason⟩ :: s.skips }
  | .file path =>
      let path := match t.canonical path with
        | .ok path => path
        | .error _ => path
      if s.seen.contains path then s
      else
        { s with
          seen := path :: s.seen
          documents := (Document.ofPath? path strategy).toList ++ s.documents }

/-- The documents at or below some roots. -/
def discover (t : FileTree) (strategy : KeyStrategy) (follow : Bool) (roots : List Path) : Corpus :=
  let found := roots.foldl
    (fun s root => (walk t follow root).foldl (Search.step t strategy root) s)
    ({} : Search)
  ⟨found.documents.reverse, found.skips.reverse⟩

/-- The corpus of documents that are known already. -/
def ofDocuments (documents : List Document) : Corpus := ⟨documents, []⟩

/-- The number of entries that were skipped. -/
def skipped (c : Corpus) : Nat := c.skips.length

end Corpus

end DocSentences
