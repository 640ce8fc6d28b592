import DocSentences.Document.Path

/-!
# Documents and their keys

A document is a file whose extension says that it holds documentation, together with the key under
which its sentences are listed. A key is the file's stem, or the dotted path from a root directory
down to that stem.
-/

namespace DocSentences

/-- What a document holds. -/
inductive Format
  /-- Source code, whose documentation stands in comments. -/
  | structured
  /-- A rendered page, whose documentation is found by a selector. -/
  | markup
  deriving DecidableEq, Repr, Hashable

namespace Format

/-- The name of a format. -/
def name : Format → String
  | structured => "structured"
  | markup => "markup"

/-- The ASCII letters in lower case; other characters stay. -/
def lowerAscii (c : Char) : Char := c.toLower

/-- The format that a file extension, in either case, stands for. -/
def ofExtension? (extension : String) : Option Format :=
  match String.ofList (extension.toList.map lowerAscii) with
  | "java" => some structured
  | "html" => some markup
  | "htm" => some markup
  | _ => none

/-- The format of the file that a path leads to. -/
def ofPath? (path : Path) : Option Format := do
  let extension ← path.extension?
  let text ← Utf8.decode? extension
  ofExtension? (String.ofList text)

end Format

/-- How the key of a document follows from its path. -/
inductive KeyStrategy
  /-- The stem of the file name. -/
  | baseName
  /-- The components below a root directory, joined by dots, the last one without its extension. -/
  | relativeTo (root : Path)
  deriving DecidableEq, Repr

namespace KeyStrategy

/-- The key that components below a root give: directories and stem with dots between them. -/
def dotted (below : List Path.Component) : String :=
  let directories := (below.dropLast.map Path.Component.display).filter (!·.isEmpty)
  let stem := String.ofList (Utf8.decodeLossy (Path.stemOf below))
  String.intercalate "." (directories ++ [stem])

/-- The key of a path. Outside the root, and for the root itself, it is the stem. -/
def keyFor (strategy : KeyStrategy) (path : Path) : String :=
  match strategy with
  | baseName => path.stem
  | relativeTo root =>
      match Path.stripComponents? root.components path.components with
      | some below => if (Path.nameOf below).isSome then dotted below else path.stem
      | none => path.stem

end KeyStrategy

/-- A file with documentation, and the key under which its sentences are listed. -/
structure Document where
  path : Path
  format : Format
  key : String
  deriving DecidableEq, Repr

namespace Document

/-- The document at a path, if its extension is known. -/
def ofPath? (path : Path) (strategy : KeyStrategy) : Option Document := do
  let format ← Format.ofPath? path
  some ⟨path, format, strategy.keyFor path⟩

/-- The file name without its extension: the name of the type that a source file is about. -/
def stem (document : Document) : String := document.path.stem

/-- The key of the n-th description of a document, counted from 1. -/
def fragmentKey (document : Document) (n : Nat) : String := s!"{document.key}#{n}"

end Document

end DocSentences
