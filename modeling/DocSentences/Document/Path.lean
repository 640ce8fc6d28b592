import DocSentences.Text.Utf8
import DocSentences.Text.Blank

/-!
# Paths

A path is a byte sequence that need not encode text. All that the rest of the library asks of a path
is a question about its *components*: repeated slashes, a trailing slash and a `.` that is not the
first component leave no trace there, so two spellings of one path have the same components.
-/

namespace DocSentences

/-- A file path, as the bytes it is written with. -/
structure Path where
  bytes : List UInt8
  deriving DecidableEq, Repr, Hashable, Inhabited

namespace Path

/-- One step of a path. -/
inductive Component
  /-- The slash at the start of an absolute path. -/
  | root
  /-- A `.` at the start of a relative path. -/
  | current
  | parent
  | normal (name : List UInt8)
  deriving DecidableEq, Repr, Hashable

/-- The byte `/`. -/
def slash : UInt8 := 0x2F

/-- The byte `.`. -/
def dot : UInt8 := 0x2E

/-- The path that a text spells. -/
def ofString (s : String) : Path := ⟨Utf8.encode s.toList⟩

/-- The text of a path, with replacement characters for bytes that encode none. -/
def display (path : Path) : String := String.ofList (Utf8.decodeLossy path.bytes)

/-- Whether the bytes of a path encode a text. -/
def isText (path : Path) : Bool := (Utf8.decode? path.bytes).isSome

/-- Whether a path starts at the root. -/
def isAbsolute (path : Path) : Bool := path.bytes.head? == some slash

/-- The component that a piece between slashes stands for; `isFirst` tells the piece at the start of
a relative path. -/
def Component.ofPiece? (isFirst : Bool) (piece : List UInt8) : Option Component :=
  if piece = [] then none
  else if piece = [dot] then if isFirst then some .current else none
  else if piece = [dot, dot] then some .parent
  else some (.normal piece)

/-- The components of a path. -/
def components (path : Path) : List Component :=
  match path.bytes.splitOnP (· == slash) with
  | [] => []
  | first :: rest =>
      (if path.isAbsolute then [Component.root] else (Component.ofPiece? true first).toList) ++
        rest.filterMap (Component.ofPiece? false)

/-- The bytes that a component is written with. -/
def Component.bytes : Component → List UInt8
  | .root => [slash]
  | .current => [dot]
  | .parent => [dot, dot]
  | .normal name => name

/-- The text of a component. -/
def Component.display (c : Component) : String := String.ofList (Utf8.decodeLossy c.bytes)

/-- The name that these components end in, if they end in a name. -/
def nameOf (components : List Component) : Option (List UInt8) :=
  match components.getLast? with
  | some (.normal name) => some name
  | _ => none

/-- The name of the file that a path leads to. -/
def fileName? (path : Path) : Option (List UInt8) := nameOf path.components

/-- Cuts a file name at its last dot, unless that dot begins the name. -/
def splitExtension (name : List UInt8) : List UInt8 × Option (List UInt8) :=
  let extension := (name.reverse.takeWhile (· != dot)).reverse
  let stem := (name.reverse.dropWhile (· != dot)).tail.reverse
  if stem = [] then (name, none) else (stem, some extension)

/-- The extension of the file that a path leads to. -/
def extension? (path : Path) : Option (List UInt8) := do
  let name ← path.fileName?
  (splitExtension name).2

/-- The file name without its extension, as bytes. -/
def stemOf (components : List Component) : List UInt8 :=
  match nameOf components with
  | some name => (splitExtension name).1
  | none => []

/-- The file name without its extension; empty for a path that does not end in a name. -/
def stem (path : Path) : String :=
  String.ofList (Utf8.decodeLossy (stemOf path.components))

/-- What follows the given first components. -/
def stripComponents? : List Component → List Component → Option (List Component)
  | [], rest => some rest
  | _ :: _, [] => none
  | p :: prior, c :: rest => if p = c then stripComponents? prior rest else none

/-- Places a path relative to a directory; an absolute path stays as it is. -/
def join (base path : Path) : Path :=
  if path.isAbsolute then path
  else if base.bytes = [] || base.bytes.getLast? == some slash then ⟨base.bytes ++ path.bytes⟩
  else ⟨base.bytes ++ slash :: path.bytes⟩

/-- The path with the given components. -/
def ofComponents : List Component → Path
  | .root :: rest => ⟨slash :: ([slash].intercalate (rest.map Component.bytes))⟩
  | components => ⟨[slash].intercalate (components.map Component.bytes)⟩

/-- The path of the directory that the entry at a path stands in. -/
def parent? (path : Path) : Option Path :=
  match path.components with
  | [] | [.root] => none
  | components => some (ofComponents components.dropLast)

/-- A path and those of the directories around it, the nearest first; the empty path, for the
directory that relative paths start from, is left out. -/
def selfAndParents (path : Path) : List Path :=
  let components := path.components
  let shortened := (List.range components.length).map fun n =>
    ofComponents (components.take (components.length - n))
  if path.bytes.isEmpty then [] else path :: shortened.tail

/-- Rank of the kinds of component in the order of paths. -/
def Component.rank : Component → Nat
  | .root => 0
  | .current => 1
  | .parent => 2
  | .normal _ => 3

/-- Compares two byte sequences by the first byte in which they differ. -/
def compareBytes : List UInt8 → List UInt8 → Ordering
  | [], [] => .eq
  | [], _ :: _ => .lt
  | _ :: _, [] => .gt
  | a :: as, b :: bs => (compare a b).then (compareBytes as bs)

/-- Compares two components. -/
def Component.compare : Component → Component → Ordering
  | .normal a, .normal b => compareBytes a b
  | a, b => Ord.compare a.rank b.rank

/-- Compares two sequences of components. -/
def compareComponents : List Component → List Component → Ordering
  | [], [] => .eq
  | [], _ :: _ => .lt
  | _ :: _, [] => .gt
  | a :: as, b :: bs => (a.compare b).then (compareComponents as bs)

/-- The order of paths: component by component, so that spelling does not matter. -/
def compare (a b : Path) : Ordering := compareComponents a.components b.components

/-- Whether one path does not come after another. -/
def le (a b : Path) : Bool := (a.compare b).isLE

end Path

end DocSentences
