import DocSentences.Document.Path

/-!
# File trees

A tree of files, directories and links, as far as a run can see it. Entries are found by a *place*,
the names from the root down to them; a path leads to a place through the links on its way. What
cannot be found or written is an error of the system.
-/

namespace DocSentences

/-- What stands at a place. -/
inductive Entry
  | file (content : List UInt8)
  | directory
  | link (target : Path)
  deriving DecidableEq, Repr

/-- The names from the root of a tree down to an entry. -/
abbrev Place := List (List UInt8)

/-- A tree: its entries, apart from the root, and the directory that relative paths start from. -/
structure FileTree where
  entries : List (Place × Entry) := []
  workingDirectory : Place := []
  deriving DecidableEq, Repr

/-- Why the system does not do what it is asked to. -/
inductive SystemError
  | notFound
  | alreadyExists
  | notADirectory
  | isADirectory
  | nameTooLong
  | tooManyLinks
  deriving DecidableEq, Repr

/-- The words of the system for an error. -/
def SystemError.message : SystemError → String
  | notFound => "No such file or directory (os error 2)"
  | alreadyExists => "File exists (os error 17)"
  | notADirectory => "Not a directory (os error 20)"
  | isADirectory => "Is a directory (os error 21)"
  | nameTooLong => "File name too long (os error 36)"
  | tooManyLinks => "Too many levels of symbolic links (os error 40)"

/-- Where a path leads: to an entry, or to a free place in a directory. -/
inductive Target
  | found (place : Place) (entry : Entry)
  /-- `slash` tells whether the path asks for a directory there. -/
  | free (place : Place) (slash : Bool)
  deriving DecidableEq, Repr

/-- The path of a place. -/
def Place.toPath (place : Place) : Path :=
  if place.isEmpty then ⟨[Path.slash]⟩ else ⟨place.flatMap (Path.slash :: ·)⟩

namespace FileTree

/-- The entry at a place. -/
def entry? (t : FileTree) (place : Place) : Option Entry :=
  if place.isEmpty then some .directory else t.entries.lookup place

/-- Puts an entry at a place, instead of the one that may be there. -/
def put (t : FileTree) (place : Place) (entry : Entry) : FileTree :=
  { t with entries :=
      if (t.entries.lookup place).isSome then
        t.entries.map fun (other, old) => (other, if other = place then entry else old)
      else t.entries ++ [(place, entry)] }

/-- The names of the entries of a directory. -/
def children (t : FileTree) (place : Place) : List (List UInt8) :=
  t.entries.filterMap fun (other, _) =>
    if other.dropLast = place then other.getLast? else none

/-- The steps that a path asks for. A slash at the end asks for a step to the directory itself. -/
def steps (path : Path) : List (List UInt8) :=
  let pieces := (path.bytes.splitOnP (· == Path.slash)).filter (!·.isEmpty)
  if path.bytes.getLast? = some Path.slash then pieces ++ [[Path.dot]] else pieces

/-- The place that a path starts from, read in a directory. -/
def startOf (directory : Place) (path : Path) : Place :=
  if path.isAbsolute then [] else directory

/-- How many links are followed at most. -/
def linkLimit : Nat := 40

/-- The length of a name in bytes is at most this. -/
def nameLimit : Nat := 255

/-- Goes from a directory along some steps, following links; the last one only if `follow`
is set. -/
def walk (t : FileTree) (follow : Bool) (links : Nat) (place : Place) (path : List (List UInt8)) :
    Except SystemError Target :=
  match path with
  | [] => .ok (.found place .directory)
  | name :: rest =>
      if name = [Path.dot] then walk t follow links place rest
      else if name = [Path.dot, Path.dot] then walk t follow links place.dropLast rest
      else if nameLimit < name.length then .error .nameTooLong
      else
        let next := place ++ [name]
        match t.entry? next with
        | none =>
            if rest.isEmpty then .ok (.free next false)
            else if rest = [[Path.dot]] then .ok (.free next true)
            else .error .notFound
        | some .directory => walk t follow links next rest
        | some (.file content) =>
            if rest.isEmpty then .ok (.found next (.file content)) else .error .notADirectory
        | some (.link target) =>
            if rest.isEmpty && !follow then .ok (.found next (.link target))
            else match links with
              | 0 => .error .tooManyLinks
              | left + 1 =>
                  if target.bytes.isEmpty then .error .notFound
                  else walk t follow left (startOf place target) (steps target ++ rest)
termination_by (links, path.length)

/-- Where a path leads. -/
def resolve (t : FileTree) (follow : Bool) (path : Path) : Except SystemError Target :=
  if path.bytes.isEmpty then .error .notFound
  else walk t follow linkLimit (startOf t.workingDirectory path) (steps path)

/-- The entry that a path leads to. -/
def find (t : FileTree) (follow : Bool) (path : Path) : Except SystemError (Place × Entry) :=
  match resolve t follow path with
  | .ok (.found place entry) => .ok (place, entry)
  | .ok (.free _ _) => .error .notFound
  | .error error => .error error

/-- The path of the entry that a path leads to, without links. -/
def canonical (t : FileTree) (path : Path) : Except SystemError Path :=
  (t.find true path).map (·.1.toPath)

/-- Whether a path leads to an entry. -/
def exists? (t : FileTree) (path : Path) : Bool :=
  match t.find true path with
  | .ok _ => true
  | .error _ => false

/-- Whether a path leads to a file. -/
def isFile (t : FileTree) (path : Path) : Bool :=
  match t.find true path with
  | .ok (_, .file _) => true
  | _ => false

/-- Whether a path leads to a directory. -/
def isDirectory (t : FileTree) (path : Path) : Bool :=
  match t.find true path with
  | .ok (_, .directory) => true
  | _ => false

/-- The content of the file that a path leads to. -/
def read (t : FileTree) (path : Path) : Except SystemError (List UInt8) :=
  match t.find true path with
  | .ok (_, .file content) => .ok content
  | .ok _ => .error .isADirectory
  | .error error => .error error

/-- The place of the file that a path leads to, or that can be made there. -/
def filePlace (t : FileTree) (path : Path) : Except SystemError Place :=
  match resolve t true path with
  | .ok (.found place (.file _)) => .ok place
  | .ok (.free place false) => .ok place
  | .ok _ => .error .isADirectory
  | .error error => .error error

/-- Gives a file a content, and makes it if there is none. -/
def write (t : FileTree) (path : Path) (content : List UInt8) : Except SystemError FileTree :=
  (t.filePlace path).map (t.put · (.file content))

/-- Makes a link. -/
def makeLink (t : FileTree) (path target : Path) : Except SystemError FileTree :=
  match resolve t false path with
  | .ok (.free place false) => .ok (t.put place (.link target))
  | .ok (.free _ true) => .error .notFound
  | .ok _ => .error .alreadyExists
  | .error error => .error error

/-- Makes a directory. -/
def makeDirectory (t : FileTree) (path : Path) : Except SystemError FileTree :=
  match resolve t false path with
  | .ok (.free place _) => .ok (t.put place .directory)
  | .ok _ => .error .alreadyExists
  | .error error => .error error

/-- Makes a directory and those it has to stand in, given the paths from the directory upwards. What
has been made stays when something cannot be made. -/
def makeDirectoriesUp (t : FileTree) : List Path → Except (SystemError × FileTree) FileTree
  | [] => .ok t
  | path :: parents =>
      match t.makeDirectory path with
      | .ok t => .ok t
      | .error .notFound =>
          match makeDirectoriesUp t parents with
          | .error failed => .error failed
          | .ok t =>
              match t.makeDirectory path with
              | .ok t => .ok t
              | .error error => if t.isDirectory path then .ok t else .error (error, t)
      | .error error => if t.isDirectory path then .ok t else .error (error, t)

/-- Makes a directory and those it has to stand in, as far as they are missing. -/
def makeDirectories (t : FileTree) (path : Path) : Except (SystemError × FileTree) FileTree :=
  t.makeDirectoriesUp path.selfAndParents

end FileTree

end DocSentences
