/-!
# Values of a configuration file

What a file in the TOML format holds. Settings are made of strings, integers and truth values; the
other kinds of value can stand in a file, but no setting asks for them, so that only their spelling
is kept.
-/

namespace DocSentences.Toml

/-- A value that a setting may have. -/
inductive Scalar
  | string (text : String)
  | integer (n : Int)
  | boolean (b : Bool)
  deriving DecidableEq, Repr

/-- How a table came about, which decides what may still be added to it. -/
inductive Origin
  /-- By a header of its own. -/
  | header
  /-- By the header of a table inside it. -/
  | implied
  /-- By a key with dots. -/
  | dotted
  /-- Between braces; nothing can be added. -/
  | inline
  deriving DecidableEq, Repr

/-- A value in a file. -/
inductive Value
  | scalar (value : Scalar)
  | float (text : String)
  /-- A date, a time of day, or both. -/
  | moment (text : String)
  | array (items : List Value)
  | table (origin : Origin) (entries : List (String × Value))
  /-- Tables that were each begun by a header in double brackets. -/
  | tables (elements : List (List (String × Value)))
  deriving Repr, Inhabited

/-- The keys of a table with their values. -/
abbrev Entries := List (String × Value)

namespace Value

/-- The text of a string. -/
def string? : Value → Option String
  | scalar (.string text) => some text
  | _ => none

/-- An integer that is not negative. -/
def natural? : Value → Option Nat
  | scalar (.integer n) => if 0 ≤ n then some n.toNat else none
  | _ => none

/-- A truth value. -/
def boolean? : Value → Option Bool
  | scalar (.boolean b) => some b
  | _ => none

/-- The value of a field of a section. A section is written as a table with named fields, or as an
array of the fields in their order. -/
def fields? : Value → Option (Nat → String → Option Value)
  | table _ entries => some fun _ name => entries.lookup name
  | array items => some fun place _ => items[place]?
  | tables elements => some fun place _ => elements[place]?.map (table .header)
  | _ => none

/-- Reads a field of a section if it is given, and takes a default otherwise. -/
def fieldOr? {α : Type} (given : Option Value) (read : Value → Option α) (default : α) : Option α :=
  match given with
  | some value => read value
  | none => some default

/-- The name of a choice: a string, or the only key of a table with nothing behind it. -/
def choice? : Value → Option String
  | scalar (.string text) => some text
  | table _ [(name, content)] =>
      match content with
      | table _ [] | array [] | tables [] => some name
      | _ => none
  | _ => none

end Value

end DocSentences.Toml
