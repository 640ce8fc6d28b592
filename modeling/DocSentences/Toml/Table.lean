import DocSentences.Toml.Value

/-!
# Tables under construction

A file is a sequence of headers and assignments. Each adds to the tables so far at the place that a
path of keys leads to; no key gets a second value, and no table is begun twice.
-/

namespace DocSentences.Toml

namespace Entries

/-- Gives a key a value, in place of the one it may have. -/
def put (entries : Entries) (key : String) (value : Value) : Entries :=
  match entries with
  | [] => [(key, value)]
  | (other, old) :: rest =>
      if other = key then (key, value) :: rest else (other, old) :: put rest key value

/-- Whether a path may lead through a table: a header through all but those between braces, a dotted
key only through tables without a header, the last of which has to come from dotted keys too. -/
def mayEnter (dotted isLast : Bool) (origin : Origin) : Bool :=
  match origin with
  | .inline => false
  | .header => !dotted
  | .implied => !dotted || !isLast
  | .dotted => true

/-- Changes the table that a path leads to, beginning the tables on the way that are missing. Of
tables with a header in double brackets the last one is meant. -/
def within (dotted : Bool) (change : Entries → Option Entries) :
    List String → Entries → Option Entries
  | [], entries => change entries
  | key :: path, entries =>
      match entries.lookup key with
      | none => do
          let inner ← within dotted change path []
          return put entries key (.table (if dotted then .dotted else .implied) inner)
      | some (.table origin inner) =>
          if mayEnter dotted path.isEmpty origin then do
            return put entries key (.table origin (← within dotted change path inner))
          else none
      | some (.tables elements) =>
          if dotted && path.isEmpty then none
          else match elements.getLast? with
            | none => none
            | some last => do
                let inner ← within dotted change path last
                return put entries key (.tables (elements.dropLast ++ [inner]))
      | some _ => none

/-- Gives a value to a key that has none, at the end of a path of dotted keys. -/
def assign (entries : Entries) (path : List String) (key : String) (value : Value) :
    Option Entries :=
  within true (fun inner => match inner.lookup key with
    | none => some (inner ++ [(key, value)])
    | some _ => none) path entries

/-- Begins a table. -/
def begin (entries : Entries) (path : List String) (key : String) : Option Entries :=
  within false (fun inner => match inner.lookup key with
    | none => some (inner ++ [(key, .table .header [])])
    | some (.table .implied old) => some (put inner key (.table .header old))
    | some _ => none) path entries

/-- Begins one more of several tables. -/
def beginElement (entries : Entries) (path : List String) (key : String) : Option Entries :=
  within false (fun inner => match inner.lookup key with
    | none => some (inner ++ [(key, .tables [[]])])
    | some (.tables elements) => some (put inner key (.tables (elements ++ [[]])))
    | some _ => none) path entries

end Entries

end DocSentences.Toml
