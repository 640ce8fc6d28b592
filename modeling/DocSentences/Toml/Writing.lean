import DocSentences.Toml.Quoted
import DocSentences.Toml.Value

/-!
# Writing configuration files

Settings are written one to a line. Several groups of settings are written as tables with an empty
line between them.
-/

namespace DocSentences.Toml

/-- The greatest integer that can be written. -/
def maxInteger : Int := 9223372036854775807

/-- Writes a value. -/
def Scalar.write : Scalar → List Char
  | string text => writeString text.toList
  | integer n => (toString n).toList
  | boolean b => (toString b).toList

/-- Whether a value can be written. -/
def Scalar.isWritable : Scalar → Bool
  | integer n => n ≤ maxInteger
  | _ => true

/-- Settings, one to a line. -/
def fieldsText (fields : List (String × Scalar)) : List Char :=
  fields.flatMap fun (name, value) =>
    name.toList ++ [' ', '=', ' '] ++ value.write ++ ['\n']

/-- Groups of settings, each under its name. -/
def sectionsText : List (String × List (String × Scalar)) → List Char
  | [] => []
  | [(name, fields)] => '[' :: name.toList ++ [']', '\n'] ++ fieldsText fields
  | (name, fields) :: more =>
      '[' :: name.toList ++ [']', '\n'] ++ fieldsText fields ++ '\n' :: sectionsText more

/-- Writes settings, unless one of them cannot be written. -/
def writeFields? (fields : List (String × Scalar)) : Option (List Char) :=
  if fields.all (·.2.isWritable) then some (fieldsText fields) else none

/-- Writes groups of settings, unless one of the settings cannot be written. -/
def writeSections? (sections : List (String × List (String × Scalar))) : Option (List Char) :=
  if sections.all (·.2.all (·.2.isWritable)) then some (sectionsText sections) else none

end DocSentences.Toml
