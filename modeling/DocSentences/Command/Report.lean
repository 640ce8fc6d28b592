import DocSentences.Command.Configuration
import DocSentences.Run.Tally

/-!
# Reports

What a command shows: the summary of a run as a table, as JSON or as nothing but the path of the
output, and messages of success and warning, which may be colored.
-/

namespace DocSentences.Command

/-- How reports are shown. -/
structure Report where
  format : SummaryFormat
  color : Bool
  deriving DecidableEq, Repr

/-- The colors of messages. -/
inductive Color
  | green
  | yellow
  deriving DecidableEq, Repr

/-- What makes a terminal change its color. -/
def Color.code : Color → String
  | green => "\x1b[32m"
  | yellow => "\x1b[33m"

/-- What makes a terminal show its own color again. -/
def resetCode : String := "\x1b[0m"

/-- A text in a color. After a reset inside the text the color is set again. -/
def Color.paint (c : Color) (text : String) : String :=
  let inner := String.intercalate (resetCode ++ c.code) (text.splitOn resetCode)
  c.code ++ inner ++ resetCode

/-- A character of a JSON string, with the escape it needs. -/
def jsonChar (c : Char) : List Char :=
  if c = '"' then ['\\', '"']
  else if c = '\\' then ['\\', '\\']
  else if c = '\x08' then ['\\', 'b']
  else if c = '\t' then ['\\', 't']
  else if c = '\n' then ['\\', 'n']
  else if c = '\x0C' then ['\\', 'f']
  else if c = '\r' then ['\\', 'r']
  else if c < ' ' then
    ['\\', 'u', '0', '0', Nat.digitChar (c.toNat / 0x10), Nat.digitChar (c.toNat % 0x10)]
  else [c]

/-- A JSON string. -/
def jsonString (text : String) : String :=
  String.ofList ('"' :: text.toList.flatMap jsonChar ++ ['"'])

/-- The lines of a table with two columns, the second of which is aligned to the right. A line is
drawn below the first row. -/
def tableLines (rows : List (String × String)) : List String :=
  let widest (texts : List String) := (texts.map String.length).foldl max 0
  let left := widest (rows.map (·.1))
  let right := widest (rows.map (·.2))
  let bar (width : Nat) := String.ofList (List.replicate (width + 2) '─')
  let line (start middle stop : String) := start ++ bar left ++ middle ++ bar right ++ stop
  let spaces (n : Nat) := String.ofList (List.replicate n ' ')
  let row := fun (name, value) =>
    "│ " ++ name ++ spaces (left - name.length) ++ " │ " ++
      spaces (right - value.length) ++ value ++ " │"
  let shown := match rows.map row with
    | [] => []
    | first :: rest => first :: line "├" "┼" "┤" :: rest
  [line "╭" "┬" "╮"] ++ shown ++ [line "╰" "┴" "╯"]

namespace Report

/-- A message of success. -/
def success (r : Report) (message : String) : String :=
  let text := s!"✓ {message}"
  if r.color then Color.green.paint text else text

/-- A message of warning. -/
def warning (r : Report) (message : String) : String :=
  let text := s!"⚠ {message}"
  if r.color then Color.yellow.paint text else text

/-- The rows of the table that shows a summary. -/
def rows (s : Run.Summary) : List (String × String) :=
  [("Documents", toString s.total), ("Completed", toString s.completed),
    ("Failed", toString s.failed)] ++
  (if 0 < s.skipped then [("Skipped entries", toString s.skipped)] else []) ++
  [("Records", toString s.recordsWritten), ("Distinct keys", toString s.distinctKeys),
    ("Elapsed", Run.elapsedText s.elapsedMilliseconds)]

/-- The lines that show a summary as a table. -/
def table (r : Report) (s : Run.Summary) (output : String) : List String :=
  tableLines (rows s) ++
  (if s.failedPaths.isEmpty then []
    else r.warning s!"{s.failedPaths.length} document(s) could not be processed:" ::
      s.failedPaths.map fun path => s!"  {path.display}") ++
  [r.success s!"Wrote {s.recordsWritten} sentence(s) to {output}"]

/-- A JSON object with one field to a line; `indent` stands before the line that ends it. -/
def jsonObject (indent : String) (fields : List (String × String)) : String :=
  let line := fun (name, value) => indent ++ "  " ++ jsonString name ++ ": " ++ value
  "\x7b\n" ++ String.intercalate ",\n" (fields.map line) ++ "\n" ++ indent ++ "\x7d"

/-- A summary as JSON. -/
def json (s : Run.Summary) (output : String) : String :=
  let paths := s.failedPaths.map fun path => "      " ++ jsonString path.display
  let shown :=
    if paths.isEmpty then "[]" else "[\n" ++ String.intercalate ",\n" paths ++ "\n    ]"
  jsonObject "" [("output", jsonString output), ("summary", jsonObject "  "
    [("completed", toString s.completed), ("distinct_keys", toString s.distinctKeys),
      ("elapsed_ms", toString s.elapsedMilliseconds), ("failed", toString s.failed),
      ("failed_paths", shown), ("records_written", toString s.recordsWritten),
      ("skipped", toString s.skipped), ("total", toString s.total)])]

/-- Shows a summary. JSON breaks down over a path that is no text. -/
def summary (r : Report) (s : Run.Summary) (output : String) : Option String :=
  match r.format with
  | .quiet => some output
  | .table => some (String.intercalate "\n" (r.table s output))
  | .json => if s.failedPaths.all Path.isText then some (json s output) else none

end Report

end DocSentences.Command
