/-!
# Lines

A line ends with a line feed, or with a carriage return and a line feed. A carriage return that no
line feed follows belongs to its line, and a text that ends with a line end has no empty last line.
-/

namespace DocSentences.Text

/-- The lines of a text, without their ends. -/
def lines : List Char → List (List Char)
  | [] => []
  | '\n' :: rest => [] :: lines rest
  | '\r' :: '\n' :: rest => [] :: lines rest
  | c :: rest =>
      match lines rest with
      | [] => [[c]]
      | line :: more => (c :: line) :: more

end DocSentences.Text
