/-!
# Blank characters, words and trimming

Blank characters are those with the White_Space property. A text is seen here as the list of its
words, the maximal runs of characters that are not blank; `collapse` writes the words with one space
between them, which is the canonical spelling of a text up to blank characters.
-/

namespace DocSentences.Text

/-- The White_Space property. -/
def isBlank (c : Char) : Bool :=
  let code := c.toNat
  (0x09 ≤ code && code ≤ 0x0D) || code == 0x20 || code == 0x85 || code == 0xA0 ||
    code == 0x1680 || (0x2000 ≤ code && code ≤ 0x200A) || code == 0x2028 || code == 0x2029 ||
    code == 0x202F || code == 0x205F || code == 0x3000

/-- Drops the blank characters at the start. -/
def trimStart (s : List Char) : List Char :=
  s.dropWhile isBlank

/-- Drops the blank characters at the end. -/
def trimEnd (s : List Char) : List Char :=
  (s.reverse.dropWhile isBlank).reverse

/-- Drops the blank characters at both ends. -/
def trim (s : List Char) : List Char :=
  trimEnd (trimStart s)

/-- Whether every character is blank. -/
def isBlankText (s : List Char) : Bool :=
  s.all isBlank

/-- The maximal runs of characters that are not blank. -/
def words (s : List Char) : List (List Char) :=
  (s.splitOnP isBlank).filter (!·.isEmpty)

/-- Writes parts one after the other with a separator between neighbours. -/
def joinWith (separator : List Char) : List (List Char) → List Char
  | [] => []
  | [part] => part
  | part :: next :: rest => part ++ separator ++ joinWith separator (next :: rest)

/-- The words of a text with a single space between neighbours. -/
def collapse (s : List Char) : List Char :=
  joinWith [' '] (words s)

end DocSentences.Text
