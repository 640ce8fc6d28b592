import DocSentences.Text.Blank
import DocSentences.Text.Letters

/-!
# Sanitized sentences

What is written for a sentence: its letters, digits and plain spaces, without spaces at the ends,
and only if at least two characters are left.
-/

namespace DocSentences.Sentence

/-- Whether a character stays in a written sentence. -/
def isKept (c : Char) : Bool :=
  Text.isAlphanumeric c || c = ' '

/-- The characters of a sentence that stay. -/
def sanitize (s : List Char) : List Char :=
  s.filter isKept

/-- Whether enough is left of a sentence to be written. -/
def isEmittable (s : List Char) : Bool :=
  2 ≤ (Text.trim s).length

/-- The text written for a sentence, if any. -/
def emitted? (s : List Char) : Option (List Char) :=
  let kept := Text.trim (sanitize s)
  if isEmittable kept then some kept else none

end DocSentences.Sentence
