import DocSentences.Sentence.Boundary

/-!
# Segmenters

A segmenter turns a normalized text into sentences. The default one follows the Unicode boundaries;
the other two cut at one fixed character and keep whatever lies between the cuts.
-/

namespace DocSentences

/-- A way to divide a text into sentences. -/
abbrev Segmenter := List Char → List (List Char)

namespace Segmenter

/-- Sentences by the Unicode boundaries, trimmed, without those shorter than `minChars`. -/
def unicode (minChars : Nat) : Segmenter := fun text =>
  ((Sentence.split text).map Text.trim).filter fun sentence =>
    !sentence.isEmpty && minChars ≤ sentence.length

/-- Everything between two occurrences of a character. -/
def between (c : Char) : Segmenter := fun text =>
  text.splitOnP (· == c)

end Segmenter

end DocSentences
