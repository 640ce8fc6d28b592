import DocSentences.Markup.PlainText
import DocSentences.Selector.Reading
import DocSentences.Toml.Reading
import DocSentences.Toml.Writing

/-!
# Settings of an extraction

What may be chosen about an extraction, and which choices make no sense: a placeholder has to stay
one word through every later step, and a single character is no sentence.
-/

namespace DocSentences.Extraction

/-- The choices that an extraction depends on. -/
structure Settings where
  /-- What stands for a code block. -/
  placeholder : String := "code-example"
  /-- Whether a paragraph ends a sentence. -/
  paragraphBreaks : Bool := true
  /-- The least length of a sentence. -/
  minSentenceChars : Nat := 2
  /-- Which elements of a page hold a description. -/
  descriptionSelector : String :=
    "div.description div.block, section.class-description div.block, #class-description div.block"
  /-- Whether each description of a page has a key of its own. -/
  fragmentKeys : Bool := false
  deriving DecidableEq, Repr, Inhabited

/-- Why some settings are refused. -/
inductive Fault
  | emptyPlaceholder
  /-- Blank characters would cut the placeholder into several words. -/
  | placeholderOfWords
  /-- The placeholder would be read as markup. -/
  | placeholderOfMarkup
  | sentencesTooShort
  | badSelector (text : String) (cause : Selector.Cause)
  deriving DecidableEq, Repr

/-- What is wrong with some settings, in words. -/
def Fault.message : Fault → String
  | .emptyPlaceholder => "placeholder must not be empty"
  | .placeholderOfWords => "placeholder must be a single token"
  | .placeholderOfMarkup => "placeholder must not contain '<' or '&'"
  | .sentencesTooShort => "min_sentence_chars must be at least 2"
  | .badSelector text cause => s!"invalid description_selector '{text}': {cause.message}"

namespace Settings

/-- The style in which markup is turned into plain text. -/
def style (s : Settings) : Markup.PlainStyle := ⟨s.placeholder.toList, s.paragraphBreaks⟩

/-- The first reason to refuse some settings, if there is one. -/
def fault? (s : Settings) : Option Fault :=
  if Text.isBlankText s.placeholder.toList then some .emptyPlaceholder
  else if s.placeholder.toList.any Text.isBlank then some .placeholderOfWords
  else if s.placeholder.toList.any Markup.isMarkupChar then some .placeholderOfMarkup
  else if s.minSentenceChars < 2 then some .sentencesTooShort
  else match Selector.read s.descriptionSelector.toList with
    | .ok _ => none
    | .error cause => some (.badSelector s.descriptionSelector cause)

/-- The settings by name, in the order in which they are written. -/
def toFields (s : Settings) : List (String × Toml.Scalar) :=
  [("placeholder", .string s.placeholder), ("paragraph_breaks", .boolean s.paragraphBreaks),
    ("min_sentence_chars", .integer s.minSentenceChars),
    ("description_selector", .string s.descriptionSelector),
    ("fragment_keys", .boolean s.fragmentKeys)]

/-- Reads settings; those that are not given keep their defaults. -/
def ofValue? (value : Toml.Value) : Option Settings := do
  let field ← value.fields?
  let default : Settings := {}
  return {
    placeholder := ← Toml.Value.fieldOr? (field 0 "placeholder") (·.string?) default.placeholder
    paragraphBreaks :=
      ← Toml.Value.fieldOr? (field 1 "paragraph_breaks") (·.boolean?) default.paragraphBreaks
    minSentenceChars :=
      ← Toml.Value.fieldOr? (field 2 "min_sentence_chars") (·.natural?) default.minSentenceChars
    descriptionSelector :=
      ← Toml.Value.fieldOr? (field 3 "description_selector") (·.string?)
        default.descriptionSelector
    fragmentKeys :=
      ← Toml.Value.fieldOr? (field 4 "fragment_keys") (·.boolean?) default.fragmentKeys }

/-- The text of a file with nothing but these settings. -/
def text? (s : Settings) : Option (List Char) := Toml.writeFields? s.toFields

/-- Reads the text of a file with nothing but such settings. -/
def ofText? (text : List Char) : Option Settings := (Toml.read text).bind ofValue?

end Settings

end DocSentences.Extraction
