import DocSentences.Sentence.BreakClass

/-!
# Sentence boundaries

The default sentence boundary rules of Unicode, in one pass over the text. The pass remembers what
it has read as a window of the last four *parts*, where a run of closing marks, and a run of spaces,
is one part and attached characters are none. Every rule but one looks at the window and at the next
character; rule SB8 also looks ahead for a lower case letter.
-/

namespace DocSentences.Sentence

/-- What one part of the text before a position is. -/
inductive Part
  | start
  | carriageReturn
  | lineFeed
  | separator
  | ambiguousStop
  | stop
  /-- A letter of either case. -/
  | cased
  /-- One or more closing marks. -/
  | closing
  /-- One or more spaces. -/
  | spaces
  | other
  deriving DecidableEq, Repr

/-- The part that a character of this class begins. -/
def BreakClass.part : BreakClass → Part
  | .carriageReturn => .carriageReturn
  | .lineFeed => .lineFeed
  | .separator => .separator
  | .ambiguousStop => .ambiguousStop
  | .stop => .stop
  | .lower => .cased
  | .upper => .cased
  | .closing => .closing
  | .space => .spaces
  | _ => .other

/-- The last four parts before a position, the nearest first. -/
structure Window where
  last : Part
  second : Part
  third : Part
  fourth : Part
  deriving DecidableEq, Repr

namespace Window

/-- The window at the start of a text. -/
def start : Window := ⟨.start, .start, .start, .start⟩

/-- The window after one more character. A closing mark after closing marks, and a space after
spaces, belongs to the part that is already there. -/
def push (w : Window) (cls : BreakClass) : Window :=
  if (w.last = .closing ∧ cls = .closing) ∨ (w.last = .spaces ∧ cls = .space) then w
  else ⟨cls.part, w.last, w.second, w.third⟩

/-- The parts of the window, the nearest first. -/
def parts (w : Window) : List Part := [w.last, w.second, w.third, w.fourth]

/-- Drops a leading part of one kind, if there is one. -/
def dropPart (kind : Part) : List Part → List Part
  | part :: rest => if part = kind then rest else part :: rest
  | [] => []

/-- Whether the text ends in a paragraph separator. -/
def endsParagraph (w : Window) : Bool :=
  w.last = .separator || w.last = .carriageReturn || w.last = .lineFeed

/-- Whether the nearest of these parts is a stop of either kind. -/
def headIsStop : List Part → Bool
  | part :: _ => part = .stop || part = .ambiguousStop
  | [] => false

/-- Whether the text ends in a full stop, closing marks and spaces. -/
def afterAmbiguousStop (w : Window) : Bool :=
  (dropPart .closing (dropPart .spaces w.parts)).head? == some .ambiguousStop

/-- Whether the text ends in a stop and closing marks. -/
def afterStopClosed (w : Window) : Bool :=
  headIsStop (dropPart .closing w.parts)

/-- Whether the text ends in a stop, closing marks and spaces. -/
def afterStopSpaced (w : Window) : Bool :=
  headIsStop (dropPart .closing (dropPart .spaces w.parts))

/-- Whether the text ends in a stop, closing marks, spaces and at most one paragraph separator. -/
def afterSentence (w : Window) : Bool :=
  let before := if w.endsParagraph then w.parts.tail else w.parts
  headIsStop (dropPart .closing (dropPart .spaces before))

end Window

/-- Whether the first character ahead that is a letter, a stop or a paragraph separator is a lower
case letter. -/
def lowerAhead : List Char → Bool
  | [] => false
  | c :: rest =>
      match BreakClass.ofChar c with
      | .lower => true
      | .upper | .otherLetter | .separator | .carriageReturn | .lineFeed | .stop
      | .ambiguousStop => false
      | _ => lowerAhead rest

/-- How the rules decide about the position before a character. -/
inductive Verdict
  /-- A sentence ends before the character. -/
  | boundary
  /-- The character belongs to the sentence before it. -/
  | inside
  /-- The character belongs to the sentence before it and leaves no trace in the window. -/
  | attached
  deriving DecidableEq, Repr

/-- The first rule that applies before a character of class `cls`, where `ahead` is the text from
that character on. -/
def verdict (w : Window) (cls : BreakClass) (ahead : List Char) : Verdict :=
  -- at the start of the text
  if w.last = .start then .boundary
  -- around paragraph separators
  else if cls = .lineFeed ∧ w.last = .carriageReturn then .inside
  else if w.endsParagraph then .boundary
  else if cls = .extending then .attached
  -- after a full stop that may belong to a number, to initials or to an abbreviation
  else if cls = .numeric ∧ w.last = .ambiguousStop then .inside
  else if cls = .upper ∧ w.second = .cased ∧ w.last = .ambiguousStop then .inside
  else if w.afterAmbiguousStop && lowerAhead ahead then .inside
  -- within what ends a sentence
  else if cls ∈ [.continuing, .stop, .ambiguousStop] ∧ w.afterStopSpaced then .inside
  else if cls ∈ [.closing, .space, .separator, .carriageReturn, .lineFeed] ∧ w.afterStopClosed then
    .inside
  else if cls ∈ [.space, .separator, .carriageReturn, .lineFeed] ∧ w.afterStopSpaced then .inside
  -- everywhere else
  else if w.afterSentence then .boundary
  else .inside

/-- Cuts a text at its boundaries; the first piece continues the sentence that is open. -/
def cut (w : Window) : List Char → List (List Char)
  | [] => [[]]
  | c :: rest =>
      let cls := BreakClass.ofChar c
      let decided := verdict w cls (c :: rest)
      match decided, cut (if decided = .attached then w else w.push cls) rest with
      | .boundary, piece :: more => [] :: (c :: piece) :: more
      | _, piece :: more => (c :: piece) :: more
      | _, [] => [[c]]

/-- The sentences of a text; written one after the other they give the text back. -/
def split (s : List Char) : List (List Char) :=
  (cut .start s).tail

end DocSentences.Sentence
