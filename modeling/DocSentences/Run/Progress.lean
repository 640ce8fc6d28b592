/-!
# Progress of a run

A run tells how far it has come, and a bar shows it. The bar does not know its length until the
number of documents is known; at the end it is full.
-/

namespace DocSentences.Run

/-- What a run tells about its progress. -/
inductive Progress
  | total (documents : Nat)
  | message (text : String)
  /-- One more document has ended. -/
  | step
  | finish
  deriving DecidableEq, Repr

/-- A bar that shows the progress of a run. -/
structure Bar where
  position : Nat := 0
  length : Option Nat := none
  deriving DecidableEq, Repr

/-- The bar once it has been told something. -/
def Bar.update (b : Bar) : Progress → Bar
  | .total documents => { b with length := some documents }
  | .message _ => b
  | .step => { b with position := b.position + 1 }
  | .finish => { b with position := b.length.getD b.position }

end DocSentences.Run
