/-!
# Tables of code points

A character property is kept as a sorted table of code point ranges. Looking a character up bisects
the table, so a property of thousands of characters costs about ten comparisons.
-/

namespace DocSentences

/-- A set of code points: sorted inclusive ranges, and sorted ranges of which every second point,
starting with the first, belongs to the set. -/
structure CodePoints where
  ranges : Array (Nat × Nat)
  alternating : Array (Nat × Nat) := #[]

namespace CodePoints

/-- The range that holds `code`, among those with an index from `low` up to but not including
`high`; `fuel` bounds the number of halvings. -/
def bisect (table : Array (Nat × Nat)) (code : Nat) : Nat → Nat → Nat → Option (Nat × Nat)
  | 0, _, _ => none
  | fuel + 1, low, high =>
      if low < high then
        let middle := (low + high) / 2
        match table[middle]? with
        | none => none
        | some (first, last) =>
            if code < first then bisect table code fuel low middle
            else if last < code then bisect table code fuel (middle + 1) high
            else some (first, last)
      else none

/-- The range of a sorted table that holds `code`. -/
def find? (table : Array (Nat × Nat)) (code : Nat) : Option (Nat × Nat) :=
  bisect table code table.size 0 table.size

/-- Whether a character belongs to the set. -/
def contains (set : CodePoints) (c : Char) : Bool :=
  (find? set.ranges c.toNat).isSome ||
    match find? set.alternating c.toNat with
    | some (first, _) => (c.toNat - first) % 2 == 0
    | none => false

end CodePoints

end DocSentences
