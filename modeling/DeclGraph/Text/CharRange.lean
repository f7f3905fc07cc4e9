/-
**Ranges of characters.**

A property of characters given by ascending, disjoint ranges of code points, and its test by
bisection.
-/

namespace DeclGraph.Text

/-- Ascending, disjoint ranges of code points, each with its first and last member. -/
abbrev CharRanges := Array (Nat × Nat)

/-- Looks for a code point between two places of the ranges, halving the distance each time. -/
def CharRanges.search (ranges : CharRanges) (code : Nat) : Nat → Nat → Nat → Bool
  | 0, _, _ => false
  | steps + 1, low, high =>
    if high ≤ low then false
    else
      let middle := (low + high) / 2
      match ranges[middle]? with
      | none => false
      | some (first, last) =>
        if code < first then CharRanges.search ranges code steps low middle
        else if last < code then CharRanges.search ranges code steps (middle + 1) high
        else true

/-- Whether a character lies in one of the ranges. -/
def CharRanges.has (ranges : CharRanges) (c : Char) : Bool :=
  ranges.search c.toNat (ranges.size + 1) 0 ranges.size

end DeclGraph.Text
