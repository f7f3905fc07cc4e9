/-
**Lengths of time.**

A length of time is written in the largest of seconds, milli-, micro- and nanoseconds of which it
has a whole one, with no more decimal places than it needs.
-/

namespace DeclGraph

/-- A length of time in nanoseconds. -/
structure Duration where
  nanoseconds : Nat
  deriving DecidableEq, Repr, Inhabited

namespace Duration

/-- A length of time in milliseconds. -/
def ofMilliseconds (count : Nat) : Duration := ⟨count * 1000000⟩

/-- Seconds and nanoseconds together. -/
def ofParts (seconds nanoseconds : Nat) : Duration := ⟨seconds * 1000000000 + nanoseconds⟩

/-- The digits of a number, with zeros in front up to a width. -/
def padded (width n : Nat) : List Char :=
  let digits := Nat.toDigits 10 n
  List.replicate (width - digits.length) '0' ++ digits

/-- The decimal places of a fraction, without zeros at the end. -/
def places (width fraction : Nat) : List Char :=
  ((padded width fraction).reverse.dropWhile (· == '0')).reverse

/-- A count of units of `10 ^ width` nanoseconds. -/
def inUnits (width : Nat) (unit : String) (nanoseconds : Nat) : String :=
  let whole := toString (nanoseconds / Nat.pow 10 width)
  let places := places width (nanoseconds % Nat.pow 10 width)
  (if places.isEmpty then whole else whole ++ "." ++ String.ofList places) ++ unit

/-- A length of time as it is shown. -/
def text (duration : Duration) : String :=
  let n := duration.nanoseconds
  if 1000000000 ≤ n then inUnits 9 "s" n
  else if 1000000 ≤ n then inUnits 6 "ms" n
  else if 1000 ≤ n then inUnits 3 "µs" n
  else inUnits 0 "ns" n

end Duration

end DeclGraph
