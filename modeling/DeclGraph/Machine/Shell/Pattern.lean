/-
**Patterns of names.**

A star stands for any text, a question mark for one character, and a bracket for one of the
characters in it or, after a `!`, for one that is not. A quoted character stands for itself.

* `Pattern.fits`: whether a text has the form of a pattern.
-/

namespace DeclGraph.Shell

/-- A part of a pattern. -/
inductive PatternPart where
  | char (c : Char)
  | one
  | any
  /-- a character of one of the ranges, or of none of them -/
  | among (inside : Bool) (ranges : List (Char × Char))
  deriving DecidableEq, Repr, Inhabited

/-- A pattern. -/
abbrev Pattern := List PatternPart

namespace Pattern

/-- The ranges up to a closing bracket, which does not close as the first character. -/
def rangesFrom (read : List (Char × Char)) :
    List (Char × Bool) → Option (List (Char × Char) × List (Char × Bool))
  | [] => none
  | (']', false) :: rest =>
    if read.isEmpty then rangesFrom [(']', ']')] rest else some (read.reverse, rest)
  | (low, _) :: ('-', false) :: (high, quoted) :: rest =>
    if high = ']' && !quoted then some ((('-', '-') :: (low, low) :: read).reverse, rest)
    else rangesFrom ((low, high) :: read) rest
  | (c, _) :: rest => rangesFrom ((c, c) :: read) rest

/-- The set behind an opening bracket. -/
def set? (chars : List (Char × Bool)) : Option (PatternPart × List (Char × Bool)) :=
  let (inside, chars) :=
    match chars with
    | ('!', false) :: rest => (false, rest)
    | chars => (true, chars)
  (rangesFrom [] chars).map fun (ranges, rest) => (.among inside ranges, rest)

/-- The pattern that characters spell; each comes with whether it is quoted. -/
def ofChars : Nat → List (Char × Bool) → Pattern
  | steps + 1, (c, quoted) :: rest =>
    if quoted then .char c :: ofChars steps rest
    else if c = '*' then .any :: ofChars steps rest
    else if c = '?' then .one :: ofChars steps rest
    else if c = '[' then
      match set? rest with
      | some (part, rest) => part :: ofChars steps rest
      | none => .char c :: ofChars steps rest
    else .char c :: ofChars steps rest
  | _, _ => []

/-- Whether a part other than a star stands for a character. -/
def partMatches (part : PatternPart) (c : Char) : Bool :=
  match part with
  | .char d => c == d
  | .one => true
  | .any => false
  | .among inside ranges => inside == ranges.any fun (low, high) => low ≤ c && c ≤ high

/-- Whether a test holds of some end of a list. -/
def anyEnd (test : List Char → Bool) : List Char → Bool
  | [] => test []
  | c :: rest => test (c :: rest) || anyEnd test rest

/-- Whether characters have the form of a pattern. -/
def matchesChars : Pattern → List Char → Bool
  | [], chars => chars.isEmpty
  | .any :: parts, chars => anyEnd (matchesChars parts) chars
  | part :: parts, chars =>
    match chars with
    | c :: rest => partMatches part c && matchesChars parts rest
    | [] => false

/-- Whether a text has the form of a pattern. -/
def fits (pattern : Pattern) (text : String) : Bool := matchesChars pattern text.toList

end Pattern

end DeclGraph.Shell
