/-
**Numerals.**

How many of the leading characters form a number. Digits may be grouped by single underscores, and
the longest numeral wins: a hexadecimal, octal or binary integer, a decimal integer with an
optional mark for long or imaginary numbers, or a number with a point or an exponent.

* `numeralLength`: the length of the longest numeral, zero if there is none.
-/

namespace DeclGraph.Syntax.Numeral

/-- The characters after a run of digits, each group of which may end in an underscore; nothing if
there is no digit. -/
def afterDigits? : List Char → Option (List Char)
  | [] => none
  | c :: rest =>
    if c.isDigit then
      match rest with
      | '_' :: rest => some ((afterDigits? rest).getD rest)
      | rest => some ((afterDigits? rest).getD rest)
    else none

/-- The characters after digits of a base, each group of which may begin with an underscore. -/
def afterBaseDigits? (isDigit : Char → Bool) : List Char → Option (List Char)
  | '_' :: c :: rest =>
    if isDigit c then some ((afterBaseDigits? isDigit rest).getD rest) else none
  | c :: rest => if isDigit c then some ((afterBaseDigits? isDigit rest).getD rest) else none
  | [] => none

/-- Whether a character is a hexadecimal digit. -/
def isHexDigit (c : Char) : Bool :=
  c.isDigit || ('a' ≤ c && c ≤ 'f') || ('A' ≤ c && c ≤ 'F')

/-- Whether a character is an octal digit. -/
def isOctalDigit (c : Char) : Bool := '0' ≤ c && c ≤ '7'

/-- Whether a character is a binary digit. -/
def isBinaryDigit (c : Char) : Bool := c = '0' || c = '1'

/-- The characters after the mark of a long integer, if there is one. -/
def dropLong : List Char → List Char
  | c :: rest => if c = 'l' || c = 'L' then rest else c :: rest
  | [] => []

/-- The characters after the mark of an imaginary number, if there is one. -/
def dropImaginary : List Char → List Char
  | c :: rest => if c = 'j' || c = 'J' then rest else c :: rest
  | [] => []

/-- The characters after a sign, if there is one. -/
def dropSign : List Char → List Char
  | c :: rest => if c = '+' || c = '-' then rest else c :: rest
  | [] => []

/-- The characters after an exponent. -/
def afterExponent? : List Char → Option (List Char)
  | c :: rest => if c = 'e' || c = 'E' then afterDigits? (dropSign rest) else none
  | [] => none

/-- The characters after the part of a number behind its point. -/
def afterFraction (chars : List Char) : List Char :=
  let rest := (afterDigits? chars).getD chars
  dropImaginary ((afterExponent? rest).getD rest)

/-- The characters after a decimal numeral that begins with a digit. -/
def afterDecimal? (chars : List Char) : Option (List Char) :=
  match afterDigits? chars with
  | none => none
  | some ('.' :: rest) => some (afterFraction rest)
  | some rest =>
    match afterExponent? rest with
    | some rest => some (dropImaginary rest)
    | none =>
      let long := dropLong rest
      some (if long.length < rest.length then long else dropImaginary rest)

/-- The digits that the letter of a base calls for. -/
def baseDigits? (letter : Char) : Option (Char → Bool) :=
  if letter = 'x' || letter = 'X' then some isHexDigit
  else if letter = 'o' || letter = 'O' then some isOctalDigit
  else if letter = 'b' || letter = 'B' then some isBinaryDigit
  else none

/-- The characters after an integer with the letter of its base. -/
def afterBased? : List Char → Option (List Char)
  | '0' :: letter :: rest =>
    (baseDigits? letter).bind fun isDigit => (afterBaseDigits? isDigit rest).map dropLong
  | _ => none

/-- The characters after the numeral that a text begins with. -/
def after? : List Char → Option (List Char)
  | '.' :: rest => (afterDigits? rest).map fun _ => afterFraction rest
  | chars => (afterBased? chars).or (afterDecimal? chars)

/-- Whether a character can occur in a numeral. -/
def isPart (c : Char) : Bool := c.isAlphanum || c = '_' || c = '.' || c = '+' || c = '-'

/-- The length of the numeral that a text begins with, zero if there is none. -/
def numeralLength (chars : List Char) : Nat :=
  let candidate := chars.takeWhile isPart
  match after? candidate with
  | some rest => candidate.length - rest.length
  | none => 0

end DeclGraph.Syntax.Numeral
