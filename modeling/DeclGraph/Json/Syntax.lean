/-
**Reading JSON text.**

The reader accepts exactly the texts of the JSON grammar and keeps what a later decoder may ask
for: repeated field names, the form of numbers, and strings whose escapes do not make up
characters (a surrogate without its partner). Such a string may be skipped but not read, so it
appears as `none`.

* `Syntax.ofText?`: the syntax of a text, or `none` if the text is not JSON.
-/

namespace DeclGraph.Json

/-- A number as it is written. -/
structure NumberText where
  negative : Bool
  /-- the digits before and after the point, read as one number -/
  digits : Nat
  /-- the power of ten that the digits are multiplied by -/
  exponent : Int
  /-- whether the number has neither point nor exponent -/
  integral : Bool
  deriving DecidableEq, Repr

/-- JSON text, taken apart. -/
inductive Syntax where
  | null
  | bool (value : Bool)
  | number (value : NumberText)
  | string (text : Option String)
  | array (items : List Syntax)
  | object (fields : List (Option String × Syntax))
  deriving Inhabited, Repr

/-! ### Blanks and numbers -/

/-- The blanks between tokens. -/
def isSpace (c : Char) : Bool := c = ' ' || c = '\n' || c = '\t' || c = '\r'

/-- The text after its leading blanks. -/
def skipSpace (chars : List Char) : List Char := chars.dropWhile isSpace

/-- The value of a list of decimal digits. -/
def decimal (digits : List Char) : Nat :=
  digits.foldl (fun value digit => value * 10 + (digit.toNat - 48)) 0

/-- The digits at the start of a text, and the rest. -/
def spanDigits (chars : List Char) : List Char × List Char := chars.span Char.isDigit

/-- The digits of the integer part: a zero alone, or digits that begin with another one. -/
def integerDigits? (chars : List Char) : Option (List Char × List Char) :=
  match spanDigits chars with
  | ([], _) => none
  | ('0' :: _ :: _, _) => none
  | (digits, rest) => some (digits, rest)

/-- The digits after a point, if there is one. -/
def fractionDigits? : List Char → Option (List Char × List Char)
  | '.' :: chars =>
    match spanDigits chars with
    | ([], _) => none
    | (digits, rest) => some (digits, rest)
  | chars => some ([], chars)

/-- The sign of an exponent, and the rest. -/
def exponentSign : List Char → Bool × List Char
  | '-' :: chars => (true, chars)
  | '+' :: chars => (false, chars)
  | chars => (false, chars)

/-- The exponent, if there is one. -/
def exponent? : List Char → Option (Option Int × List Char)
  | c :: chars =>
    if c = 'e' || c = 'E' then
      let (negative, chars) := exponentSign chars
      match spanDigits chars with
      | ([], _) => none
      | (digits, rest) =>
        let size : Int := decimal digits
        some (some (if negative then -size else size), rest)
    else some (none, c :: chars)
  | [] => some (none, [])

/-- The sign of a number, and the rest. -/
def numberSign : List Char → Bool × List Char
  | '-' :: chars => (true, chars)
  | chars => (false, chars)

/-- A number at the start of a text, and the rest. -/
def number? (chars : List Char) : Option (NumberText × List Char) := do
  let (negative, chars) := numberSign chars
  let (whole, chars) ← integerDigits? chars
  let (fraction, chars) ← fractionDigits? chars
  let (power, chars) ← exponent? chars
  return ({ negative
            digits := decimal (whole ++ fraction)
            exponent := power.getD 0 - fraction.length
            integral := fraction.isEmpty && power.isNone }, chars)

/-! ### Strings -/

/-- The value of a hexadecimal digit. -/
def hexValue? (c : Char) : Option Nat :=
  if '0' ≤ c && c ≤ '9' then some (c.toNat - 48)
  else if 'a' ≤ c && c ≤ 'f' then some (c.toNat - 87)
  else if 'A' ≤ c && c ≤ 'F' then some (c.toNat - 55)
  else none

/-- The value of four hexadecimal digits. -/
def hexUnit? (a b c d : Char) : Option Nat := do
  let a ← hexValue? a
  let b ← hexValue? b
  let c ← hexValue? c
  let d ← hexValue? d
  return ((a * 16 + b) * 16 + c) * 16 + d

/-- What a one-letter escape stands for. -/
def shortEscape? (c : Char) : Option Nat :=
  if c = '"' || c = '\\' || c = '/' then some c.toNat
  else if c = 'b' then some 8
  else if c = 'f' then some 12
  else if c = 'n' then some 10
  else if c = 'r' then some 13
  else if c = 't' then some 9
  else none

/-- The code units up to the closing quotation mark, last first, and the rest. -/
def unitsFrom (read : List Nat) : List Char → Option (List Nat × List Char)
  | [] => none
  | '"' :: rest => some (read, rest)
  | '\\' :: 'u' :: a :: b :: c :: d :: rest =>
    match hexUnit? a b c d with
    | some unit => unitsFrom (unit :: read) rest
    | none => none
  | '\\' :: c :: rest =>
    match shortEscape? c with
    | some unit => unitsFrom (unit :: read) rest
    | none => none
  | c :: rest => if c.toNat < 32 || c = '\\' then none else unitsFrom (c.toNat :: read) rest

/-- A unit that must be followed by a low surrogate. -/
def isHighSurrogate (unit : Nat) : Bool := 0xD800 ≤ unit && unit ≤ 0xDBFF

/-- A unit that must follow a high surrogate. -/
def isLowSurrogate (unit : Nat) : Bool := 0xDC00 ≤ unit && unit ≤ 0xDFFF

/-- The characters of code units; the characters already found are held in reverse. -/
def charsOfUnits (read : List Char) : List Nat → Option (List Char)
  | [] => some read.reverse
  | unit :: units =>
    if isHighSurrogate unit then
      match units with
      | low :: units =>
        if isLowSurrogate low then
          charsOfUnits
            (Char.ofNat (0x10000 + (unit - 0xD800) * 0x400 + (low - 0xDC00)) :: read) units
        else none
      | [] => none
    else if isLowSurrogate unit then none
    else charsOfUnits (Char.ofNat unit :: read) units

/-- A string after its opening quotation mark, and the rest. -/
def string? (chars : List Char) : Option (Option String × List Char) :=
  match unitsFrom [] chars with
  | some (units, rest) => some ((charsOfUnits [] units.reverse).map String.ofList, rest)
  | none => none

/-! ### Values -/

mutual

/-- A value after blanks, and the rest; every level of nesting takes one unit of `fuel`. -/
def value? (fuel : Nat) (chars : List Char) : Option (Syntax × List Char) :=
  match fuel with
  | 0 => none
  | fuel + 1 =>
    match skipSpace chars with
    | 'n' :: 'u' :: 'l' :: 'l' :: rest => some (.null, rest)
    | 't' :: 'r' :: 'u' :: 'e' :: rest => some (.bool true, rest)
    | 'f' :: 'a' :: 'l' :: 's' :: 'e' :: rest => some (.bool false, rest)
    | '"' :: rest => (string? rest).map fun (text, rest) => (.string text, rest)
    | '[' :: rest =>
      match skipSpace rest with
      | ']' :: rest => some (.array [], rest)
      | rest => items? fuel [] rest
    | '\x7b' :: rest =>
      match skipSpace rest with
      | '\x7d' :: rest => some (.object [], rest)
      | rest => fields? fuel [] rest
    | chars => (number? chars).map fun (number, rest) => (.number number, rest)

/-- One more element of an array and what follows it; the elements before are held in reverse. -/
def items? (fuel : Nat) (read : List Syntax) (chars : List Char) : Option (Syntax × List Char) :=
  match fuel with
  | 0 => none
  | fuel + 1 =>
    match value? fuel chars with
    | none => none
    | some (item, rest) =>
      match skipSpace rest with
      | ',' :: rest => items? fuel (item :: read) rest
      | ']' :: rest => some (.array (item :: read).reverse, rest)
      | _ => none

/-- One more field of an object and what follows it; the fields before are held in reverse. -/
def fields? (fuel : Nat) (read : List (Option String × Syntax)) (chars : List Char) :
    Option (Syntax × List Char) :=
  match fuel with
  | 0 => none
  | fuel + 1 =>
    match skipSpace chars with
    | '"' :: rest =>
      match string? rest with
      | none => none
      | some (name, rest) =>
        match skipSpace rest with
        | ':' :: rest =>
          match value? fuel rest with
          | none => none
          | some (value, rest) =>
            match skipSpace rest with
            | ',' :: rest => fields? fuel ((name, value) :: read) rest
            | '\x7d' :: rest => some (.object ((name, value) :: read).reverse, rest)
            | _ => none
        | _ => none
    | _ => none

end

namespace Syntax

/-- The syntax of a list of characters that is one JSON value between blanks. Each level of nesting
and each element consumes a character, so the length bounds the recursion. -/
def ofChars? (chars : List Char) : Option Syntax :=
  match value? (chars.length + 1) chars with
  | some (value, rest) => if (skipSpace rest).isEmpty then some value else none
  | none => none

/-- The syntax of a text that is one JSON value between blanks. -/
def ofText? (text : String) : Option Syntax := ofChars? text.toList

end Syntax

end DeclGraph.Json
