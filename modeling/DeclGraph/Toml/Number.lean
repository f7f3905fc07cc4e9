/-
**Numbers and moments in TOML.**

An integer has 64 bits with a sign. A float must not exceed the greatest finite one of double
precision, and a moment must be a date of the calendar, a time of the day or both. Floats and
moments are checked and not kept.

* `number?`: an integer, a float or a moment.
-/

import DeclGraph.Json.Decode
import DeclGraph.Toml.Text
import DeclGraph.Toml.Value

namespace DeclGraph.Toml

/-! ### Digits -/

/-- The value of a digit in a base up to sixteen. -/
def digitIn? (base : Nat) (c : Char) : Option Nat :=
  (hexValue? c).bind fun digit => if digit < base then some digit else none

/-- The digits that follow a first one, in reverse; single underscores may stand between digits. -/
def moreDigits? (base : Nat) (read : List Nat) : Reader (List Nat)
  | '_' :: c :: rest =>
    match digitIn? base c with
    | some digit => moreDigits? base (digit :: read) rest
    | none => none
  | ['_'] => none
  | c :: rest =>
    match digitIn? base c with
    | some digit => moreDigits? base (digit :: read) rest
    | none => some (read, c :: rest)
  | [] => some (read, [])

/-- One digit or more. -/
def digits? (base : Nat) : Reader (List Nat)
  | c :: rest =>
    match digitIn? base c with
    | some digit => (moreDigits? base [digit] rest).map fun (read, rest) => (read.reverse, rest)
    | none => none
  | [] => none

/-- The digits of a decimal integer: a zero alone, or digits that begin with another one. -/
def wholeDigits? : Reader (List Nat)
  | '0' :: rest => some ([0], rest)
  | chars => digits? 10 chars

/-- The value of digits in a base. -/
def valueOf (base : Nat) (digits : List Nat) : Nat :=
  digits.foldl (fun value digit => value * base + digit) 0

/-! ### Integers and floats -/

/-- An integer, if it has 64 bits with its sign. -/
def integerOf? (value : Int) : Option Value :=
  if -0x8000000000000000 ≤ value && value ≤ 0x7FFFFFFFFFFFFFFF then some (.integer value) else none

/-- An integer in a base that stands in front of it. -/
def basedInteger? (base : Nat) : Reader Value := fun chars => do
  let (digits, rest) ← digits? base chars
  let value ← integerOf? (valueOf base digits)
  return (value, rest)

/-- The fraction behind a point, if there is one. -/
def fraction? : Reader (Option (List Nat))
  | '.' :: rest => (digits? 10 rest).map fun (digits, rest) => (some digits, rest)
  | chars => some (none, chars)

/-- A sign, if there is one, and whether it is negative. -/
def sign : List Char → Bool × List Char
  | '-' :: rest => (true, rest)
  | '+' :: rest => (false, rest)
  | chars => (false, chars)

/-- The exponent, if there is one. -/
def exponent? : Reader (Option Int)
  | c :: rest =>
    if c = 'e' || c = 'E' then do
      let (negative, rest) := sign rest
      let (digits, rest) ← digits? 10 rest
      let size : Int := valueOf 10 digits
      return (some (if negative then -size else size), rest)
    else some (none, c :: rest)
  | [] => some (none, [])

/-- Whether a float may be written: a positive one must not exceed the finite ones. -/
def fits (negative : Bool) (whole fraction : List Nat) (exponent : Int) : Bool :=
  negative ||
    Json.Decoder.isFinite ⟨false, valueOf 10 (whole ++ fraction), exponent - fraction.length, false⟩

/-- A decimal number behind its sign. -/
def decimal? (negative : Bool) : Reader Value := fun chars => do
  let (whole, rest) ← wholeDigits? chars
  let (fraction, rest) ← fraction? rest
  let (exponent, rest) ← exponent? rest
  if fraction.isNone && exponent.isNone then
    let size : Int := valueOf 10 whole
    let value ← integerOf? (if negative then -size else size)
    return (value, rest)
  else if fits negative whole (fraction.getD []) (exponent.getD 0) then return (.float, rest)
  else none

/-- A number behind its sign. -/
def unsigned? (negative : Bool) : Reader Value
  | 'i' :: 'n' :: 'f' :: rest => some (.float, rest)
  | 'n' :: 'a' :: 'n' :: rest => some (.float, rest)
  | chars => decimal? negative chars

/-! ### Moments -/

/-- So many decimal digits that make up a number between two bounds, both included. -/
def fixed? (count low high : Nat) : Reader Nat := fun chars =>
  let digits := (chars.take count).filterMap (digitIn? 10)
  let value := valueOf 10 digits
  if digits.length = count && low ≤ value && value ≤ high then some (value, chars.drop count)
  else none

/-- What follows a character. -/
def behind? (c : Char) : List Char → Option (List Char)
  | d :: rest => if c = d then some rest else none
  | [] => none

/-- The number of days in a month. -/
def daysIn (year month : Nat) : Nat :=
  if month = 2 then
    if year % 4 = 0 && (year % 100 ≠ 0 || year % 400 = 0) then 29 else 28
  else if [4, 6, 9, 11].contains month then 30
  else 31

/-- What follows a date. -/
def date? (chars : List Char) : Option (List Char) := do
  let (year, rest) ← fixed? 4 0 9999 chars
  let rest ← behind? '-' rest
  let (month, rest) ← fixed? 2 1 12 rest
  let rest ← behind? '-' rest
  let (_, rest) ← fixed? 2 1 (daysIn year month) rest
  return rest

/-- What follows the fraction of a second, if there is one. -/
def secondFraction? : List Char → Option (List Char)
  | '.' :: rest =>
    match rest.span Char.isDigit with
    | ([], _) => none
    | (_, rest) => some rest
  | chars => some chars

/-- What follows a time of the day. The last second may be a leap second. -/
def time? (chars : List Char) : Option (List Char) := do
  let (_, rest) ← fixed? 2 0 23 chars
  let rest ← behind? ':' rest
  let (_, rest) ← fixed? 2 0 59 rest
  let rest ← behind? ':' rest
  let (_, rest) ← fixed? 2 0 60 rest
  secondFraction? rest

/-- What follows the distance from universal time, if there is one. -/
def offset? : List Char → Option (List Char)
  | c :: rest =>
    if c = 'Z' || c = 'z' then some rest
    else if c = '+' || c = '-' then do
      let (_, rest) ← fixed? 2 0 23 rest
      let rest ← behind? ':' rest
      let (_, rest) ← fixed? 2 0 59 rest
      return rest
    else some (c :: rest)
  | [] => some []

/-- Whether a text goes on as a time of the day. -/
def beginsTime (chars : List Char) : Bool :=
  ((fixed? 2 0 23 chars).bind fun (_, rest) => behind? ':' rest).isSome

/-- What follows the time behind a date, if there is one. -/
def timeOfDate? : List Char → Option (List Char)
  | c :: rest =>
    if (c = 'T' || c = 't' || c = ' ') && beginsTime rest then (time? rest).bind offset?
    else some (c :: rest)
  | [] => some []

/-- Whether a text begins as a date. -/
def beginsDate (chars : List Char) : Bool :=
  ((fixed? 4 0 9999 chars).bind fun (_, rest) => behind? '-' rest).isSome

/-! ### All of them -/

/-- An integer, a float or a moment. -/
def number? : Reader Value
  | '0' :: 'x' :: rest => basedInteger? 16 rest
  | '0' :: 'o' :: rest => basedInteger? 8 rest
  | '0' :: 'b' :: rest => basedInteger? 2 rest
  | '-' :: rest => unsigned? true rest
  | '+' :: rest => unsigned? false rest
  | chars =>
    if beginsDate chars then ((date? chars).bind timeOfDate?).map fun rest => (.moment, rest)
    else if beginsTime chars then (time? chars).map fun rest => (.moment, rest)
    else unsigned? false chars

end DeclGraph.Toml
