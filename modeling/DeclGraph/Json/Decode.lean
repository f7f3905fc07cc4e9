/-
**Decoding JSON.**

A decoder turns syntax into a value of some type or refuses it. Arrays and objects that are
decoded may be nested only so deep, and each decoder takes the number of levels that are left.

* a record is an object or an array: in an object unknown fields are skipped, a known one may
  occur once, and an optional one may be left out; in an array the fields stand in order of
  declaration, only those with a default may be missing at the end, and nothing may follow;
* a choice is its tag, or an object that maps its tag to `null`;
* a number is representable if rounding it to a binary fraction of double precision keeps it finite.
-/

import DeclGraph.Json.Syntax
import DeclGraph.Json.Value

namespace DeclGraph.Json

/-- A decoder, given the levels of nesting that are left. -/
abbrev Decoder (α : Type) := Nat → Syntax → Option α

/-- The levels of nesting that a text may use. -/
def nestingLimit : Nat := 128

namespace Decoder

/-- The levels left inside one more array or object; the last one may not be entered. -/
def enter (levels : Nat) : Option Nat := if levels ≤ 1 then none else some (levels - 1)

/-- A string of characters. -/
def string : Decoder String
  | _, .string text => text
  | _, _ => none

/-- The integer that a number text denotes; a zero with a sign is none. -/
def integerOf? (number : NumberText) : Option Int :=
  if !number.integral then none
  else if number.negative then
    if number.digits = 0 then none else some (-(number.digits : Int))
  else some number.digits

/-- An integer between two bounds, both included. -/
def integerBetween (low high : Int) : Decoder Int
  | _, .number number =>
    match integerOf? number with
    | some value => if low ≤ value && value ≤ high then some value else none
    | none => none
  | _, _ => none

/-- A signed integer of 64 bits. -/
def integer64 : Decoder Int := integerBetween (-0x8000000000000000) 0x7FFFFFFFFFFFFFFF

/-- An array of decoded elements. -/
def list {α : Type} (item : Decoder α) : Decoder (List α)
  | levels, .array items => (enter levels).bind fun levels => items.mapM (item levels)
  | _, _ => none

/-- The fields of an object with decoded values, in order of occurrence and with repetitions. -/
def fields {α : Type} (value : Decoder α) : Decoder (List (String × α))
  | levels, .object fields =>
    (enter levels).bind fun levels => fields.mapM fun field =>
      field.1.bind fun name => (value levels field.2).map fun value => (name, value)
  | _, _ => none

/-- `null`, or a decoded value. -/
def nullable {α : Type} (value : Decoder α) : Decoder (Option α)
  | _, .null => some none
  | levels, syntaxTree => (value levels syntaxTree).map some

/-- A choice among tags. -/
def choice {α : Type} (ofTag? : String → Option α) : Decoder α
  | _, .string text => text.bind ofTag?
  | levels, .object [(some name, .null)] => (enter levels).bind fun _ => ofTag? name
  | _, _ => none

/-! ### Records -/

/-- What is given for the fields of a record, in order of declaration. -/
structure Given where
  /-- whether the record is written as an array -/
  positional : Bool
  levels : Nat
  slots : List (Option Syntax)

/-- The values of a field, in order of occurrence. -/
def occurrences (name : String) (fields : List (Option String × Syntax)) : List Syntax :=
  (fields.filter fun field => field.1 == some name).map Prod.snd

/-- The single value of a field that may be left out; `none` if it is repeated. -/
def single? (name : String) (fields : List (Option String × Syntax)) : Option (Option Syntax) :=
  match occurrences name fields with
  | [] => some none
  | [value] => some (some value)
  | _ => none

/-- What is given for a record with these field names. -/
def given (names : List String) : Decoder Given
  | levels, .object fields =>
    (enter levels).bind fun levels =>
      if fields.all fun field => field.1.isSome then
        (names.mapM fun name => single? name fields).map fun slots => ⟨false, levels, slots⟩
      else none
  | levels, .array items =>
    (enter levels).bind fun levels =>
      if items.length ≤ names.length then
        some ⟨true, levels, items.map some ++ List.replicate (names.length - items.length) none⟩
      else none
  | _, _ => none

namespace Given

/-- What is given for the field at a place. -/
def slot (record : Given) (place : Nat) : Option Syntax := record.slots.getD place none

/-- A field that must be given. -/
def required {α : Type} (record : Given) (place : Nat) (value : Decoder α) : Option α :=
  (record.slot place).bind (value record.levels)

/-- A field that stands for a default when it is not given. -/
def defaulted {α : Type} (record : Given) (place : Nat) (value : Decoder α) (absent : α) :
    Option α :=
  match record.slot place with
  | some given => value record.levels given
  | none => some absent

/-- A field that may be `null`, and may be left out of an object. -/
def optional {α : Type} (record : Given) (place : Nat) (value : Decoder α) : Option (Option α) :=
  match record.slot place with
  | some given => nullable value record.levels given
  | none => if record.positional then none else some none

/-- A field that may be `null`, and may be left out of an object or at the end of an array. -/
def omissible {α : Type} (record : Given) (place : Nat) (value : Decoder α) : Option (Option α) :=
  record.defaulted place (nullable value) none

end Given

/-! ### Whole values -/

/-- The least magnitude that rounds to infinity in double precision. -/
def overflow : Nat := Nat.pow 2 1024 - Nat.pow 2 970

/-- The number of decimal digits of a number. -/
def digitCount (n : Nat) : Nat := (Nat.toDigits 10 n).length

/-- Whether a number text rounds to a finite number. -/
def isFinite (number : NumberText) : Bool :=
  if number.digits = 0 then true
  else
    let magnitude : Int := digitCount number.digits + number.exponent
    if 400 < magnitude then false
    else if magnitude < 0 then true
    else if 0 ≤ number.exponent then number.digits * Nat.pow 10 number.exponent.toNat < overflow
    else number.digits < overflow * Nat.pow 10 (-number.exponent).toNat

mutual

/-- Whether a value may be read as a whole: its numbers are finite, its strings are texts and its
nesting keeps to the levels left. -/
def isWhole (levels : Nat) : Syntax → Bool
  | .null | .bool _ => true
  | .number number => isFinite number
  | .string text => text.isSome
  | .array items => 1 < levels && areWhole (levels - 1) items
  | .object fields => 1 < levels && fieldsAreWhole (levels - 1) fields

/-- Whether every element may be read as a whole. -/
def areWhole (levels : Nat) : List Syntax → Bool
  | [] => true
  | item :: items => isWhole levels item && areWhole levels items

/-- Whether every field may be read as a whole. -/
def fieldsAreWhole (levels : Nat) : List (Option String × Syntax) → Bool
  | [] => true
  | (name, value) :: fields =>
    name.isSome && isWhole levels value && fieldsAreWhole levels fields

end

/-- The fields of an object with the last value for each name; the order is that of the last
occurrences. -/
def lastFields (fields : List (Option String × Syntax)) : List (Option String × Syntax) :=
  match fields with
  | [] => []
  | field :: fields =>
    if fields.any fun other => other.1 == field.1 then lastFields fields
    else field :: lastFields fields

mutual

/-- A value in which no object repeats a name: of several values for one name the last is kept. -/
def settled : Syntax → Syntax
  | .array items => .array (settledItems items)
  | .object fields => .object (lastFields (settledFields fields))
  | value => value

/-- The elements, settled. -/
def settledItems : List Syntax → List Syntax
  | [] => []
  | item :: items => settled item :: settledItems items

/-- The fields, with settled values. -/
def settledFields : List (Option String × Syntax) → List (Option String × Syntax)
  | [] => []
  | (name, value) :: fields => (name, settled value) :: settledFields fields

end

/-- A value of any shape, kept for a later decoder. -/
def whole : Decoder Syntax
  | levels, value => if isWhole levels value then some (settled value) else none

end Decoder

/-- Decodes a text. -/
def decodeText {α : Type} (decoder : Decoder α) (text : String) : Option α :=
  (Syntax.ofText? text).bind (decoder nestingLimit)

/-! ### Values as syntax -/

mutual

/-- The syntax of a value. -/
def Value.toSyntax : Value → Syntax
  | .null => .null
  | .bool value => .bool value
  | .integer value => .number ⟨decide (value < 0), value.natAbs, 0, true⟩
  | .string text => .string (some text)
  | .array items => .array (Value.itemsToSyntax items)
  | .object fields => .object (Value.fieldsToSyntax fields)

/-- The syntax of elements. -/
def Value.itemsToSyntax : List Value → List Syntax
  | [] => []
  | item :: items => item.toSyntax :: Value.itemsToSyntax items

/-- The syntax of fields. -/
def Value.fieldsToSyntax : List (String × Value) → List (Option String × Syntax)
  | [] => []
  | (name, value) :: fields => (some name, value.toSyntax) :: Value.fieldsToSyntax fields

end

end DeclGraph.Json
