/-
**Decoding TOML.**

A record is a table whose unknown fields are skipped, or an array of its fields in order of
declaration, of which those at the end may be missing and those behind the last are skipped. A
moment is a record of which no field is known. Every field may be left out.

* `Decoder.fieldsOf?`: what is given for the fields of a record;
* `Decoder.orElse`: a field that stands for a default when it is not given.
-/

import DeclGraph.Toml.Value

namespace DeclGraph.Toml

/-- A decoder of values. -/
abbrev Decoder (α : Type) := Value → Option α

namespace Decoder

/-- A string. -/
def string : Decoder String
  | .string text => some text
  | _ => none

/-- A truth value. -/
def boolean : Decoder Bool
  | .boolean value => some value
  | _ => none

/-- An integer that is not negative and not greater than a bound. -/
def naturalUpTo (bound : Nat) : Decoder Nat
  | .integer (.ofNat value) => if value ≤ bound then some value else none
  | _ => none

/-- A list of decoded elements. -/
def list {α : Type} (item : Decoder α) : Decoder (List α)
  | .array items => items.mapM item
  | .tables items => items.mapM item
  | _ => none

/-- Whether a value holds nothing. -/
def isEmpty : Value → Bool
  | .array items | .tables items => items.isEmpty
  | .table _ fields => fields.isEmpty
  | _ => false

/-- A choice among tags: its tag, or a table that maps its tag to something empty. -/
def choice {α : Type} (ofTag? : String → Option α) : Decoder α
  | .string text => ofTag? text
  | .table _ [(name, value)] => if isEmpty value then ofTag? name else none
  | _ => none

/-- What is given for the fields of a record. -/
abbrev Given := List (Option Value)

/-- What is given for the fields with these names. -/
def fieldsOf? (names : List String) : Decoder Given
  | .table _ fields => some (names.map fun name => field? name fields)
  | .array items | .tables items => some (items.map some)
  | .moment => some []
  | _ => none

/-- A field that stands for a default when it is not given. -/
def orElse {α : Type} (given : Given) (place : Nat) (value : Decoder α) (absent : α) : Option α :=
  match given.getD place none with
  | some given => value given
  | none => some absent

end Decoder

end DeclGraph.Toml
