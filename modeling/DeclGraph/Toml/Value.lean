/-
**TOML values and tables.**

A document is a table. A table remembers how it came about, since that decides what may still be
put into it:

* a stated table has a header of its own or is the document itself;
* an implied table stands on the way to a header and may still be stated, once;
* a dotted table stands on the way to a key with points and may be filled by more of those;
* an inline table is complete.

The main functions are changes of a table: `assign`, which puts a value under a key with points,
and `stateTable` and `addTable`, which open a table for a header. `changeAt` makes them further
down.
-/

namespace DeclGraph.Toml

/-- How a table came about. -/
inductive TableForm where
  | stated
  | implied
  | dotted
  | inline
  deriving DecidableEq, Repr, Inhabited

/-- A TOML value. Of floats and moments only their being there is kept. -/
inductive Value where
  | string (text : String)
  | integer (value : Int)
  | float
  | boolean (value : Bool)
  | moment
  | array (items : List Value)
  | table (form : TableForm) (fields : List (String × Value))
  /-- the tables of one name that are stated one by one -/
  | tables (items : List Value)
  deriving Repr, Inhabited

/-- The fields of a table. -/
abbrev Fields := List (String × Value)

/-! ### Fields -/

/-- The value of a field. -/
def field? (name : String) (fields : Fields) : Option Value :=
  (fields.find? fun field => field.1 == name).map Prod.snd

/-- The fields with another value for one of them, which is added if it is not there. -/
def setField (name : String) (value : Value) : Fields → Fields
  | [] => [(name, value)]
  | field :: fields =>
    if field.1 = name then (name, value) :: fields else field :: setField name value fields

/-- A change of the inside of a table. -/
abbrev Change := TableForm → Fields → Option Value

/-! ### Descent -/

/-- Which form the tables on the way to a place may have, and the form of those that are missing. -/
structure Way where
  /-- whether the way is the front of a key with points -/
  dotted : Bool
  deriving DecidableEq, Repr

/-- Whether the way leads into a table of a form. -/
def Way.enters (way : Way) (form : TableForm) : Bool :=
  match form with
  | .stated => !way.dotted
  | .implied | .dotted => true
  | .inline => false

/-- The form of tables that the way makes. -/
def Way.form (way : Way) : TableForm := if way.dotted then .dotted else .implied

/-- Changes the last of some tables. -/
def changeLast (change : Change) : List Value → Option (List Value)
  | [] => none
  | [.table form fields] => (change form fields).map fun value => [value]
  | [_] => none
  | value :: values => (changeLast change values).map fun values => value :: values

/-- Changes a table that stands further down. In a list of tables the way leads into the last. -/
def changeAt (way : Way) (change : Change) : List String → Change
  | [], form, fields => change form fields
  | name :: names, form, fields =>
    let inner := changeAt way change names
    let changed :=
      match field? name fields with
      | none => inner way.form []
      | some (.table form fields) => if way.enters form then inner form fields else none
      | some (.tables items) => (changeLast inner items).map .tables
      | some _ => none
    changed.map fun value => .table form (setField name value fields)

/-! ### Statements -/

/-- Puts a value under a new key. A key with points ends in a dotted table, any other key stands in
a table of another form. -/
def addField (dotted : Bool) (name : String) (value : Value) : Change := fun form fields =>
  if (form == .dotted) != dotted then none
  else if (field? name fields).isSome then none
  else some (.table form (fields ++ [(name, value)]))

/-- Puts a value under a key with points, given by the names in front and the last one. -/
def assign (front : List String) (name : String) (value : Value) : Change :=
  changeAt ⟨true⟩ (addField (!front.isEmpty) name value) front

/-- Opens a table for a header, given by the last of its names. -/
def stateTable (name : String) : Change := fun form fields =>
  match field? name fields with
  | none => some (.table form (fields ++ [(name, .table .stated [])]))
  | some (.table .implied inner) => some (.table form (setField name (.table .stated inner) fields))
  | some _ => none

/-- Opens one more table in a list of tables. -/
def addTable (name : String) : Change := fun form fields =>
  match field? name fields with
  | none => some (.table form (fields ++ [(name, .tables [.table .stated []])]))
  | some (.tables items) =>
    some (.table form (setField name (.tables (items ++ [.table .stated []])) fields))
  | some _ => none

end DeclGraph.Toml
