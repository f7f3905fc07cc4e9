/-
**JSON values and their text.**

* `Value`: what is written. Integers are the only numbers, and the fields of an object are written
  in the order given;
* `Value.compact`: one line without blanks;
* `Value.pretty`: one element or field per line, two more spaces at each level, `[]` and `{}` for
  what is empty;
* `quoted`: a text in quotes. A quotation mark and a backslash are escaped, control characters
  have a short form or four hexadecimal digits, and all else stands as it is.
-/

namespace DeclGraph.Json

/-- A JSON value that is to be written. -/
inductive Value where
  | null
  | bool (value : Bool)
  | integer (value : Int)
  | string (text : String)
  | array (items : List Value)
  | object (fields : List (String × Value))
  deriving Inhabited, Repr

/-! ### Quoted text -/

/-- The hexadecimal digit of a number below sixteen, in lower case. -/
def hexDigit (n : Nat) : Char := if n < 10 then Char.ofNat (48 + n) else Char.ofNat (87 + n)

/-- How one character is written between quotation marks. -/
def escapeChar (c : Char) : List Char :=
  if c = '"' then ['\\', '"']
  else if c = '\\' then ['\\', '\\']
  else if c = '\n' then ['\\', 'n']
  else if c = '\r' then ['\\', 'r']
  else if c = '\t' then ['\\', 't']
  else if c.toNat = 8 then ['\\', 'b']
  else if c.toNat = 12 then ['\\', 'f']
  else if c.toNat < 32 then ['\\', 'u', '0', '0', hexDigit (c.toNat / 16), hexDigit (c.toNat % 16)]
  else [c]

/-- A text in quotation marks. -/
def quoted (text : String) : String :=
  "\"" ++ String.ofList (text.toList.flatMap escapeChar) ++ "\""

/-! ### Compact text -/

namespace Value

mutual

/-- The value on one line without blanks. -/
def compact : Value → String
  | null => "null"
  | bool value => if value then "true" else "false"
  | integer value => toString value
  | string text => quoted text
  | array items => "[" ++ compactItems items ++ "]"
  | object fields => "\x7b" ++ compactFields fields ++ "\x7d"

/-- Elements with commas between them. -/
def compactItems : List Value → String
  | [] => ""
  | [item] => item.compact
  | item :: items => item.compact ++ "," ++ compactItems items

/-- Fields with commas between them. -/
def compactFields : List (String × Value) → String
  | [] => ""
  | [(name, value)] => quoted name ++ ":" ++ value.compact
  | (name, value) :: fields => quoted name ++ ":" ++ value.compact ++ "," ++ compactFields fields

end

/-! ### Indented text -/

/-- A line feed and the blanks of a level. -/
def lineAt (level : Nat) : String := "\n" ++ String.ofList (List.replicate (2 * level) ' ')

mutual

/-- The value at a level of indentation. -/
def prettyAt (level : Nat) : Value → String
  | array (item :: items) =>
    "[" ++ prettyItems (level + 1) (item :: items) ++ lineAt level ++ "]"
  | object (field :: fields) =>
    "\x7b" ++ prettyFields (level + 1) (field :: fields) ++ lineAt level ++ "\x7d"
  | value => value.compact

/-- Elements, each on a line of its own. -/
def prettyItems (level : Nat) : List Value → String
  | [] => ""
  | [item] => lineAt level ++ item.prettyAt level
  | item :: items => lineAt level ++ item.prettyAt level ++ "," ++ prettyItems level items

/-- Fields, each on a line of its own. -/
def prettyFields (level : Nat) : List (String × Value) → String
  | [] => ""
  | [(name, value)] => lineAt level ++ quoted name ++ ": " ++ value.prettyAt level
  | (name, value) :: fields =>
    lineAt level ++ quoted name ++ ": " ++ value.prettyAt level ++ "," ++ prettyFields level fields

end

/-- The value over several lines. -/
def pretty (value : Value) : String := value.prettyAt 0

/-- The value or `null`. -/
def ofOption (value : Option Value) : Value := value.getD .null

/-! ### Sorted objects -/

/-- Puts a field before the first one with a greater name. -/
def insertField (field : String × Value) : List (String × Value) → List (String × Value)
  | [] => [field]
  | other :: fields =>
    if field.1 < other.1 then field :: other :: fields else other :: insertField field fields

mutual

/-- The value with the fields of every object in ascending order of their names. -/
def sorted : Value → Value
  | array items => array (sortedItems items)
  | object fields => object (sortedFields fields)
  | value => value

/-- The elements with sorted objects. -/
def sortedItems : List Value → List Value
  | [] => []
  | item :: items => item.sorted :: sortedItems items

/-- The fields in ascending order, with sorted objects. -/
def sortedFields : List (String × Value) → List (String × Value)
  | [] => []
  | (name, value) :: fields => insertField (name, value.sorted) (sortedFields fields)

end

end Value

end DeclGraph.Json
