/-
**The text of TOML: blanks, strings and keys.**

Readers take a list of characters and give what they read and the rest. Control characters stand
nowhere but for the tab and for line ends; a line ends at a line feed, which a carriage return may
precede.

* `string?`: a string in one of the four notations;
* `key?`: the names of a key with points.
-/

namespace DeclGraph.Toml

/-- A reader of the start of a text. -/
abbrev Reader (α : Type) := List Char → Option (α × List Char)

/-! ### Blanks and lines -/

/-- Whether a character may stand within a line. -/
def isPlain (c : Char) : Bool := c = '\t' || (32 ≤ c.toNat && c.toNat ≠ 127)

/-- Whether a character is a blank within a line. -/
def isSpace (c : Char) : Bool := c = ' ' || c = '\t'

/-- The text after its leading blanks. -/
def skipSpaces (chars : List Char) : List Char := chars.dropWhile isSpace

/-- What follows a line end. -/
def lineEnd? : List Char → Option (List Char)
  | '\n' :: rest => some rest
  | '\r' :: '\n' :: rest => some rest
  | _ => none

/-- The text after a comment, if one stands there. -/
def skipComment : List Char → List Char
  | '#' :: rest => rest.dropWhile isPlain
  | chars => chars

/-- The text after blanks, a comment and the end of the line or of the text. -/
def finishLine? (chars : List Char) : Option (List Char) :=
  match skipComment (skipSpaces chars) with
  | [] => some []
  | chars => lineEnd? chars

/-- The text after blanks and line ends. -/
def skipBlankLines : List Char → List Char
  | '\r' :: '\n' :: rest => skipBlankLines rest
  | c :: rest => if isSpace c || c = '\n' then skipBlankLines rest else c :: rest
  | [] => []

/-- The text after blanks, line ends and comments; a comment must end at a line end. -/
def skipTrivia : Nat → List Char → Option (List Char)
  | 0, _ => none
  | steps + 1, chars =>
    match skipBlankLines chars with
    | '#' :: rest => (lineEnd? (rest.dropWhile isPlain)).bind (skipTrivia steps)
    | chars => some chars

/-! ### Escapes -/

/-- The value of a hexadecimal digit. -/
def hexValue? (c : Char) : Option Nat :=
  if '0' ≤ c && c ≤ '9' then some (c.toNat - 48)
  else if 'a' ≤ c && c ≤ 'f' then some (c.toNat - 87)
  else if 'A' ≤ c && c ≤ 'F' then some (c.toNat - 55)
  else none

/-- The value of so many hexadecimal digits. -/
def hexCode? (read : Nat) : Nat → Reader Nat
  | 0, rest => some (read, rest)
  | _ + 1, [] => none
  | count + 1, c :: rest => (hexValue? c).bind fun digit => hexCode? (read * 16 + digit) count rest

/-- The character with a code, unless the code is that of a surrogate or too great. -/
def charOf? (code : Nat) : Option Char :=
  if code < 0xD800 || (0xDFFF < code && code < 0x110000) then some (Char.ofNat code) else none

/-- The character of an escape, whose backslash is read already. -/
def escape? : Reader Char
  | 'b' :: rest => some ('\x08', rest)
  | 't' :: rest => some ('\t', rest)
  | 'n' :: rest => some ('\n', rest)
  | 'f' :: rest => some ('\x0c', rest)
  | 'r' :: rest => some ('\r', rest)
  | '"' :: rest => some ('"', rest)
  | '\\' :: rest => some ('\\', rest)
  | 'u' :: rest =>
    (hexCode? 0 4 rest).bind fun (code, rest) => (charOf? code).map fun c => (c, rest)
  | 'U' :: rest =>
    (hexCode? 0 8 rest).bind fun (code, rest) => (charOf? code).map fun c => (c, rest)
  | _ => none

/-! ### Strings on one line -/

/-- A string up to its closing quotation mark; escapes are read if the notation has them. -/
def lineString? (quote : Char) (escapes : Bool) (read : List Char) : Nat → Reader String
  | 0, _ => none
  | _, [] => none
  | steps + 1, c :: rest =>
    if c = quote then some (String.ofList read.reverse, rest)
    else if c = '\\' && escapes then
      match escape? rest with
      | some (c, rest) => lineString? quote escapes (c :: read) steps rest
      | none => none
    else if isPlain c then lineString? quote escapes (c :: read) steps rest
    else none

/-! ### Strings over several lines -/

/-- The number of characters at the start of a text that are the given one. -/
def countOf (c : Char) (chars : List Char) : Nat := (chars.takeWhile (· == c)).length

/-- What follows a backslash that ends its line: blanks and line ends are skipped. -/
def continued? (chars : List Char) : Option (List Char) :=
  (lineEnd? (skipSpaces chars)).map skipBlankLines

/-- A string up to three closing quotation marks. One or two marks may stand in it, also right in
front of the closing ones. -/
def blockString? (quote : Char) (escapes : Bool) (read : List Char) : Nat → Reader String
  | 0, _ => none
  | _, [] => none
  | steps + 1, c :: rest =>
    if c = quote then
      let count := countOf quote (c :: rest)
      if 6 ≤ count then
        some (String.ofList (quote :: quote :: read).reverse, (c :: rest).drop 5)
      else if 3 ≤ count then
        some (String.ofList (List.replicate (count - 3) quote ++ read).reverse,
          (c :: rest).drop count)
      else blockString? quote escapes (c :: read) steps rest
    else if c = '\\' && escapes then
      match continued? rest with
      | some rest => blockString? quote escapes read steps rest
      | none =>
        match escape? rest with
        | some (c, rest) => blockString? quote escapes (c :: read) steps rest
        | none => none
    else
      match lineEnd? (c :: rest) with
      | some rest => blockString? quote escapes ('\n' :: read) steps rest
      | none => if isPlain c then blockString? quote escapes (c :: read) steps rest else none

/-- The text after a line end, if one stands there. -/
def skipLineEnd (chars : List Char) : List Char := (lineEnd? chars).getD chars

/-- A string in one of the four notations. -/
def string? : Reader String
  | '"' :: '"' :: '"' :: rest => blockString? '"' true [] (rest.length + 1) (skipLineEnd rest)
  | '"' :: rest => lineString? '"' true [] (rest.length + 1) rest
  | '\'' :: '\'' :: '\'' :: rest => blockString? '\'' false [] (rest.length + 1) (skipLineEnd rest)
  | '\'' :: rest => lineString? '\'' false [] (rest.length + 1) rest
  | _ => none

/-! ### Keys -/

/-- Whether a character may stand in a name without quotation marks. -/
def isBare (c : Char) : Bool := c.isAlphanum || c = '_' || c = '-'

/-- A single name. -/
def name? : Reader String
  | '"' :: rest => lineString? '"' true [] (rest.length + 1) rest
  | '\'' :: rest => lineString? '\'' false [] (rest.length + 1) rest
  | chars =>
    match chars.span isBare with
    | ([], _) => none
    | (name, rest) => some (String.ofList name, rest)

/-- Names with points and blanks between them, the last one first. -/
def names? (read : List String) : Nat → Reader (List String)
  | 0, _ => none
  | steps + 1, chars =>
    match name? (skipSpaces chars) with
    | none => none
    | some (name, rest) =>
      match skipSpaces rest with
      | '.' :: rest => names? (name :: read) steps rest
      | rest => some (name :: read, rest)

/-- How deep values may be nested, and how many names a key may have. -/
def depthLimit : Nat := 80

/-- A key: the names in front, and the last one. -/
structure Key where
  front : List String
  name : String
  deriving DecidableEq, Repr, Inhabited

/-- A key, and the text behind it and its blanks. -/
def key? : Reader Key := fun chars =>
  match names? [] (chars.length + 1) chars with
  | some (name :: front, rest) =>
    if front.length + 1 < depthLimit then some (⟨front.reverse, name⟩, rest) else none
  | _ => none

end DeclGraph.Toml
