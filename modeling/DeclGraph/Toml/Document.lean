/-
**TOML documents.**

A document is read line by line: a line is blank, opens a table or one more table of a list, or
puts a value under a key of the table opened last.

* `value?`: a value, up to a limit on its depth;
* `document?`: the fields of a document.
-/

import DeclGraph.Toml.Number

namespace DeclGraph.Toml

/-! ### Values -/

/-- The table that a list of pairs makes up. -/
def inlineTable? (pairs : List (Key × Value)) : Option Value :=
  pairs.foldlM (fun table (key, value) =>
    match table with
    | .table form fields => assign key.front key.name value form fields
    | _ => none) (.table .inline [])

mutual

/-- A value; every array and table takes one level of `depth`, and `fuel` bounds all steps. -/
def value? (depth : Nat) (fuel : Nat) (chars : List Char) : Option (Value × List Char) :=
  match fuel with
  | 0 => none
  | fuel + 1 =>
    match chars with
    | '"' :: _ | '\'' :: _ => (string? chars).map fun (text, rest) => (.string text, rest)
    | 't' :: 'r' :: 'u' :: 'e' :: rest => some (.boolean true, rest)
    | 'f' :: 'a' :: 'l' :: 's' :: 'e' :: rest => some (.boolean false, rest)
    | '[' :: rest =>
      match depth with
      | 0 => none
      | depth + 1 => items? depth fuel [] rest
    | '\x7b' :: rest =>
      match depth with
      | 0 => none
      | depth + 1 =>
        match skipSpaces rest with
        | '\x7d' :: rest => some (.table .inline [], rest)
        | rest => pairs? depth fuel [] rest
    | chars => number? chars

/-- The rest of an array; the elements before are held in reverse. -/
def items? (depth : Nat) (fuel : Nat) (read : List Value) (chars : List Char) :
    Option (Value × List Char) :=
  match fuel with
  | 0 => none
  | fuel + 1 =>
    match skipTrivia (chars.length + 1) chars with
    | none => none
    | some (']' :: rest) => some (.array read.reverse, rest)
    | some chars =>
      match value? depth fuel chars with
      | none => none
      | some (value, rest) =>
        match skipTrivia (rest.length + 1) rest with
        | some (',' :: rest) => items? depth fuel (value :: read) rest
        | some (']' :: rest) => some (.array (value :: read).reverse, rest)
        | _ => none

/-- The rest of an inline table; the pairs before are held in reverse. -/
def pairs? (depth : Nat) (fuel : Nat) (read : List (Key × Value)) (chars : List Char) :
    Option (Value × List Char) :=
  match fuel with
  | 0 => none
  | fuel + 1 =>
    match key? chars with
    | some (key, '=' :: rest) =>
      match value? depth fuel (skipSpaces rest) with
      | none => none
      | some (value, rest) =>
        match skipSpaces rest with
        | ',' :: rest => pairs? depth fuel ((key, value) :: read) rest
        | '\x7d' :: rest =>
          (inlineTable? ((key, value) :: read).reverse).map fun table => (table, rest)
        | _ => none
    | _ => none

end

/-! ### Lines -/

/-- A document under way. -/
structure Document where
  /-- the names of the table opened last -/
  opened : List String := []
  fields : Fields := []
  deriving Repr, Inhabited

namespace Document

/-- The document after a change of one of its tables. -/
def change? (document : Document) (opened : List String) (way : List String) (change : Change) :
    Option Document :=
  match changeAt ⟨false⟩ change way .stated document.fields with
  | some (.table _ fields) => some ⟨opened, fields⟩
  | _ => none

/-- A line that puts a value under a key. -/
def pairLine? (document : Document) (chars : List Char) : Option (Document × List Char) := do
  match ← key? chars with
  | (key, '=' :: rest) =>
    let (value, rest) ← value? (depthLimit - 1) (rest.length + 2) (skipSpaces rest)
    let rest ← finishLine? rest
    let document ←
      document.change? document.opened document.opened (assign key.front key.name value)
    return (document, rest)
  | _ => none

/-- A line that opens a table. -/
def headerLine? (document : Document) (chars : List Char) : Option (Document × List Char) := do
  match ← key? chars with
  | (key, ']' :: rest) =>
    let rest ← finishLine? rest
    let document ← document.change? (key.front ++ [key.name]) key.front (stateTable key.name)
    return (document, rest)
  | _ => none

/-- A line that opens one more table of a list. -/
def elementLine? (document : Document) (chars : List Char) : Option (Document × List Char) := do
  match ← key? chars with
  | (key, ']' :: ']' :: rest) =>
    let rest ← finishLine? rest
    let document ← document.change? (key.front ++ [key.name]) key.front (addTable key.name)
    return (document, rest)
  | _ => none

/-- One line after its leading blanks. -/
def line? (document : Document) (chars : List Char) : Option (Document × List Char) :=
  match chars with
  | '#' :: _ | '\n' :: _ | '\r' :: _ => (finishLine? chars).map fun rest => (document, rest)
  | '[' :: '[' :: rest => document.elementLine? rest
  | '[' :: rest => document.headerLine? rest
  | chars => document.pairLine? chars

/-- All lines. Every line takes a character, so the length of the text bounds their number. -/
def lines? (document : Document) : Nat → List Char → Option Document
  | 0, _ => none
  | steps + 1, chars =>
    match skipSpaces chars with
    | [] => some document
    | chars =>
      match document.line? chars with
      | some (document, rest) => lines? document steps rest
      | none => none

end Document

/-- A text without the mark that tells its byte order. -/
def withoutMark : List Char → List Char
  | '\uFEFF' :: rest => rest
  | chars => chars

/-- The fields of a document. -/
def document? (text : String) : Option Fields :=
  let chars := withoutMark text.toList
  (Document.lines? {} (chars.length + 1) chars).map Document.fields

end DeclGraph.Toml
