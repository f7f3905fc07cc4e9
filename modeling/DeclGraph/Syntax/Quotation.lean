/-
**Strings.**

A string opens with letters that set its kind and with one or three quotation marks, and its
content is read piece by piece up to the same marks. A backslash makes the next characters an
escape; in a raw string it only keeps a quotation mark from ending the string. A string with
fields stops at each brace that is not doubled.

* `Quotation.opening?`: the kind of the string that opens at a place;
* `Quotation.next`: what ends the next stretch of content.
-/

import DeclGraph.Syntax.Cursor

namespace DeclGraph.Syntax

/-- The kind of a string. -/
structure Quotation where
  mark : Char := '"'
  triple : Bool := false
  raw : Bool := false
  bytes : Bool := false
  /-- whether braces hold fields -/
  fields : Bool := false
  deriving DecidableEq, Repr, Inhabited

namespace Quotation

/-! ### Openings -/

/-- The kind of string after one more letter in front; nothing if the letter has no meaning. -/
def withLetter? (quotation : Quotation) (letter : Char) : Option Quotation :=
  if letter = 'f' || letter = 'F' then some { quotation with fields := true }
  else if letter = 'r' || letter = 'R' then some { quotation with raw := true }
  else if letter = 'b' || letter = 'B' then some { quotation with bytes := true }
  else if letter = 'u' || letter = 'U' then some quotation
  else none

/-- The kind of the string that opens with these characters and the length of its opening. -/
def openingFrom? (quotation : Quotation) (length : Nat) : List Char → Option (Quotation × Nat)
  | [] => none
  | c :: rest =>
    match quotation.withLetter? c with
    | some quotation => openingFrom? quotation (length + 1) rest
    | none =>
      if c = '`' then some ({ quotation with mark := c }, length + 1)
      else if c = '"' || c = '\'' then
        if [c, c].isPrefixOf rest then
          some ({ quotation with mark := c, triple := true }, length + 3)
        else some ({ quotation with mark := c }, length + 1)
      else none

/-- The kind of the string that opens with these characters and the length of its opening. -/
def opening? (chars : List Char) : Option (Quotation × Nat) := openingFrom? {} 0 chars

/-! ### Content -/

/-- Whether the first of these characters satisfy a test, at least `least` of them. -/
def leads (least : Nat) (test : Char → Bool) (chars : List Char) : Bool :=
  least ≤ (chars.takeWhile test).length

/-- Whether a character is a hexadecimal digit. -/
def isHex (c : Char) : Bool := c.isDigit || ('a' ≤ c && c ≤ 'f') || ('A' ≤ c && c ≤ 'F')

/-- The length of the name of a character in braces, zero if there is none. -/
def namedLength (chars : List Char) : Nat :=
  match chars with
  | '\x7b' :: rest =>
    let name := rest.takeWhile (· != '\x7d')
    match name, rest.drop name.length with
    | _ :: _, _ :: _ => name.length + 2
    | _, _ => 0
  | _ => 0

/-- The number of characters that a backslash takes with it. -/
def escapeLength : List Char → Nat
  | '\r' :: '\n' :: _ => 2
  | c :: rest =>
    if "'\"abfrntv\\\n".toList.contains c then 1
    else if c = 'u' && leads 4 isHex (rest.take 4) then 5
    else if c = 'U' && leads 8 isHex (rest.take 8) then 9
    else if c = 'x' && leads 2 isHex (rest.take 2) then 3
    else if c = 'N' then
      let length := namedLength rest
      if length = 0 then 0 else length + 1
    else ((c :: rest).take 3 |>.takeWhile Char.isDigit).length
  | [] => 0

/-- The number of characters that a backslash takes with it in a raw string. -/
def rawEscapeLength (mark : Char) (chars : List Char) : Nat :=
  let (quoted, rest) := match chars with
    | c :: rest => if c = mark || c = '\\' then (1, rest) else (0, c :: rest)
    | [] => (0, [])
  match rest with
  | '\r' :: '\n' :: _ => quoted + 2
  | '\r' :: _ => quoted + 1
  | '\n' :: _ => quoted + 1
  | _ => quoted

/-- What the next characters of a string are. -/
inductive Next where
  /-- so many characters of content, and whether a line may not end right after them -/
  | content (length : Nat) (inLine : Bool)
  /-- a backslash that leaves this open -/
  | backslash (length : Nat)
  /-- the opening brace of a field -/
  | field
  /-- the closing marks, so many of them -/
  | stop (length : Nat)
  /-- nothing that a string may hold -/
  | fault
  deriving DecidableEq, Repr, Inhabited

/-- What the next characters are at a quotation mark. -/
def nextAtMark (quotation : Quotation) (chars : List Char) : Next :=
  if !quotation.triple then .stop 1
  else
    let marks := ((chars.take 3).takeWhile (· == quotation.mark)).length
    if marks = 3 then .stop 3 else .content marks false

/-- What the next characters are after a backslash. -/
def nextAtBackslash (quotation : Quotation) (rest : List Char) : Next :=
  if quotation.raw then .backslash (rawEscapeLength quotation.mark rest + 1)
  else if quotation.bytes && (rest.head?.map "NuU".toList.contains).getD false then
    if (rest.take 2).length < 2 then .fault else .content 3 true
  else .content (escapeLength rest + 1) false

/-- What the next characters of a string are, where `inLine` tells whether content of the same
stretch stands before them. A line may end in a string with single marks only at the start of a
stretch. -/
def next (quotation : Quotation) (inLine : Bool) : List Char → Next
  | [] => .fault
  | c :: rest =>
    if quotation.fields && (c = '\x7b' || c = '\x7d') then
      if rest.head? = some c then .content 2 false
      else if c = '\x7b' then .field
      else .fault
    else if c = '\\' then nextAtBackslash quotation rest
    else if c = quotation.mark then nextAtMark quotation (c :: rest)
    else if c = '\n' && inLine && !quotation.triple then .fault
    else .content 1 true

end Quotation

end DeclGraph.Syntax
