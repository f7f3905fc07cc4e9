/-
**A reader's place in a source.**

A cursor holds the characters that are still to be read, the place of the first of them and the
number of characters read. Two cursors of one source tell the text between them.
-/

import DeclGraph.Text.Identifier
import DeclGraph.Syntax.Tree

namespace DeclGraph.Syntax

namespace Position

/-- The place after a character. -/
def after (position : Position) (c : Char) : Position :=
  if c = '\n' then ⟨position.row + 1, 0⟩ else ⟨position.row, position.column + c.utf8Size⟩

end Position

/-- A place in a source and what follows it. -/
structure Cursor where
  rest : List Char
  position : Position := {}
  /-- the number of characters read -/
  offset : Nat := 0
  deriving Repr, Inhabited

namespace Cursor

/-- Steps over one character; at the end it stays. -/
def step (cursor : Cursor) : Cursor :=
  match cursor.rest with
  | [] => cursor
  | c :: rest => ⟨rest, cursor.position.after c, cursor.offset + 1⟩

/-- Steps over several characters. -/
def steps : Nat → Cursor → Cursor
  | 0, cursor => cursor
  | count + 1, cursor => steps count cursor.step

/-- The text from a cursor to a later one. -/
def textTo (first last : Cursor) : String :=
  String.ofList (first.rest.take (last.offset - first.offset))

/-- Steps over the characters of a kind, which are held in reverse. -/
def spanFrom (belongs : Char → Bool) (position : Position) (offset : Nat) (taken : List Char) :
    List Char → List Char × Cursor
  | [] => (taken.reverse, ⟨[], position, offset⟩)
  | c :: rest =>
    if belongs c then spanFrom belongs (position.after c) (offset + 1) (c :: taken) rest
    else (taken.reverse, ⟨c :: rest, position, offset⟩)

/-- The leading characters of a kind, and the cursor after them. -/
def span (belongs : Char → Bool) (cursor : Cursor) : List Char × Cursor :=
  spanFrom belongs cursor.position cursor.offset [] cursor.rest

/-- The cursor after the leading characters of a kind. -/
def skip (belongs : Char → Bool) (cursor : Cursor) : Cursor := (cursor.span belongs).2

/-- Whether the characters that follow begin with these. -/
def startsWith (cursor : Cursor) (text : List Char) : Bool := text.isPrefixOf cursor.rest

/-- The blanks that separate tokens: the Unicode spaces and three marks without width. -/
def isSpace (c : Char) : Bool :=
  let code := c.toNat
  (0x9 ≤ code && code ≤ 0xD) || code == 0x20 || code == 0x85 || code == 0xA0 || code == 0x1680 ||
    (0x2000 ≤ code && code ≤ 0x200B) || code == 0x2028 || code == 0x2029 || code == 0x202F ||
    code == 0x205F || code == 0x2060 || code == 0x3000 || code == 0xFEFF

end Cursor

end DeclGraph.Syntax
