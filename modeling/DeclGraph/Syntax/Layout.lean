/-
**Line ends and indentation.**

Lines and blocks are delimited by tokens without width: the end of a line, the start of a block
and the end of a block. Which of them may stand at a place depends on the grammar, so the scan of
the blanks at that place is told what is admitted there.

* a space counts one column and a tab eight; a carriage return and a form feed start over;
* blank lines and lines with nothing but a comment do not count, but a comment at the level of a
  block or deeper keeps the block open;
* a backslash at the end of a line joins it to the next one;
* the end of the source ends a line and stands at column zero;
* a line that begins left of the current block ends the block wherever neither the end of a line
  nor a closing bracket is admitted.
-/

import DeclGraph.Syntax.Cursor

namespace DeclGraph.Syntax

/-- What the grammar admits at a place. -/
structure Admitted where
  newline : Bool := false
  indent : Bool := false
  dedent : Bool := false
  /-- a closing bracket -/
  close : Bool := false
  /-- the opening of a string -/
  quote : Bool := false
  /-- a handler of exceptions -/
  handler : Bool := false
  deriving DecidableEq, Repr, Inhabited

namespace Layout

/-- Whether comments are passed over with the blanks. -/
def passesComments (admitted : Admitted) : Bool :=
  admitted.indent || admitted.dedent || admitted.newline || admitted.handler

/-- What a scan of blanks has found. -/
structure Scan where
  /-- whether a line has ended -/
  lineEnded : Bool := false
  /-- the column reached in the last line -/
  width : Nat := 0
  /-- the column of the first comment passed -/
  firstComment : Option Nat := none
  /-- whether the scan met something that forbids a token of the layout -/
  blocked : Bool := false
  /-- where the scan stopped -/
  cursor : Cursor
  deriving Repr, Inhabited

/-- A scan under way, without its place. -/
structure Progress where
  lineEnded : Bool := false
  width : Nat := 0
  firstComment : Option Nat := none
  inComment : Bool := false
  deriving Repr, Inhabited

namespace Progress

/-- The progress as a finished scan. -/
def stop (progress : Progress) (blocked : Bool) (cursor : Cursor) : Scan :=
  ⟨progress.lineEnded, progress.width, progress.firstComment, blocked, cursor⟩

/-- The progress at the end of the source. -/
def finish (progress : Progress) (cursor : Cursor) : Scan :=
  ⟨true, 0, progress.firstComment, false, cursor⟩

/-- The progress after a line feed. -/
def nextLine (progress : Progress) : Progress := { progress with lineEnded := true, width := 0 }

/-- The progress after so many more columns. -/
def widen (progress : Progress) (columns : Nat) : Progress :=
  { progress with width := progress.width + columns }

/-- The progress after the column is started over. -/
def restart (progress : Progress) : Progress := { progress with width := 0 }

/-- The progress at a comment on a line of its own. -/
def enterComment (progress : Progress) : Progress :=
  { progress with
    firstComment := progress.firstComment.or (some progress.width)
    inComment := true }

/-- The progress after the line feed that ends a comment. -/
def leaveComment (progress : Progress) : Progress :=
  { progress with width := 0, inComment := false }

end Progress

/-- Scans blanks, joined lines and comments. -/
def scanFrom (comments : Bool) (progress : Progress) (position : Position) (offset : Nat) :
    List Char → Scan
  | [] => progress.finish ⟨[], position, offset⟩
  | c :: rest =>
    let next := position.after c
    if progress.inComment then
      let progress := if c = '\n' then progress.leaveComment else progress
      scanFrom comments progress next (offset + 1) rest
    else if c = '\n' then scanFrom comments progress.nextLine next (offset + 1) rest
    else if c = ' ' then scanFrom comments (progress.widen 1) next (offset + 1) rest
    else if c = '\r' || c = '\x0c' then scanFrom comments progress.restart next (offset + 1) rest
    else if c = '\t' then scanFrom comments (progress.widen 8) next (offset + 1) rest
    else if c = '#' && comments then
      if progress.lineEnded then
        scanFrom comments progress.enterComment next (offset + 1) rest
      else progress.stop true ⟨c :: rest, position, offset⟩
    else if c = '\\' then
      match rest with
      | '\n' :: rest => scanFrom comments progress (next.after '\n') (offset + 2) rest
      | '\r' :: '\n' :: rest =>
        scanFrom comments progress ((next.after '\r').after '\n') (offset + 3) rest
      | [] => progress.finish ⟨[], next, offset + 1⟩
      | ['\r'] => progress.finish ⟨[], next.after '\r', offset + 2⟩
      | rest => progress.stop true ⟨c :: rest, position, offset⟩
    else progress.stop false ⟨c :: rest, position, offset⟩

/-- Scans the blanks at a cursor. -/
def scan (admitted : Admitted) (cursor : Cursor) : Scan :=
  scanFrom (passesComments admitted) {} cursor.position cursor.offset cursor.rest

/-- A token of the layout. -/
inductive Token where
  | newline
  /-- a block that begins at a column -/
  | indent (width : Nat)
  | dedent
  deriving DecidableEq, Repr, Inhabited

/-- Whether a character opens a string that has no letters in front. -/
def isQuote (c : Char) : Bool := c = '"' || c = '\'' || c = '`'

/-- Whether the first comment lies left of a column, or there is none. -/
def commentsAllow (scan : Scan) (width : Nat) : Bool :=
  match scan.firstComment with
  | none => true
  | some column => column < width

/-- Whether the grammar lets a block end here. -/
def admitsDedent (admitted : Admitted) (scan : Scan) : Bool :=
  admitted.dedent ||
    (!admitted.newline && !admitted.close &&
      !(admitted.quote && (scan.cursor.rest.head?.map isQuote).getD false))

/-- The token of the layout after a scan, given the column of the current block and whether a
string with fields is open. -/
def token? (admitted : Admitted) (width : Nat) (inFields : Bool) (scan : Scan) : Option Token :=
  if scan.blocked || !scan.lineEnded then none
  else if admitted.indent && width < scan.width then some (.indent scan.width)
  else if admitsDedent admitted scan && scan.width < width && !inFields && commentsAllow scan width
  then some .dedent
  else if admitted.newline then some .newline
  else none

end Layout

end DeclGraph.Syntax
