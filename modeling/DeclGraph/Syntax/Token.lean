/-
**Tokens.**

Tokens are read on demand, because what stands at a place depends on what the grammar admits there.
First the blanks are scanned for a token of the layout, then a string may open; otherwise blanks
are skipped, and a word, a numeral or the longest mark is taken. Comments and joined lines stand
between tokens; after each of them the layout is looked at anew.

* `Ahead`: the next token and the reader after it;
* `Ahead.read`: the token at a reader's place.
-/

import DeclGraph.Syntax.Layout
import DeclGraph.Syntax.Numeral
import DeclGraph.Syntax.Quotation

namespace DeclGraph.Syntax

/-- A token. -/
inductive Token where
  | word (text : String)
  | number
  /-- the opening of a string -/
  | quote (quotation : Quotation)
  | mark (text : String)
  /-- an exclamation mark and a letter, inside a field -/
  | conversion
  | newline
  | indent
  | dedent
  /-- the end of the source -/
  | finish
  /-- a character that begins no token -/
  | unknown
  deriving DecidableEq, Repr, Inhabited

/-! ### Marks and words -/

namespace Token

/-- The marks of three characters. -/
def longMarks : List String := ["**=", "//=", ">>=", "<<=", "..."]

/-- The marks of two characters. -/
def middleMarks : List String :=
  ["**", "//", ">>", "<<", "<=", ">=", "==", "!=", "<>", "->", ":=", "+=", "-=", "*=", "/=", "%=",
    "&=", "|=", "^=", "@="]

/-- The marks of one character. -/
def shortMarks : List Char := "+-*/%@&|^~<>()[]\x7b\x7d,:.;=".toList

/-- The mark among these that the characters begin with. -/
def markOf? (length : Nat) (marks : List String) (chars : List Char) : Option (String × Nat) :=
  let text := String.ofList (chars.take length)
  if marks.contains text then some (text, length) else none

/-- Whether a character may begin a mark of several characters. -/
def beginsMark (c : Char) : Bool := "+-*/%@&|^<>:.=!".toList.contains c

/-- The longest mark that the characters begin with, and its length. -/
def mark? (chars : List Char) : Option (String × Nat) :=
  match chars with
  | [] => none
  | c :: _ =>
    let short := if shortMarks.contains c then some (String.ofList [c], 1) else none
    if beginsMark c then
      ((markOf? 3 longMarks chars).or (markOf? 2 middleMarks chars)).or short
    else short

/-- Whether the characters begin with an exclamation mark and a small letter. -/
def isConversion : List Char → Bool
  | '!' :: c :: _ => 'a' ≤ c && c ≤ 'z'
  | _ => false

/-- The token that begins at a cursor, and the cursor after it; blanks, comments and strings are
dealt with before. -/
def plain (cursor : Cursor) : Token × Cursor :=
  match cursor.rest with
  | [] => (finish, cursor)
  | c :: _ =>
    if Text.isIdentifierStart c then
      let (text, after) := cursor.span Text.isIdentifierPart
      (word (String.ofList text), after)
    else
      match Numeral.numeralLength cursor.rest with
      | length + 1 => (number, cursor.steps (length + 1))
      | 0 =>
        match mark? cursor.rest with
        | some (text, length) => (mark text, cursor.steps length)
        | none =>
          if isConversion cursor.rest then (conversion, cursor.steps 2) else (unknown, cursor)

end Token

/-! ### Reading -/

/-- A reader between two tokens. -/
structure Reader where
  cursor : Cursor
  /-- the columns of the open blocks, innermost first -/
  indents : List Nat := []
  /-- whether the string opened last holds fields and is still open -/
  inFields : Bool := false
  /-- a bound for the repetitions of any construct -/
  budget : Nat
  deriving Repr, Inhabited

namespace Reader

/-- The column of the current block. -/
def width (reader : Reader) : Nat := reader.indents.headD 0

/-- A reader at the start of a source. A mark of byte order in front is not part of its layout. -/
def ofChars (chars : List Char) : Reader :=
  let cursor : Cursor := ⟨chars, {}, 0⟩
  { cursor := if chars.head? = some '\uFEFF' then cursor.step else cursor
    budget := chars.length + 2 }

/-- The reader after a token of the layout. -/
def afterLayout (reader : Reader) : Layout.Token → Reader
  | .newline => reader
  | .indent width => { reader with indents := width :: reader.indents }
  | .dedent => { reader with indents := reader.indents.tail }

end Reader

/-- The next token. -/
structure Ahead where
  token : Token
  /-- where the token before it ends -/
  before : Cursor
  /-- where it begins -/
  first : Cursor
  /-- comments and joined lines in front of it -/
  trivia : List Tree := []
  /-- the reader after it -/
  after : Reader
  deriving Repr, Inhabited

namespace Ahead

/-- The token for a token of the layout. -/
def layoutToken : Layout.Token → Token
  | .newline => .newline
  | .indent _ => .indent
  | .dedent => .dedent

/-- The string that opens after the blanks of a scan. -/
def quoteAt? (admitted : Admitted) (scan : Layout.Scan) : Option (Quotation × Cursor) :=
  if admitted.quote && !scan.blocked && scan.firstComment.isNone then
    (Quotation.opening? scan.cursor.rest).map fun (quotation, length) =>
      (quotation, scan.cursor.steps length)
  else none

/-- The length of a joined line, backslash and ending together; zero if lines are not joined. -/
def joinLength : List Char → Nat
  | '\\' :: '\n' :: _ => 2
  | '\\' :: '\r' :: '\n' :: _ => 3
  | ['\\'] => 1
  | _ => 0

/-- The comment or joined line at a cursor, and the cursor after it. -/
def trivial? (cursor : Cursor) : Option (Kind × Cursor) :=
  if cursor.rest.head? = some '#' then some (.comment, cursor.skip (· != '\n'))
  else
    match joinLength cursor.rest with
    | 0 => none
    | length => some (.continuation, cursor.steps length)

/-- Reads a token; comments and joined lines found before it are held in reverse. -/
def readFrom (admitted : Admitted) (before : Cursor) (reader : Reader) (trivia : List Tree) :
    Nat → Ahead
  | 0 => ⟨.unknown, before, reader.cursor, trivia.reverse, reader⟩
  | steps + 1 =>
    let scan := Layout.scan admitted reader.cursor
    match Layout.token? admitted reader.width reader.inFields scan with
    | some token =>
      ⟨layoutToken token, before, reader.cursor, trivia.reverse, reader.afterLayout token⟩
    | none =>
      match quoteAt? admitted scan with
      | some (quotation, cursor) =>
        ⟨.quote quotation, before, scan.cursor, trivia.reverse,
          { reader with cursor, inFields := quotation.fields }⟩
      | none =>
        let first := reader.cursor.skip Cursor.isSpace
        match trivial? first with
        | some (kind, cursor) =>
          let passed := Tree.node { kind, start := first.position, stop := cursor.position } []
          readFrom admitted before { reader with cursor } (passed :: trivia) steps
        | none =>
          let (token, cursor) := Token.plain first
          ⟨token, before, first, trivia.reverse, { reader with cursor }⟩

/-- Reads the token at a reader's place. -/
def read (admitted : Admitted) (reader : Reader) : Ahead :=
  readFrom admitted reader.cursor reader [] reader.budget

end Ahead

end DeclGraph.Syntax
