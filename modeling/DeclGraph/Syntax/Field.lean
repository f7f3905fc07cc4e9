/-
**Strings and their fields.**

A string with fields holds expressions between braces, each with an optional equals sign, a
conversion and a format, and a format may hold fields again. Inside a string no token is read
ahead: the reader goes from character to character up to a brace or the closing marks.
-/

import DeclGraph.Syntax.Context

namespace DeclGraph.Syntax.Parser

/-- Where the reader stands. -/
def cursor : Parser Cursor := do return (← get).after.cursor

/-- Goes to a cursor without reading a token there. -/
def goTo (cursor : Cursor) : Parser Unit :=
  modify fun ahead => { ahead with after := { ahead.after with cursor } }

/-- Makes the character at a cursor the next token. -/
def goToMark (text : String) (cursor : Cursor) : Parser Unit :=
  modify fun ahead =>
    { ahead with
      token := .mark text
      first := cursor
      after := { ahead.after with cursor := cursor.step } }

/-! ### Strings -/

/-- The fields of a string up to its closing marks, which are passed. -/
def fields (inner : Inner) (quotation : Quotation) : Parser (List Tree) :=
  repeated ([], false) fun (trees, inLine) => do
    let cursor ← cursor
    match quotation.next inLine cursor.rest with
    | .content length inLine =>
      goTo (cursor.steps length)
      return .inl (trees, inLine)
    | .backslash length =>
      goTo (cursor.steps length)
      return .inl (trees, inLine)
    | .field =>
      goToMark "\x7b" cursor
      let tree ← inner .field
      return .inl (tree :: trees, false)
    | .stop length =>
      goTo (cursor.steps length)
      return .inr trees.reverse
    | .fault => fail

/-- One string, whose opening is the next token. -/
def string (inner : Inner) (quotation : Quotation) (follow : Admitted) : Parser Tree := do
  let start ← place
  let trees ← fields inner quotation
  modify fun ahead => { ahead with after := { ahead.after with inFields := false } }
  let stop := (← cursor).position
  advance follow
  let closing := Tree.node { kind := .token, start := stop, stop } []
  node .expression start (trees ++ [closing])

/-- Strings side by side. -/
def strings (inner : Inner) (context : Context) : Parser Tree := do
  let start ← place
  let trees ← repeated [] fun trees => do
    match ← token with
    | .quote quotation => return .inl ((← string inner quotation context.followOrQuote) :: trees)
    | _ => return .inr trees.reverse
  flatten start trees

/-! ### Fields -/

/-- What a field shows: a `yield`, or expressions with commas between them. -/
def shown (inner : Inner) : Parser (List Tree) := do
  if ← isWord "yield" then return [← yielded inner .bracketed]
  else expressions inner .bracketed []

/-- The fields in a format up to the brace that ends it, which becomes the next token. -/
def format (inner : Inner) : Parser (List Tree) :=
  repeated [] fun trees => do
    let cursor ← cursor
    match cursor.rest with
    | '\x7d' :: _ =>
      goToMark "\x7d" cursor
      return .inr trees.reverse
    | '\x7b' :: _ =>
      goToMark "\x7b" cursor
      return .inl ((← inner .field) :: trees)
    | _ :: _ =>
      goTo cursor.step
      return .inl trees
    | [] => fail

/-- The format of a field and the brace behind it, which becomes the next token. A colon with an
equals sign behind it is read as the colon and the first character of the format. -/
def formatAfter (inner : Inner) : Parser (List Tree) := do
  match ← token with
  | .mark ":" => format inner
  | .mark ":=" =>
    goTo (← get).first.step
    format inner
  | .mark "\x7d" => return []
  | _ => fail

/-- A field, from its opening brace to its closing one. -/
def field (inner : Inner) : Parser Tree := do
  let start ← place
  advance .operand
  let values ← shown inner
  if ← isMark "=" then advance { close := true }
  if (← token) = .conversion then advance { close := true }
  let formats ← formatAfter inner
  let stop := (← cursor).position
  return .node { kind := .clause, start, stop } (values ++ formats)

end DeclGraph.Syntax.Parser
