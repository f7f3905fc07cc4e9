/-
**Sources.**

The tree of a whole source. A source that the grammar does not accept has a tree, too: an error at
the place of the token that does not fit.
-/

import DeclGraph.Syntax.Statement

namespace DeclGraph.Syntax

namespace Parser

/-- The statements of a source up to its end, with comments and joined lines between them. -/
def statements (one : Parser (List Tree)) : Parser (List Tree) :=
  repeated [] fun trees => do
    let trees := (← trivia).reverse ++ trees
    if (← token) = .finish then return .inr trees.reverse
    else return .inl ((← one).reverse ++ trees)

/-- A source. -/
def module (depth : Nat) : Parser Tree := do
  let inner := goal depth
  node .module {} (← statements (statement inner depth (block inner depth depth)))

end Parser

namespace Tree

/-- The tree of a source that is given by its characters. -/
def ofChars (chars : List Char) : Tree :=
  let reader := Reader.ofChars chars
  if chars.contains '\x00' then .node { kind := .error } []
  else
    match (Parser.module reader.budget).run (Ahead.read (Site.statement.admitted false) reader) with
    | .ok (tree, _) => tree
    | .error position => .node { kind := .error, start := position, stop := position } []

/-- The tree of a source. -/
def ofSource (source : String) : Tree := ofChars source.toList

end Tree

end DeclGraph.Syntax
