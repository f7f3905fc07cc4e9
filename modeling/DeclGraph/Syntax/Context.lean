/-
**Where expressions stand.**

Operators keep their operands in the order of the source and nothing more: an expression with
operators is one node with all its operands, whatever binds tighter. A word is reserved only where
the grammar could use it, and is a name elsewhere.

* `Context`: what may follow an expression;
* `Goal`, `Inner`: what an expression may hold inside, and the parser of it. The functions of the
  grammar take that parser as an argument, so that each of them is no recursion of its own.
-/

import DeclGraph.Syntax.Parser

namespace DeclGraph.Syntax

/-- Where an expression stands. -/
structure Context where
  /-- what the grammar admits after it -/
  follow : Admitted := {}
  /-- whether an `if` after it makes it conditional -/
  conditional : Bool := true
  deriving Repr, Inhabited

namespace Context

/-- What is admitted after an expression, or a string. -/
def followOrQuote (context : Context) : Admitted := { context.follow with quote := true }

/-- The context of an element between brackets. -/
def bracketed : Context := { follow := { close := true } }

/-- The context of a clause of a comprehension. -/
def comprehended : Context := { follow := { close := true }, conditional := false }

/-- The context of an expression at the end of a simple statement. -/
def lineEnd : Context := { follow := { newline := true } }

end Context

namespace Admitted

/-- An operand must follow. -/
def operand : Admitted := { quote := true }

/-- An element or a closing bracket must follow. -/
def element : Admitted := { quote := true, close := true }

/-- The end of a simple statement may follow. -/
def lineEnd : Admitted := { newline := true }

/-- An expression or the end of a simple statement must follow. -/
def operandOrLineEnd : Admitted := { quote := true, newline := true }

end Admitted

/-- What an expression may hold inside: an expression, an operand with its trailers, or a field
from its opening brace, which is the next token at the start, to its closing brace, which is the
next token at the end. -/
inductive Goal where
  | expression (context : Context)
  | primary (context : Context)
  | field

/-- A parser of what an expression holds inside. -/
abbrev Inner := Goal → Parser Tree

/-! ### Words and marks -/

namespace Token

/-- The words that stand for values. -/
def constants : List String := ["True", "False", "None"]

/-- The words that may stand behind an operand. -/
def continuations : List String :=
  ["if", "else", "and", "or", "in", "is", "not", "for", "async", "as", "from"]

/-- The marks that an operand may begin with. -/
def openingMarks : List String := ["(", "[", "\x7b", "-", "+", "~", "*", "..."]

/-- The marks between two operands. -/
def operatorMarks : List String :=
  ["+", "-", "*", "/", "%", "@", "//", "**", "|", "&", "^", "<<", ">>",
    "<", "<=", "==", "!=", ">=", ">", "<>"]

/-- Whether a token is one of these words. -/
def isAmong (words : List String) : Token → Bool
  | word text => words.contains text
  | _ => false

/-- Whether a token can begin an expression. -/
def beginsExpression : Token → Bool
  | word _ | number | quote _ => true
  | mark text => openingMarks.contains text
  | _ => false

/-- Whether a token can begin an operand where words may also continue what stands before. -/
def beginsOperand (token : Token) : Bool :=
  token.beginsExpression && !token.isAmong continuations

end Token

namespace Parser

/-- A single tree as it is, several ones as an expression. -/
def flatten (start : Position) : List Tree → Parser Tree
  | [tree] => return tree
  | trees => node .expression start trees

/-- Expressions with commas between them, behind the first one. A token that begins no expression,
or one of the words that may follow the list, ends it after a comma. -/
def expressionsAfter (inner : Inner) (context : Context) (ends : List String) (first : Tree) :
    Parser (List Tree) :=
  repeated [first] fun trees => do
    if ← isMark "," then
      let comma ← take .token context.followOrQuote
      let next ← token
      if next.isAmong ends || !next.beginsExpression then return .inr (comma :: trees).reverse
      let tree ← inner (.expression context)
      return .inl (tree :: comma :: trees)
    else return .inr trees.reverse

/-- One or more expressions with commas between them and perhaps at the end. -/
def expressions (inner : Inner) (context : Context) (ends : List String) : Parser (List Tree) := do
  expressionsAfter inner context ends (← inner (.expression context))

/-- A `yield` and what it yields. -/
def yielded (inner : Inner) (context : Context) : Parser Tree := do
  let start ← place
  let word ← keyword "yield" context.followOrQuote
  let next ← token
  if next = .word "from" then
    let source ← take .token .operand
    let tree ← inner (.expression context)
    node .expression start [word, source, tree]
  else if next.beginsOperand || next = .word "not" then
    let trees ← expressions inner context []
    node .expression start (word :: trees)
  else node .expression start [word]

end Parser

end DeclGraph.Syntax
