/-
**Expressions.**

`not`, `lambda` and an assignment by `:=` begin an expression or the operand of `and`, `or` and
`not`, but no operand of a comparison or of arithmetic, where these words are names. An operand may
have signs in front; `await` is one of them where an operand follows it, and a name elsewhere.

* `Parser.parameters`: the parameters of a function, also used for definitions;
* `Parser.expression`: an expression in its context;
* `Parser.goal`: the parser of all that an expression may hold inside, by recursion on the depth.
-/

import DeclGraph.Syntax.Field
import DeclGraph.Syntax.Trailer

namespace DeclGraph.Syntax.Parser

/-! ### Operands -/

/-- An operand without signs and trailers. -/
def atom (inner : Inner) (context : Context) : Parser Tree := do
  let next ← token
  match next with
  | .word _ =>
    if next.isAmong Token.constants then take .expression context.follow else name context.follow
  | .number | .mark "..." => take .expression context.follow
  | .quote _ => strings inner context
  | .mark "(" => bracketed inner context .tuple "(" ")"
  | .mark "[" => bracketed inner context .list "[" "]"
  | .mark "\x7b" => braced inner context
  | _ => fail

/-- An operand with its trailers, without signs. -/
def primary (inner : Inner) (context : Context) : Parser Tree := do
  trailers inner context (← atom inner context)

/-- A word that is a sign if an operand follows it, and a name with its trailers otherwise. -/
def signOrName (inner : Inner) (context : Context) : Parser (Tree ⊕ Tree) := do
  let sign ← leaf .token
  let word ← name context.followOrQuote
  if (← token).beginsOperand then return .inl sign
  else return .inr (← trailers inner context word)

/-- An operand with its signs. -/
def operand (inner : Inner) (context : Context) : Parser Tree := do
  let start ← place
  let trees ← repeated [] fun trees => do
    match ← token with
    | .mark "+" | .mark "-" | .mark "~" => return .inl ((← take .token .operand) :: trees)
    | .word "await" =>
      match ← signOrName inner context with
      | .inl sign => return .inl (sign :: trees)
      | .inr tree => return .inr (tree :: trees).reverse
    | .mark "*" =>
      let tree ← starred inner context
      return .inr ((← trailers inner context tree) :: trees).reverse
    | _ => return .inr ((← primary inner context) :: trees).reverse
  flatten start trees

/-! ### Parameters -/

/-- The default of a parameter, if it has one. -/
def defaultOf (inner : Inner) (context : Context) : Parser (List Tree) := do
  if ← isMark "=" then
    let equals ← take .token .operand
    return [equals, ← inner (.expression context)]
  else return []

/-- A starred parameter, or a star alone; `typing` reads what may follow the name. -/
def starredParameter (inner : Inner) (typing : Parser (List Tree)) (context : Context) :
    Parser Tree := do
  let start ← place
  let double ← isMark "**"
  let star ← take .token context.followOrQuote
  if double || (← token).beginsExpression then
    let tree ← inner (.primary context)
    if tree.isStarrable then node .clause start (star :: tree :: (← typing)) else fail
  else return star

/-- One parameter; `typing` reads what may follow a name. -/
def parameter (inner : Inner) (typing : Parser (List Tree)) (context : Context) :
    Parser Tree := do
  let start ← place
  match ← token with
  | .mark "*" | .mark "**" => starredParameter inner typing context
  | .mark "/" => take .token context.follow
  | .mark "(" =>
    let tree ← bracketed inner context .tuple "(" ")"
    if tree.isTarget then node .clause start (tree :: (← defaultOf inner context)) else fail
  | _ =>
    let name ← name context.follow
    let type ← typing
    node .clause start (name :: type ++ (← defaultOf inner context))

/-- Parameters with commas between them up to a closing mark, which is left as the next token. -/
def parameters (inner : Inner) (typing : Parser (List Tree)) (context : Context)
    (closing : String) : Parser (List Tree) := do
  if ← isMark closing then return []
  else
    let first ← parameter inner typing context
    repeated [first] fun trees => do
      if ← isMark closing then return .inr trees.reverse
      let comma ← mark "," context.followOrQuote
      if ← isMark closing then return .inl (comma :: trees)
      return .inl ((← parameter inner typing context) :: comma :: trees)

/-! ### Expressions -/

/-- The words in front of an operand: `not`, `lambda` with its parameters, and a name with `:=`.
All trees are given in reverse. -/
def unit (inner : Inner) (context : Context) (read : List Tree) : Parser (List Tree) :=
  repeated read fun trees => do
    match ← token with
    | .word "not" => return .inl ((← take .token .operand) :: trees)
    | .word "lambda" =>
      let word ← take .token {}
      let names ← parameters inner (pure []) {} ":"
      let colon ← mark ":" .operand
      return .inl (colon :: names.reverse ++ word :: trees)
    | _ =>
      let tree ← operand inner context
      if tree.kind = .identifier && (← isMark ":=") then
        return .inl ((← take .token .operand) :: tree :: trees)
      else return .inr (tree :: trees)

/-- The operators behind an operand and their operands, in reverse; `none` if there is none. -/
def continuation? (inner : Inner) (context : Context) (trees : List Tree) :
    Parser (Option (List Tree)) := do
  match ← token with
  | .mark text =>
    if Token.operatorMarks.contains text then
      let sign ← take .token .operand
      return some ((← operand inner context) :: sign :: trees)
    else return none
  | .word "in" =>
    let word ← take .token .operand
    return some ((← operand inner context) :: word :: trees)
  | .word "not" =>
    let word ← take .token {}
    let other ← keyword "in" .operand
    return some ((← operand inner context) :: other :: word :: trees)
  | .word "is" =>
    let word ← take .token .operand
    let others ← if ← isWord "not" then do pure [← take .token .operand] else pure []
    return some ((← operand inner context) :: others ++ word :: trees)
  | .word "and" | .word "or" | .word "as" =>
    let word ← take .token .operand
    return some (← unit inner context (word :: trees))
  | .word "if" =>
    if context.conditional then
      let word ← take .token .operand
      let condition ← inner (.expression {})
      let other ← keyword "else" .operand
      return some (← unit inner context (other :: condition :: word :: trees))
    else return none
  | _ => return none

/-- An expression. -/
def expression (inner : Inner) (context : Context) : Parser Tree := do
  let start ← place
  let first ← unit inner context []
  let trees ← repeated first fun trees => do
    match ← continuation? inner context trees with
    | some trees => return .inl trees
    | none => return .inr trees
  flatten start trees.reverse

/-- What an expression may hold inside, up to a depth of nesting. -/
def goal : Nat → Inner
  | 0, _ => fail
  | depth + 1, .expression context => expression (goal depth) context
  | depth + 1, .primary context => primary (goal depth) context
  | depth + 1, .field => field (goal depth)

end DeclGraph.Syntax.Parser
