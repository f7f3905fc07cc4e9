/-
**Statements and blocks.**

A block is what follows the colon of a header: statements on the same line, or deeper lines, or
nothing at all. Comments and joined lines between the statements of a block are kept in it, the
layout is not.

* `Site`: where the next statement stands, which decides what the layout may give there;
* `Parser.statement`: one statement, or all statements of one line;
* `Parser.block`: a block, by recursion on its depth.
-/

import DeclGraph.Syntax.CasePattern
import DeclGraph.Syntax.SimpleStatement

namespace DeclGraph.Syntax

/-- What may stand where a statement has ended. -/
inductive Site where
  /-- a statement, or the end of the block -/
  | statement
  /-- a handler of exceptions -/
  | handler
  /-- a handler of exceptions, a statement, or the end of the block -/
  | handlerOrStatement
  /-- another decorator, or what is decorated -/
  | decorated
  /-- a case, or the end of the block -/
  | case

/-- What the grammar admits at a site, inside a block if `nested`. -/
def Site.admitted (nested : Bool) : Site → Admitted
  | statement => { dedent := nested, quote := true }
  | handler => { handler := true }
  | handlerOrStatement => { dedent := nested, quote := true, handler := true }
  | decorated => {}
  | case => { dedent := nested }

/-- A parser of the block behind a colon; the site is what follows the block. -/
abbrev BlockParser := Site → Parser Tree

namespace Admitted

/-- A block must follow. -/
def block : Admitted := { indent := true, newline := true, quote := true }

/-- A block of deeper lines must follow. -/
def deeperBlock : Admitted := { indent := true, newline := true }

end Admitted

namespace Parser

/-- Goes on behind a token of the layout. -/
def advanceTo (site : Site) : Parser Unit := do
  advance (site.admitted (!(← get).after.indents.isEmpty))

/-! ### Blocks -/

/-- Trees up to the end of the block, with comments and joined lines between them. -/
def deeperTrees (one : Parser (List Tree)) (site : Site) : Parser (List Tree) :=
  repeated [] fun trees => do
    let trees := (← trivia).reverse ++ trees
    if (← token) = .dedent then
      advanceTo site
      return .inr trees.reverse
    else return .inl ((← one).reverse ++ trees)

/-- A block without statements. -/
def emptyBlock (site : Site) : Parser Tree := do
  let block ← leaf .block
  advanceTo site
  return block

/-- The statements of one line and the end of the line. -/
def lineOf (inner : Inner) (depth : Nat) (site : Site) : Parser (List Tree) := do
  let trees ← simpleStatements inner depth
  advanceTo site
  return trees

/-- A block whose lines are parsed by `one`. -/
def blockOf (inner : Inner) (depth : Nat) (one : Parser (List Tree)) : BlockParser := fun site => do
  let start ← place
  match ← token with
  | .indent =>
    advanceTo .statement
    node .block start (← deeperTrees one site)
  | .newline => emptyBlock site
  | _ => node .block start (← lineOf inner depth site)

/-- The colon of a header and its block. -/
def blockAfterColon (block : BlockParser) (site : Site) : Parser (List Tree) := do
  let colon ← mark ":" .block
  return [colon, (← block site).withRole .body]

/-- A word with the block behind its colon, if the word is next. -/
def optionalBlock (word : String) (block : BlockParser) : Parser (List Tree) := do
  if ← isWord word then
    let word ← take .token {}
    return word :: (← blockAfterColon block .statement)
  else return []

/-! ### Branches and loops -/

/-- A word, a condition and a block. -/
def conditionAndBlock (inner : Inner) (block : BlockParser) : Parser (List Tree) := do
  let word ← take .token .operand
  let condition ← inner (.expression {})
  return word :: condition :: (← blockAfterColon block .statement)

/-- An `if` with its other branches. -/
def ifStatement (inner : Inner) (block : BlockParser) : Parser (List Tree) := do
  let first ← conditionAndBlock inner block
  let trees ← repeated first fun trees => do
    if ← isWord "elif" then return .inl (trees ++ (← conditionAndBlock inner block))
    else return .inr trees
  return trees ++ (← optionalBlock "else" block)

/-- A `while` loop. -/
def whileStatement (inner : Inner) (block : BlockParser) : Parser (List Tree) := do
  let first ← conditionAndBlock inner block
  return first ++ (← optionalBlock "else" block)

/-- A `for` loop. -/
def forStatement (inner : Inner) (block : BlockParser) : Parser (List Tree) := do
  let word ← take .token .operand
  let left ← targets inner
  let right ← expressions inner {} []
  let body ← blockAfterColon block .statement
  return word :: left ++ right ++ body ++ (← optionalBlock "else" block)

/-- A `with` statement. -/
def withStatement (inner : Inner) (block : BlockParser) : Parser (List Tree) := do
  let word ← take .token .operand
  let items ← expressions inner {} []
  return word :: items ++ (← blockAfterColon block .statement)

/-! ### Exceptions -/

/-- The name that a handler binds, if there is one. -/
def handlerName (inner : Inner) (grouped : Bool) : Parser (List Tree) := do
  if (← isWord "as") || (!grouped && (← isMark ",")) then
    let sign ← take .token .operand
    return [sign, ← inner (.expression {})]
  else return []

/-- A handler of exceptions; all handlers of a statement are grouped by a star or none is. -/
def handler (inner : Inner) (block : BlockParser) (grouped : Bool) : Parser (List Tree) := do
  let word ← take .token .operand
  let star ← if grouped then do pure [← mark "*" .operand] else pure []
  if !grouped && (← isMark ":") then
    return word :: (← blockAfterColon block .handlerOrStatement)
  else
    let caught ← inner (.expression {})
    let name ← handlerName inner grouped
    return word :: star ++ caught :: name ++ (← blockAfterColon block .handlerOrStatement)

/-- Whether a star stands right behind the next word. -/
def isGrouped : Parser Bool := do return (← get).after.cursor.rest.head? = some '*'

/-- A `try` with its handlers. -/
def tryStatement (inner : Inner) (block : BlockParser) : Parser (List Tree) := do
  let word ← take .token {}
  let body ← blockAfterColon block .handler
  match ← token with
  | .word "finally" => return word :: body ++ (← optionalBlock "finally" block)
  | .word "except" =>
    let grouped ← isGrouped
    let first ← handler inner block grouped
    let handlers ← repeated first fun trees => do
      if (← isWord "except") && (← isGrouped) == grouped then
        return .inl (trees ++ (← handler inner block grouped))
      else return .inr trees
    let other ← optionalBlock "else" block
    return word :: body ++ handlers ++ other ++ (← optionalBlock "finally" block)
  | _ => fail

/-! ### Definitions -/

/-- A class. -/
def classDefinition (inner : Inner) (depth : Nat) (block : BlockParser) : Parser Tree := do
  let start ← place
  let word ← keyword "class" {}
  let name ← name {}
  let types ← typeParameters inner depth
  let bases ← if ← isMark "(" then do pure [(← arguments inner {}).withRole .superclasses]
    else pure []
  if bases.any fun list => list.kind != .argumentList then fail
  else
    let body ← blockAfterColon block .statement
    node .classDefinition start (word :: name.withRole .name :: types ++ bases ++ body)

/-- The result type of a function, if it is given. -/
def resultType (inner : Inner) (depth : Nat) : Parser (List Tree) := do
  if ← isMark "->" then
    let arrow ← take .token .operand
    return [arrow, ← type inner depth false {}]
  else return []

/-- The parameters of a function in their parentheses. -/
def parameterList (inner : Inner) (depth : Nat) : Parser Tree := do
  let start ← place
  let bracket ← mark "(" { close := true }
  let names ← parameters inner (typeAfterName inner depth .bracketed) .bracketed ")"
  let last ← mark ")" {}
  node .clause start (bracket :: names ++ [last])

/-- A function, perhaps with `async` in front. -/
def functionDefinition (inner : Inner) (depth : Nat) (block : BlockParser) : Parser Tree := do
  let start ← place
  let async ← if ← isWord "async" then do pure [← take .token {}] else pure []
  let word ← keyword "def" {}
  let name ← name {}
  let types ← typeParameters inner depth
  let parameters ← parameterList inner depth
  let result ← resultType inner depth
  let body ← blockAfterColon block .statement
  node .functionDefinition start
    (async ++ word :: name.withRole .name :: types ++ parameters :: result ++ body)

/-- A decorator and the end of its line. -/
def decorator (inner : Inner) : Parser Tree := do
  let start ← place
  let sign ← mark "@" .operand
  let tree ← inner (.expression .lineEnd)
  if (← token) = .newline then
    advanceTo .decorated
    node .clause start [sign, tree]
  else fail

/-- A class or function with decorators in front. -/
def decoratedDefinition (inner : Inner) (depth : Nat) (block : BlockParser) : Parser Tree := do
  let start ← place
  let first ← decorator inner
  let decorators ← repeated [first] fun trees => do
    if ← isMark "@" then return .inl ((← decorator inner) :: trees) else return .inr trees.reverse
  let definition ← if ← isWord "class" then classDefinition inner depth block
    else functionDefinition inner depth block
  node .decoratedDefinition start (decorators ++ [definition.withRole .definition])

/-! ### Cases -/

/-- The condition of a case, if it has one. -/
def guard (inner : Inner) : Parser (List Tree) := do
  if ← isWord "if" then
    let word ← take .token .operand
    return [word, ← inner (.expression {})]
  else return []

/-- A case. -/
def caseClause (inner : Inner) (depth : Nat) (block : BlockParser) : Parser (List Tree) := do
  let start ← place
  let word ← keyword "case" .operand
  let first ← casePattern inner depth {}
  let patterns ← repeated [first] fun trees => do
    if ← isMark "," then
      let comma ← take .token .operand
      if (← isMark ":") || (← isWord "if") then return .inr (comma :: trees).reverse
      return .inl ((← casePattern inner depth {}) :: comma :: trees)
    else return .inr trees.reverse
  let guard ← guard inner
  let body ← blockAfterColon block .case
  return [← node .clause start (word :: patterns ++ guard ++ body)]

/-- The cases of a `match`. -/
def cases (inner : Inner) (depth : Nat) (block : BlockParser) : Parser Tree := do
  let start ← place
  match ← token with
  | .indent =>
    advanceTo .case
    node .block start (← deeperTrees (caseClause inner depth block) .statement)
  | .newline => emptyBlock .statement
  | _ => fail

/-- A `match` with its cases. -/
def matchStatement (inner : Inner) (depth : Nat) (block : BlockParser) : Parser (List Tree) := do
  let word ← keyword "match" .operand
  let subjects ← expressions inner {} []
  let colon ← mark ":" .deeperBlock
  return word :: subjects ++ [colon, (← cases inner depth block).withRole .body]

/-! ### Statements -/

/-- What follows `async` in front of a loop or a `with`. -/
def asyncStatement (inner : Inner) (block : BlockParser) : Parser (List Tree) := do
  let word ← keyword "async" {}
  if ← isWord "for" then return word :: (← forStatement inner block)
  else if ← isWord "with" then return word :: (← withStatement inner block)
  else fail

/-- One statement, or the statements of one line. -/
def statement (inner : Inner) (depth : Nat) (block : BlockParser) : Parser (List Tree) := do
  let compound (children : Parser (List Tree)) : Parser (List Tree) := do
    return [← statementOf children]
  let line := lineOf inner depth .statement
  match ← token with
  | .word "if" => compound (ifStatement inner block)
  | .word "while" => compound (whileStatement inner block)
  | .word "for" => compound (forStatement inner block)
  | .word "with" => compound (withStatement inner block)
  | .word "try" => compound (tryStatement inner block)
  | .word "class" => return [← classDefinition inner depth block]
  | .word "def" => return [← functionDefinition inner depth block]
  | .mark "@" => return [← decoratedDefinition inner depth block]
  | .word "async" =>
    let word ← isAsyncWord
    if word = "def" then return [← functionDefinition inner depth block]
    else if word = "for" || word = "with" then compound (asyncStatement inner block)
    else line
  | .word "match" => orElse (compound (matchStatement inner depth block)) line
  | _ => line
where
  /-- The word behind the next token. -/
  isAsyncWord : Parser String := do
    match (Ahead.read .lineEnd (← get).after).token with
    | .word text => return text
    | _ => return ""

/-- A block, up to a depth of nesting. -/
def block (inner : Inner) (depth : Nat) : Nat → BlockParser
  | 0, _ => fail
  | nesting + 1, site =>
    blockOf inner depth (statement inner depth (block inner depth nesting)) site

end Parser

end DeclGraph.Syntax
