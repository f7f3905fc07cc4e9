/-
**Statements on one line.**

Expressions, assignments, imports and the statements of one keyword. An import gives a node for
each name that it binds. The words of statements that the language has dropped, `print` and `exec`,
are names wherever the line can be read so, and their old statements are kept as such otherwise;
`print` with `>>` behind it is always the old statement.
-/

import DeclGraph.Syntax.Annotation

namespace DeclGraph.Syntax.Parser

/-! ### Assignments -/

/-- The marks that assign the result of an operation. -/
def assigningMarks : List String :=
  ["+=", "-=", "*=", "/=", "@=", "//=", "%=", "**=", ">>=", "<<=", "&=", "^=", "|="]

/-- A `yield`, or expressions with commas between them. -/
def values (inner : Inner) : Parser (List Tree) := do
  if ← isWord "yield" then return [← yielded inner .lineEnd] else expressions inner .lineEnd []

/-- Whether values can be assigned to what has been read last. -/
def assignable (trees : List Tree) : Bool := !trees.isEmpty && Tree.areTargets trees

/-- What stands behind the first expressions of a statement: assignments, one after the other. -/
def assignmentsAfter (inner : Inner) (depth : Nat) (first : List Tree) : Parser (List Tree) :=
  repeated (first, first) fun (trees, last) => do
    match ← token with
    | .mark text =>
      if text = ":" && assignable last then
        let colon ← take .token .operand
        let type ← type inner depth true .lineEnd
        if ← isMark "=" then
          let equals ← take .token .operand
          let values ← values inner
          return .inl (trees ++ colon :: type :: equals :: values, values)
        else return .inr (trees ++ [colon, type])
      else if (text = "=" || assigningMarks.contains text) && assignable last then
        let sign ← take .token .operand
        let values ← values inner
        return .inl (trees ++ sign :: values, values)
      else return .inr trees
    | _ => return .inr trees

/-- An expression, expressions with commas between them, or assignments. -/
def expressionStatement (inner : Inner) (depth : Nat) : Parser Tree := do
  let start ← place
  let first ← values inner
  node .statement start (← assignmentsAfter inner depth first)

/-! ### Imports -/

/-- Everything taken since a place, as one name. -/
def nameSince (first : Cursor) (role : Option Role) : Parser Tree := do
  let last := (← get).before
  return .node ⟨.dottedName, role, first.position, last.position, first.textTo last⟩ []

/-- Names with points between them, as one name. -/
def dottedName (follow : Admitted) : Parser Tree := do
  let first := (← get).first
  let _ ← name follow
  repeated () fun _ => do
    if ← isMark "." then
      advance {}
      let _ ← name follow
      return .inl ()
    else return .inr ()
  nameSince first none

/-- A name to import, perhaps under another name. -/
def importedName (follow : Admitted) : Parser Tree := do
  let start ← place
  let tree ← dottedName follow
  if ← isWord "as" then
    let word ← take .token {}
    let newName ← name follow
    let node ← node .aliasedImport start [tree.withRole .name, word, newName.withRole .newName]
    return node.withRole .name
  else return tree.withRole .name

/-- Names to import, with commas between them and perhaps at the end. -/
def importedNames (follow : Admitted) : Parser (List Tree) := do
  let first ← importedName follow
  repeated [first] fun trees => do
    if ← isMark "," then
      let comma ← take .token follow
      match ← token with
      | .word _ => return .inl ((← importedName follow) :: comma :: trees)
      | _ => return .inr (comma :: trees).reverse
    else return .inr trees.reverse

/-- An import of modules. -/
def importStatement : Parser Tree := do
  let start ← place
  let word ← keyword "import" {}
  node .importStatement start (word :: (← importedNames .lineEnd))

/-- The points in front of a module. -/
def modulePoints : Parser Unit :=
  repeated () fun _ => do
    if (← isMark ".") || (← isMark "...") then
      advance {}
      return .inl ()
    else return .inr ()

/-- The module of an import, with the points in front of it. -/
def importedModule : Parser Tree := do
  let first := (← get).first
  modulePoints
  let relative := (← get).first.offset != first.offset
  if relative && (← isWord "import") then pure ()
  else
    let _ ← dottedName {}
    pure ()
  nameSince first (some .moduleName)

/-- What is imported from a module: names, perhaps in parentheses, or everything. -/
def importedPart (everything : Bool) : Parser (List Tree) := do
  match ← token with
  | .mark "*" => if everything then return [← take .clause .lineEnd] else fail
  | .mark "(" =>
    let bracket ← take .token {}
    let names ← importedNames { close := true }
    return bracket :: names ++ [← mark ")" .lineEnd]
  | _ => importedNames .lineEnd

/-- An import of names from a module. Names from `__future__` switch features on and bind
nothing. -/
def importFromStatement : Parser Tree := do
  let start ← place
  let word ← keyword "from" {}
  if ← isWord "__future__" then
    let module ← take .token {}
    let other ← keyword "import" {}
    node .statement start (word :: module :: other :: (← importedPart false))
  else
    let module ← importedModule
    let other ← keyword "import" {}
    node .importFromStatement start (word :: module :: other :: (← importedPart true))

/-! ### Statements of one keyword -/

/-- A keyword and expressions behind it, which must be there if `needed`. -/
def keywordStatement (inner : Inner) (needed : Bool) (ends : List String) : Parser (List Tree) := do
  let word ← take .token .operandOrLineEnd
  let next ← token
  if needed || (next.beginsExpression && !next.isAmong ends) then
    return word :: (← expressions inner .lineEnd ends)
  else return [word]

/-- A `raise`, perhaps with a cause. -/
def raiseStatement (inner : Inner) : Parser (List Tree) := do
  let trees ← keywordStatement inner false ["from"]
  if ← isWord "from" then
    let word ← take .token .operand
    return trees ++ [word, ← inner (.expression .lineEnd)]
  else return trees

/-- A word and expressions behind it, with commas between them and none at the end. -/
def plainExpressions (inner : Inner) : Parser (List Tree) := do
  let word ← take .token .operand
  let first ← inner (.expression .lineEnd)
  repeated [first, word] fun trees => do
    if ← isMark "," then
      let comma ← take .token .operand
      return .inl ((← inner (.expression .lineEnd)) :: comma :: trees)
    else return .inr trees.reverse

/-- A word and names behind it, with commas between them and none at the end. -/
def declaredNames : Parser (List Tree) := do
  let word ← take .token {}
  let first ← name .lineEnd
  repeated [first, word] fun trees => do
    if ← isMark "," then
      let comma ← take .token {}
      return .inl ((← name .lineEnd) :: comma :: trees)
    else return .inr trees.reverse

/-- The definition of a name for a type. -/
def typeStatement (inner : Inner) (depth : Nat) : Parser Tree := do
  let start ← place
  let word ← keyword "type" .operand
  let left ← type inner depth true {}
  let equals ← mark "=" .operand
  let right ← type inner depth true .lineEnd
  node .statement start [word, left, equals, right]

/-! ### Dropped statements -/

/-- The old statement that prints into a file. -/
def printIntoStatement (inner : Inner) : Parser Tree := do
  let start ← place
  let word ← keyword "print" .operandOrLineEnd
  let sign ← mark ">>" .operand
  let trees ← expressions inner .lineEnd []
  node .printStatement start (word :: sign :: trees)

/-- The old statement that prints. -/
def printStatement (inner : Inner) : Parser Tree := do
  let start ← place
  let word ← keyword "print" .operand
  node .printStatement start (word :: (← expressions inner .lineEnd []))

/-- The old statement that runs a text or a name. -/
def execStatement (inner : Inner) : Parser Tree := do
  let start ← place
  let word ← keyword "exec" .operand
  let code ← match ← token with
    | .quote _ => strings inner .lineEnd
    | _ => name .lineEnd
  if ← isWord "in" then
    node .execStatement start (word :: code :: (← plainExpressions inner))
  else node .execStatement start [word, code]

/-! ### One statement -/

/-- A reading of a statement that must reach the end of the statement. -/
def ended (reading : Parser Tree) : Parser Tree := do
  let tree ← reading
  match ← token with
  | .newline | .mark ";" => return tree
  | _ => fail

/-- Whether the mark `>>` follows the next token. -/
def isPrintInto : Parser Bool := do
  let ahead ← get
  return (Ahead.read .operandOrLineEnd ahead.after).token == .mark ">>"

/-- A statement with some children, over everything taken. -/
def statementOf (children : Parser (List Tree)) : Parser Tree := do
  let start ← place
  node .statement start (← children)

/-- A statement of one line. -/
def simpleStatement (inner : Inner) (depth : Nat) : Parser Tree := do
  match ← token with
  | .word "import" => importStatement
  | .word "from" => importFromStatement
  | .word "assert" => statementOf (plainExpressions inner)
  | .word "return" => statementOf (keywordStatement inner false [])
  | .word "del" => statementOf (keywordStatement inner true [])
  | .word "raise" => statementOf (raiseStatement inner)
  | .word "pass" | .word "break" | .word "continue" => take .statement .lineEnd
  | .word "global" | .word "nonlocal" => statementOf declaredNames
  | .word "print" =>
    if ← isPrintInto then printIntoStatement inner
    else orElse (ended (expressionStatement inner depth)) (printStatement inner)
  | .word "exec" => orElse (ended (expressionStatement inner depth)) (execStatement inner)
  | .word "type" => orElse (ended (typeStatement inner depth)) (expressionStatement inner depth)
  | _ => expressionStatement inner depth

/-- Statements of one line up to its end, which is left as the next token. -/
def simpleStatements (inner : Inner) (depth : Nat) : Parser (List Tree) :=
  repeated [] fun trees => do
    let statement ← simpleStatement inner depth
    let passed ← trivia
    let trees := passed.reverse ++ statement :: trees
    match ← token with
    | .newline => return .inr trees.reverse
    | .mark ";" =>
      let sign ← take .token .operandOrLineEnd
      let passed ← trivia
      if (← token) = .newline then return .inr (passed.reverse ++ sign :: trees).reverse
      else return .inl (passed.reverse ++ sign :: trees)
    | _ => fail

end DeclGraph.Syntax.Parser
