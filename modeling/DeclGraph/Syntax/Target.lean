/-
**Targets.**

Values are assigned to names, attributes and subscripts, to starred ones of these, and to lists of
targets in brackets or parentheses. Parentheses and brackets are read as expressions first;
`isTarget` tells targets from other expressions.
-/

import DeclGraph.Syntax.Context

namespace DeclGraph.Syntax

namespace Tree

/-- Whether a tree is a name, an attribute or a subscript. -/
def isStarrable (tree : Tree) : Bool :=
  match tree.kind with
  | .identifier | .attribute | .subscript => true
  | _ => false

mutual

/-- Whether a value can be assigned to an expression. -/
def isTarget : Tree → Bool
  | .node label children =>
    match label.kind with
    | .identifier | .attribute | .subscript => true
    | .splat => (children.filter fun child => child.kind.isNamed).all isStarrable
    | .tuple | .list => areTargets children
    | _ => false

/-- Whether values can be assigned to all named trees of a list. -/
def areTargets : List Tree → Bool
  | [] => true
  | tree :: trees => (!tree.kind.isNamed || isTarget tree) && areTargets trees

end

/-- Whether a tree may be the body of a comprehension, where only a target can be starred. -/
def isBody (tree : Tree) : Bool := tree.kind != .splat || tree.isTarget

/-- Whether an operand begins with something that can be starred. -/
def hasStarrable : Tree → Bool
  | .node label children =>
    match label.kind, children with
    | .identifier, _ | .attribute, _ | .subscript, _ => true
    | .call, function :: _ => hasStarrable function
    | _, _ => false

end Tree

namespace Parser

/-- A starred operand. -/
def starred (inner : Inner) (context : Context) : Parser Tree := do
  let start ← place
  let star ← mark "*" .operand
  let tree ← inner (.primary context)
  if tree.isStarrable then node .splat start [star, tree]
  else if tree.hasStarrable then node .expression start [star, tree]
  else fail

/-- One target of a loop. -/
def target (inner : Inner) : Parser Tree := do
  let tree ← if ← isMark "*" then starred inner {} else inner (.primary {})
  if tree.isTarget then return tree else fail

/-- The targets of a loop and the word `in` behind them. -/
def targets (inner : Inner) : Parser (List Tree) := do
  let first ← target inner
  let trees ← repeated [first] fun trees => do
    if ← isMark "," then
      let comma ← take .token .operand
      if ← isWord "in" then return .inr (comma :: trees)
      let tree ← target inner
      return .inl (tree :: comma :: trees)
    else return .inr trees
  let word ← keyword "in" .operand
  return (word :: trees).reverse

end Parser

end DeclGraph.Syntax
