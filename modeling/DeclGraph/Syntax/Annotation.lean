/-
**Types.**

A type is an expression, or a name with types in brackets, after which only a union, a member or
a bound may follow. A name with brackets behind it is always read in the second way.
-/

import DeclGraph.Syntax.Expression

namespace DeclGraph.Syntax.Parser

/-- The words that begin an expression and are no names. -/
def notNames : List String := ["not", "lambda", "await"] ++ Token.constants

/-- Types in brackets, with commas between them and perhaps at the end. -/
def typesInBrackets (one : Parser Tree) (follow : Admitted) : Parser Tree := do
  let start ← place
  let bracket ← mark "[" .operand
  let first ← one
  let trees ← elementsAfter "]" follow one first
  node .clause start (bracket :: trees)

/-- A name with types in brackets; nothing is read if no bracket follows the name. -/
def genericType? (one : Parser Tree) (follow : Admitted) : Parser (Option Tree) := do
  let ahead ← get
  match ahead.token with
  | .word _ =>
    if ahead.token.isAmong notNames then return none
    else
      let name ← name follow
      if ← isMark "[" then
        let types ← typesInBrackets one follow
        return some (← node .clause name.start [name, types])
      else
        set ahead
        return none
  | _ => return none

/-- A type, up to a depth of nesting; `bounded` tells whether a colon and a bound may follow. -/
def type (inner : Inner) : Nat → (bounded : Bool) → Context → Parser Tree
  | 0, _, _ => fail
  | depth + 1, bounded, context => do
    let start ← place
    let first ← if ← isMark "**" then do
        let stars ← take .token {}
        pure [← name context.follow, stars]
      else
        match ← genericType? (type inner depth true .bracketed) context.follow with
        | some tree => pure [tree]
        | none => pure [← inner (.expression context)]
    let trees ← repeated first fun trees => do
      match ← token with
      | .mark "|" =>
        let sign ← take .token .operand
        return .inl ((← type inner depth false context) :: sign :: trees)
      | .mark "." =>
        let point ← take .token {}
        return .inl ((← name context.follow) :: point :: trees)
      | .mark ":" =>
        if bounded then
          let colon ← take .token .operand
          return .inl ((← type inner depth false context) :: colon :: trees)
        else return .inr trees
      | _ => return .inr trees
    node .clause start trees.reverse

/-- A colon and a type behind it, if there is a colon. -/
def typeAfterName (inner : Inner) (depth : Nat) (context : Context) : Parser (List Tree) := do
  if ← isMark ":" then
    let colon ← take .token .operand
    return [colon, ← type inner depth true context]
  else return []

/-- The parameters of a type, if there are any. -/
def typeParameters (inner : Inner) (depth : Nat) : Parser (List Tree) := do
  if ← isMark "[" then return [← typesInBrackets (type inner depth true .bracketed) {}]
  else return []

end DeclGraph.Syntax.Parser
