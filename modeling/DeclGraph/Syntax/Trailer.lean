/-
**Attributes, calls and subscripts.**

What may follow an operand without a blank or comma between them. The name behind a point may be
any word. A call has a list of arguments, or one comprehension in its place, and a subscript has
expressions and slices.
-/

import DeclGraph.Syntax.Display

namespace DeclGraph.Syntax.Parser

/-! ### Arguments -/

/-- One argument of a call. -/
def argument (inner : Inner) : Parser Tree := do
  match ← token with
  | .mark "**" => unpacked inner
  | .mark "*" => element inner
  | _ =>
    let start ← place
    let tree ← inner (.expression .bracketed)
    if tree.kind = .identifier && (← isMark "=") then
      let equals ← take .token .operand
      let value ← inner (.expression .bracketed)
      node .clause start [tree, equals, value]
    else return tree

/-- The arguments of a call, or the one comprehension that may stand in their place. -/
def arguments (inner : Inner) (follow : Admitted) : Parser Tree := do
  let start ← place
  let bracket ← mark "(" .element
  match ← token with
  | .mark ")" =>
    let last ← take .token follow
    node .argumentList start [bracket, last]
  | .mark "," =>
    let comma ← take .token { close := true }
    let last ← mark ")" follow
    node .argumentList start [bracket, comma, last]
  | _ =>
    let first ← argument inner
    if first.kind != .clause && (← beginsClauses) then
      let trees ← comprehension inner ")" follow first
      node .expression start (bracket :: trees)
    else
      let trees ← elementsAfter ")" follow (argument inner) first
      node .argumentList start (bracket :: trees)

/-! ### Subscripts -/

/-- Whether a token ends a part of a slice. -/
def endsSlice : Token → Bool
  | .mark text => text = ":" || text = "," || text = "]"
  | _ => false

/-- The colon of a slice and the part behind it. -/
def slicePart (inner : Inner) : Parser (List Tree) := do
  let colon ← mark ":" .element
  if endsSlice (← token) then return [colon]
  else return [colon, ← inner (.expression .bracketed)]

/-- The parts of a slice behind the first one. -/
def sliceAfter (inner : Inner) (start : Position) (first : List Tree) : Parser Tree := do
  let second ← slicePart inner
  let third ← if ← isMark ":" then slicePart inner else pure []
  node .clause start (first ++ second ++ third)

/-- One index: an expression or a slice. -/
def index (inner : Inner) : Parser Tree := do
  let start ← place
  if ← isMark ":" then sliceAfter inner start []
  else
    let tree ← inner (.expression .bracketed)
    if ← isMark ":" then sliceAfter inner start [tree] else return tree

/-! ### Trailers -/

/-- The attributes, calls and subscripts behind an operand. -/
def trailers (inner : Inner) (context : Context) (first : Tree) : Parser Tree :=
  repeated first fun tree => do
    match ← token with
    | .mark "." =>
      let point ← take .token {}
      let name ← name context.follow
      return .inl (← node .attribute tree.start [tree, point, name.withRole .attribute])
    | .mark "(" =>
      let list ← arguments inner context.follow
      return .inl (← node .call tree.start [tree.withRole .function, list])
    | .mark "[" =>
      let bracket ← take .token .operand
      let first ← index inner
      let trees ← elementsAfter "]" context.follow (index inner) first
      return .inl (← node .subscript tree.start (tree :: bracket :: trees))
    | _ => return .inr tree

end DeclGraph.Syntax.Parser
