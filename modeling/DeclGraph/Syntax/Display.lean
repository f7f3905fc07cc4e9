/-
**Displays and comprehensions.**

What stands in parentheses, brackets and braces: elements with commas between them, entries of a
dictionary, or one body with the clauses of a comprehension. A comma may follow the last element,
and a pair of braces may hold a comma alone.
-/

import DeclGraph.Syntax.Target

namespace DeclGraph.Syntax.Parser

/-! ### Comprehensions -/

/-- Whether a clause of a comprehension begins here. -/
def beginsClauses : Parser Bool := do return (← token).isAmong ["for", "async"]

/-- The clauses of a comprehension. -/
def clauses (inner : Inner) : Parser (List Tree) :=
  repeated [] fun trees => do
    match ← token with
    | .word "async" =>
      let word ← take .token {}
      if ← isWord "for" then return .inl (word :: trees) else fail
    | .word "for" =>
      let word ← take .token .operand
      let left ← targets inner
      let right ← expressions inner .comprehended ["for", "if", "async"]
      return .inl (right.reverse ++ left.reverse ++ word :: trees)
    | .word "if" =>
      if trees.isEmpty then fail
      else
        let word ← take .token .operand
        let tree ← inner (.expression .comprehended)
        return .inl (tree :: word :: trees)
    | _ => return .inr trees.reverse

/-- The body of a comprehension that has been read, its clauses and the closing bracket. -/
def comprehension (inner : Inner) (closing : String) (follow : Admitted) (body : Tree) :
    Parser (List Tree) := do
  if body.isBody then
    let trees ← clauses inner
    let last ← mark closing follow
    return body :: trees ++ [last]
  else fail

/-! ### Elements -/

/-- An element of a tuple, list or set. -/
def element (inner : Inner) : Parser Tree := do
  match ← token with
  | .word "yield" => yielded inner .bracketed
  | .mark "*" =>
    let start ← place
    let star ← take .token .operand
    let tree ← inner (.expression .bracketed)
    node .splat start [star, tree]
  | _ => inner (.expression .bracketed)

/-- Elements with commas between them up to the closing bracket, behind the first one. -/
def elementsAfter (closing : String) (follow : Admitted) (one : Parser Tree) (first : Tree) :
    Parser (List Tree) :=
  repeated [first] fun trees => do
    if ← isMark closing then
      let last ← take .token follow
      return .inr (last :: trees).reverse
    let comma ← mark "," .element
    if ← isMark closing then return .inl (comma :: trees)
    let tree ← one
    return .inl (tree :: comma :: trees)

/-- A list, or what stands in parentheses. -/
def bracketed (inner : Inner) (context : Context) (kind : Kind) (opening closing : String) :
    Parser Tree := do
  let start ← place
  let bracket ← mark opening .element
  if ← isMark closing then
    let last ← take .token context.follow
    node kind start [bracket, last]
  else
    let first ← element inner
    if ← beginsClauses then
      let trees ← comprehension inner closing context.follow first
      node .expression start (bracket :: trees)
    else
      let trees ← elementsAfter closing context.follow (element inner) first
      node kind start (bracket :: trees)

/-! ### Braces -/

/-- The entries of another dictionary. -/
def unpacked (inner : Inner) : Parser Tree := do
  let start ← place
  let stars ← mark "**" .operand
  let tree ← inner (.expression .bracketed)
  node .clause start [stars, tree]

/-- The value of a key that has been read. -/
def pairAfter (inner : Inner) (start : Position) (key : Tree) : Parser Tree := do
  let colon ← mark ":" .operand
  let value ← inner (.expression .bracketed)
  node .clause start [key, colon, value]

/-- An entry of a dictionary. -/
def entry (inner : Inner) : Parser Tree := do
  if ← isMark "**" then unpacked inner
  else
    let start ← place
    let key ← inner (.expression .bracketed)
    pairAfter inner start key

/-- The elements of a set or the entries of a dictionary, and the closing brace. -/
def braceContent (inner : Inner) (follow : Admitted) : Parser (List Tree) := do
  if ← isMark "**" then
    let first ← unpacked inner
    elementsAfter "\x7d" follow (entry inner) first
  else
    let start ← place
    let first ← element inner
    if ← isMark ":" then
      let pair ← pairAfter inner start first
      if ← beginsClauses then comprehension inner "\x7d" follow pair
      else elementsAfter "\x7d" follow (entry inner) pair
    else if ← beginsClauses then comprehension inner "\x7d" follow first
    else elementsAfter "\x7d" follow (element inner) first

/-- A set or dictionary. -/
def braced (inner : Inner) (context : Context) : Parser Tree := do
  let start ← place
  let brace ← mark "\x7b" .element
  match ← token with
  | .mark "\x7d" =>
    let last ← take .token context.follow
    node .expression start [brace, last]
  | .mark "," =>
    let comma ← take .token { close := true }
    let last ← mark "\x7d" context.follow
    node .expression start [brace, comma, last]
  | _ =>
    let trees ← braceContent inner context.follow
    node .expression start (brace :: trees)

end DeclGraph.Syntax.Parser
