/-
**Patterns of cases.**

A pattern is a value, a name, a class with patterns in parentheses, a sequence or a mapping of
patterns, or several of them with bars between; a name may be bound to it by `as`. Patterns hold no
calls: a class in a pattern is not called.
-/

import DeclGraph.Syntax.Expression

namespace DeclGraph.Syntax.Parser

/-- A parser of nested patterns. -/
abbrev CasePattern := Admitted → Parser Tree

/-- A number of a pattern, without its sign. -/
def patternNumber (follow : Admitted) : Parser Tree := do
  if (← token) = .number then take .token follow else fail

/-- A number with its sign and perhaps an imaginary part. -/
def patternNumbers (follow : Admitted) : Parser (List Tree) := do
  let signs ← if ← isMark "-" then pure [← take .token {}] else pure []
  let number ← patternNumber follow
  match ← token with
  | .mark "+" | .mark "-" =>
    let sign ← take .token {}
    return signs ++ [number, sign, ← patternNumber follow]
  | _ => return signs ++ [number]

/-- Names with points between them. -/
def patternName (follow : Admitted) : Parser (List Tree) := do
  let first ← name follow
  repeated [first] fun trees => do
    if ← isMark "." then
      let point ← take .token {}
      return .inl ((← name follow) :: point :: trees)
    else return .inr trees.reverse

/-- Patterns up to a closing bracket. -/
def patternsIn (one : Parser Tree) (opening closing : String) (follow : Admitted) :
    Parser (List Tree) := do
  let bracket ← mark opening .element
  if ← isMark closing then return [bracket, ← take .token follow]
  else
    let first ← one
    return bracket :: (← elementsAfter closing follow one first)

/-- Whether a pattern is one name alone. -/
def isName (trees : List Tree) : Bool :=
  match trees with
  | [tree] => tree.kind = .identifier
  | _ => false

/-- A name, or a class with its patterns. -/
def namePattern (nested : CasePattern) (follow : Admitted) : Parser (List Tree) := do
  let names ← patternName follow
  if ← isMark "(" then return names ++ (← patternsIn (nested { close := true }) "(" ")" follow)
  else return names

/-- One alternative of a pattern. `key` reads the entries of a mapping. -/
def simplePattern (inner : Inner) (nested : CasePattern) (entry : Parser Tree)
    (follow : Admitted) : Parser (List Tree) := do
  let next ← token
  match next with
  | .word _ =>
    if next.isAmong Token.constants then return [← take .token follow]
    else namePattern nested follow
  | .number | .mark "-" => patternNumbers follow
  | .quote _ => return [← strings inner { follow }]
  | .mark "(" => patternsIn (nested { close := true }) "(" ")" follow
  | .mark "[" => patternsIn (nested { close := true }) "[" "]" follow
  | .mark "\x7b" => patternsIn entry "\x7b" "\x7d" follow
  | .mark "*" | .mark "**" =>
    let star ← take .token {}
    return [star, ← name follow]
  | _ => fail

/-- Alternatives with bars between them, behind the first one. -/
def alternativesAfter (one : Parser (List Tree)) (first : List Tree) : Parser (List Tree) :=
  repeated first fun trees => do
    if ← isMark "|" then
      let bar ← take .token .operand
      return .inl (trees ++ bar :: (← one))
    else return .inr trees

/-- The value of a pattern with a name and an equals sign, if there is one. -/
def keywordAfter (one : Parser (List Tree)) (trees : List Tree) : Parser (List Tree) := do
  if isName trees && (← isMark "=") then
    let equals ← take .token .operand
    return trees ++ equals :: (← alternativesAfter one (← one))
  else return trees

/-- The names bound by `as`. -/
def bindingsAfter (follow : Admitted) (trees : List Tree) : Parser (List Tree) :=
  repeated trees fun trees => do
    if ← isWord "as" then
      let word ← take .token {}
      return .inl (trees ++ [word, ← name follow])
    else return .inr trees

/-- An entry of a mapping: a key and its pattern, or a star and a name. -/
def entryPattern (one : Parser (List Tree)) (value : Parser Tree) : Parser Tree := do
  let start ← place
  let starred := (← isMark "*") || (← isMark "**")
  let key ← alternativesAfter one (← one)
  if starred then node .clause start key
  else
    let colon ← mark ":" .operand
    node .clause start (key ++ [colon, ← value])

/-- A pattern, up to a depth of nesting. -/
def casePattern (inner : Inner) : Nat → CasePattern
  | 0, _ => fail
  | depth + 1, follow => do
    let start ← place
    let nested := casePattern inner depth
    let within : Admitted := { close := true }
    let entry := entryPattern (simplePattern inner nested fail within) (nested within)
    let one := simplePattern inner nested entry follow
    let first ← one
    let trees ← keywordAfter one first
    let trees ← alternativesAfter one trees
    let trees ← bindingsAfter follow trees
    node .clause start trees

end DeclGraph.Syntax.Parser
