/-
**Parsers with one token ahead.**

A parser sees the next token, and when it takes that token it says what the grammar admits after
it. It fails at the place of a token that does not fit.

* `Parser.take`: takes the next token as a leaf;
* `Parser.repeated`: a loop whose steps each take something;
* `Parser.orElse`: a second reading of the same place.
-/

import DeclGraph.Syntax.Token

namespace DeclGraph.Syntax

/-- A parser fails with the place of the token that does not fit. -/
abbrev Parser (α : Type) := StateT Ahead (Except Position) α

namespace Parser

/-- The next token. -/
def token : Parser Token := do return (← get).token

/-- Where the next token begins. -/
def place : Parser Position := do return (← get).first.position

/-- Where the last token taken ends. -/
def stopped : Parser Position := do return (← get).before.position

/-- Comments and joined lines in front of the next token. -/
def trivia : Parser (List Tree) := do return (← get).trivia

/-- The next token does not fit. -/
def fail {α : Type} : Parser α := fun ahead => .error ahead.first.position

/-- The first reading, or the second one from the same place if the first fails. -/
def orElse {α : Type} (first second : Parser α) : Parser α := fun ahead =>
  match first ahead with
  | .ok result => .ok result
  | .error _ => second ahead

/-- Goes on to the token after the next one. -/
def advance (admitted : Admitted) : Parser Unit :=
  modify fun ahead => Ahead.read admitted ahead.after

/-- The next token as a leaf. -/
def leaf (kind : Kind) (text : String := "") : Parser Tree := do
  let ahead ← get
  return .node { kind, start := ahead.first.position, stop := ahead.after.cursor.position, text } []

/-- Takes the next token as a leaf. -/
def take (kind : Kind) (admitted : Admitted) : Parser Tree := do
  let tree ← leaf kind
  advance admitted
  return tree

/-- Whether the next token is a mark. -/
def isMark (text : String) : Parser Bool := do return (← token) == .mark text

/-- Whether the next token is a word with this text. -/
def isWord (text : String) : Parser Bool := do return (← token) == .word text

/-- Takes a mark that must be next. -/
def mark (text : String) (admitted : Admitted) : Parser Tree := do
  if ← isMark text then take .token admitted else fail

/-- Takes a word of the grammar that must be next. -/
def keyword (text : String) (admitted : Admitted) : Parser Tree := do
  if ← isWord text then take .token admitted else fail

/-- Takes any word as a name. -/
def name (admitted : Admitted) : Parser Tree := do
  match ← token with
  | .word text =>
    let tree ← leaf .identifier text
    advance admitted
    return tree
  | _ => fail

/-- A node over everything taken since its start. -/
def node (kind : Kind) (start : Position) (children : List Tree) : Parser Tree := do
  return .node { kind, start, stop := ← stopped } children

/-- Repeats a step until it gives a result; `count` bounds the repetitions. -/
def loop {σ α : Type} (step : σ → Parser (σ ⊕ α)) : Nat → σ → Parser α
  | 0, _ => fail
  | count + 1, state => do
    match ← step state with
    | .inl state => loop step count state
    | .inr result => return result

/-- Repeats a step until it gives a result. Every step takes a token, so the length of the source
bounds the repetitions. -/
def repeated {σ α : Type} (state : σ) (step : σ → Parser (σ ⊕ α)) : Parser α := do
  loop step (← get).after.budget state

end Parser

end DeclGraph.Syntax
