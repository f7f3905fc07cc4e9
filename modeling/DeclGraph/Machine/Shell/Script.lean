/-
**Shell scripts.**

The commands of a script and the words that they are given. A word is made of pieces, which are
literal text, parameters, sums and what commands write.
-/

namespace DeclGraph.Shell

/-- A piece of a word; quotation marks keep it together. -/
inductive Piece where
  | literal (text : String) (quoted : Bool)
  | parameter (name : String) (quoted : Bool)
  /-- a parameter with another text for when it is unset or, with `orEmpty`, empty -/
  | default (name : String) (orEmpty : Bool) (text : String) (quoted : Bool)
  /-- a formula whose value is written in its place -/
  | sum (formula : String) (quoted : Bool)
  /-- a script whose output is written in its place -/
  | output (script : String) (quoted : Bool)
  deriving DecidableEq, Repr, Inhabited

/-- A word. -/
abbrev Word := List Piece

/-- What happens to a descriptor while a command runs. -/
inductive Redirection where
  | input (word : Word)
  | text (word : Word)
  | output (descriptor : Nat) (append : Bool) (word : Word)
  /-- it writes to where another one writes -/
  | duplicate (descriptor : Nat) (word : Word)
  deriving DecidableEq, Repr, Inhabited

/-- A command. -/
inductive Command where
  | nothing
  | simple (line : Nat) (assignments : List (String × Word)) (words : List Word)
  | sequence (first second : Command)
  | both (first second : Command)
  | either (first second : Command)
  | negation (command : Command)
  | pipe (first second : Command)
  | redirected (line : Nat) (command : Command) (redirections : List Redirection)
  | apart (command : Command)
  /-- it runs beside what follows -/
  | beside (command : Command)
  | conditional (condition consequence alternative : Command)
  /-- a loop that goes on while its condition succeeds, or fails -/
  | loop (wanted : Bool) (condition body : Command)
  | each (name : String) (words : List Word) (body : Command)
  /-- a choice: the body runs if the word matches one of the patterns -/
  | choice (word : Word) (patterns : List Word) (body rest : Command)
  deriving Repr, Inhabited

/-- Whether a part of a word is what a command writes. -/
def Word.runs (word : Word) : Bool :=
  word.any fun piece => match piece with
    | .output _ _ => true
    | _ => false

/-- What a single literal piece says. -/
def Word.plain? : Word → Option String
  | [.literal text false] => some text
  | _ => none

end DeclGraph.Shell
