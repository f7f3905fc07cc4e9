/-
**What a command line asks for.**

A configuration file may be named before or behind the command, and the name behind the command
counts. Every other option may be given once, and paths are not empty.

* `Instruction.ofWords?`: what the words of a command line ask for, if they are in order: a run, or
  something that the program tells about itself.
-/

import DeclGraph.CommandLine.Help
import DeclGraph.Language
import DeclGraph.Path

namespace DeclGraph.CommandLine

/-- In which form a graph is written. -/
inductive Format where
  | json
  | dot
  deriving DecidableEq, Repr, Inhabited

/-- What is to be done. -/
inductive Task where
  /-- the graph of a file -/
  | graph (file : Path) (format : Format) (output : Option Path)
  /-- the tree of a directory, or of a project instead -/
  | tree (directory : Option Path) (language : Option Language) (project : Option String)
  /-- the index of a directory -/
  | index (directory : Path) (output : Option Path)
  /-- the server, on another port than the configured one -/
  | serve (port : Option Nat)
  deriving DecidableEq, Repr, Inhabited

/-- A task, and the configuration file to work with. -/
structure Invocation where
  config : Option Path
  task : Task
  deriving DecidableEq, Repr, Inhabited

/-- What a command line asks for. -/
inductive Instruction where
  | invoke (invocation : Invocation)
  /-- the program tells something about itself -/
  | tell (text : String)
  deriving DecidableEq, Repr, Inhabited

/-! ### Values -/

/-- A path, which must not be empty. -/
def path? (text : String) : Option Path := if text.isEmpty then none else some ⟨text⟩

/-- The name of a format. -/
def format? (text : String) : Option Format :=
  if text = "json" then some .json else if text = "dot" then some .dot else none

/-- The name of a language. -/
def language? (text : String) : Option Language := (Language.ofName text).toOption

/-- The digits of a number without its sign. -/
def digitsOf (chars : List Char) : List Char :=
  match chars with
  | '+' :: digits => digits
  | '-' :: digits => digits
  | digits => digits

/-- A port: digits with or without a sign whose value has 16 bits. -/
def port? (text : String) : Option Nat :=
  let digits := digitsOf text.toList
  let value := digits.foldl (fun value digit => value * 10 + (digit.toNat - 48)) 0
  if digits.isEmpty || !digits.all Char.isDigit then none
  else if text.toList.head? = some '-' && value ≠ 0 then none
  else if value < 65536 then some value
  else none

/-- The value of an option that may be given once; `none` if it is repeated or not in order. -/
def single? {α : Type} (scan : Scan) (name : String) (read : String → Option α) :
    Option (Option α) :=
  match scan.values name with
  | [] => some none
  | [some text] => (read text).map some
  | _ => none

/-- The operand that may be given; `none` if there are more or it is not in order. -/
def operandOrNone? (scan : Scan) : Option (Option Path) :=
  match scan.operands with
  | [] => some none
  | [text] => (path? text).map some
  | _ => none

/-! ### Commands -/

/-- What the words behind `graph` ask for, as far as they are given. -/
def graph? (scan : Scan) : Option (Option Task) := do
  let format ← single? scan "format" format?
  let output ← single? scan "output" path?
  let file ← operandOrNone? scan
  return file.map fun file => .graph file (format.getD .json) output

/-- What the words behind `tree` ask for. -/
def tree? (scan : Scan) : Option (Option Task) := do
  let language ← single? scan "lang" language?
  let project ← single? scan "project" some
  let directory ← operandOrNone? scan
  return some (.tree directory language project)

/-- What the words behind `index` ask for, as far as they are given. -/
def index? (scan : Scan) : Option (Option Task) := do
  let output ← single? scan "output" path?
  let directory ← operandOrNone? scan
  return directory.map fun directory => .index directory output

/-- What the words behind `serve` ask for. -/
def serve? (scan : Scan) : Option (Option Task) := do
  let port ← single? scan "port" port?
  if scan.operands.isEmpty then return some (.serve port) else none

/-- What the words behind a command ask for; `none` if they are not in order, and no task if a word
that must be given is missing. -/
def task? (command : CommandForm) (scan : Scan) : Option (Option Task) :=
  match command.name with
  | "graph" => graph? scan
  | "tree" => tree? scan
  | "index" => index? scan
  | "serve" => serve? scan
  | _ => none

/-- What a command and the words behind it ask for. Words in front of a notice must be in order,
but nothing needs to be complete. -/
def command? (outer : Option Path) (command : CommandForm) (words : List String) :
    Option Instruction := do
  let scan ← scan? command.options (fun _ => false) words
  let inner ← single? scan "config" path?
  let task ← task? command scan
  match scan.notice with
  | some _ => return .tell (Page.ofCommand command).text
  | none => task.map fun task => .invoke ⟨inner.or outer, task⟩

/-- What the words behind `help` ask for. -/
def help? : List String → Option Instruction
  | [] => some (.tell Page.ofProgram.text)
  | [name] =>
    (commandForms.find? fun form => form.name == name).map fun form =>
      .tell (Page.ofCommand form).text
  | _ => none

/-- What the program tells on a notice. -/
def noticeText : Notice → String
  | .help => Page.ofProgram.text
  | .version => versionText

/-- Whether a word names a command. -/
def isCommand (word : String) : Bool :=
  word == "help" || commandForms.any fun form => form.name == word

/-- What the words of a command line ask for, if they are in order. -/
def Instruction.ofWords? (words : List String) : Option Instruction := do
  let scan ← scan? programOptions isCommand words
  let config ← single? scan "config" path?
  match scan.operands, scan.notice, scan.command with
  | [], some notice, _ => return .tell (noticeText notice)
  | [], none, some ("help", words) => help? words
  | [], none, some (name, words) => do
    let form ← commandForms.find? fun form => form.name == name
    command? config form words
  | _, _, _ => none

end DeclGraph.CommandLine
