/-
**Options of a command line.**

An option has a letter and a name. Its value follows as the next word or is attached: `-o value`,
`-ovalue`, `-o=value`, `--output value` or `--output=value`; options without values may share one
dash. A word that begins with a dash is no value, except for the dash alone. Behind `--` every word
is an operand. An option may stand for a notice; nothing behind it is looked at.

* `scan?`: the options and operands of a list of words, up to the first word that is a command or
  the first option that stands for a notice.
-/

namespace DeclGraph.CommandLine

/-- What a program tells about itself. -/
inductive Notice where
  | help
  | version
  deriving DecidableEq, Repr, Inhabited

/-- An option. -/
structure OptionForm where
  letter : Char
  name : String
  /-- how its value is called, if it takes one -/
  value : Option String := none
  /-- whether it may be given more than once -/
  repeats : Bool := false
  about : String := ""
  /-- the notice that it stands for -/
  notice : Option Notice := none
  deriving DecidableEq, Repr, Inhabited

/-- What stands in a list of words, each part in order. -/
structure Scan where
  /-- the options by name, with their values -/
  options : List (String × Option String) := []
  operands : List String := []
  /-- the first word that is a command, and the words behind it -/
  command : Option (String × List String) := none
  /-- the notice that was asked for -/
  notice : Option Notice := none
  deriving DecidableEq, Repr, Inhabited

namespace Scan

/-- Adds an option. -/
def withOption (scan : Scan) (name : String) (value : Option String) : Scan :=
  { scan with options := scan.options ++ [(name, value)] }

/-- Adds an operand. -/
def withOperand (scan : Scan) (word : String) : Scan :=
  { scan with operands := scan.operands ++ [word] }

/-- The values of an option, in order. -/
def values (scan : Scan) (name : String) : List (Option String) :=
  (scan.options.filter fun entry => entry.1 == name).map Prod.snd

end Scan

/-- What a word stands for. -/
inductive WordKind where
  | plain
  /-- from here on all words are operands -/
  | separator
  | long (name : String) (value : Option String)
  | short (letters : List Char)
  deriving DecidableEq, Repr, Inhabited

/-- What a word stands for. -/
def kindOf (word : String) : WordKind :=
  match word.toList with
  | ['-', '-'] => .separator
  | '-' :: '-' :: rest =>
    match rest.span (· != '=') with
    | (name, _ :: value) => .long (String.ofList name) (some (String.ofList value))
    | (name, []) => .long (String.ofList name) none
  | '-' :: c :: rest => .short (c :: rest)
  | _ => .plain

/-- Where a scan stands between two words. -/
inductive Stage where
  | ready
  /-- an option waits for its value -/
  | waiting (name : String)
  /-- only operands follow -/
  | operands
  /-- a notice was asked for -/
  | noticed
  deriving DecidableEq, Repr, Inhabited

/-- The scan and its stage after an option without an attached value. -/
def bare (scan : Scan) (form : OptionForm) : Scan × Stage :=
  match form.notice with
  | some notice => ({ scan with notice := some notice }, .noticed)
  | none =>
    if form.value.isSome then (scan, .waiting form.name)
    else (scan.withOption form.name none, .ready)

/-- The scan and its stage after an option with a name. -/
def long? (forms : List OptionForm) (scan : Scan) (name : String) (value : Option String) :
    Option (Scan × Stage) :=
  match forms.find? fun form => form.name == name with
  | none => none
  | some form =>
    match value with
    | none => some (bare scan form)
    | some value =>
      if form.value.isSome then some (scan.withOption name (some value), .ready) else none

/-- The scan and its stage after the letters behind one dash. -/
def short? (forms : List OptionForm) (scan : Scan) : List Char → Option (Scan × Stage)
  | [] => some (scan, .ready)
  | letter :: rest =>
    match forms.find? fun form => form.letter == letter with
    | none => none
    | some form =>
      if form.value.isSome then
        match rest with
        | [] => some (bare scan form)
        | '=' :: value => some (scan.withOption form.name (some (String.ofList value)), .ready)
        | value => some (scan.withOption form.name (some (String.ofList value)), .ready)
      else
        match bare scan form with
        | (scan, .noticed) => some (scan, .noticed)
        | (scan, _) => short? forms scan rest

/-- The scan of words from a stage on. -/
def scanFrom? (forms : List OptionForm) (isCommand : String → Bool) (scan : Scan) :
    Stage → List String → Option Scan
  | .noticed, _ | .ready, [] | .operands, [] => some scan
  | .waiting _, [] => none
  | .operands, word :: words =>
    scanFrom? forms isCommand (scan.withOperand word) .operands words
  | .waiting name, word :: words =>
    match kindOf word with
    | .plain => scanFrom? forms isCommand (scan.withOption name (some word)) .ready words
    | _ => none
  | .ready, word :: words =>
    if isCommand word then some { scan with command := some (word, words) }
    else
      match kindOf word with
      | .separator => scanFrom? forms isCommand scan .operands words
      | .plain => scanFrom? forms isCommand (scan.withOperand word) .ready words
      | .long name value =>
        match long? forms scan name value with
        | some (scan, stage) => scanFrom? forms isCommand scan stage words
        | none => none
      | .short letters =>
        match short? forms scan letters with
        | some (scan, stage) => scanFrom? forms isCommand scan stage words
        | none => none

/-- The options and operands of a list of words, as far as they are looked at. -/
def scan? (forms : List OptionForm) (isCommand : String → Bool) (words : List String) :
    Option Scan :=
  scanFrom? forms isCommand {} .ready words

end DeclGraph.CommandLine
