/-
**Running shell scripts.**

A command runs in a state: the files, the parameters, the time that has passed and what is written
so far. It ends normally or leaves a loop, the script or everything. Time passes only in `sleep`; a
script that sleeps too long, or goes through a loop without end, is stopped.

* `State.expand`: the fields that a word stands for;
* `run`: the state after a command;
* `runScript`: the state after a script.
-/

import DeclGraph.Machine.Shell.Formula
import DeclGraph.Machine.Shell.Pattern
import DeclGraph.Machine.Shell.Reader
import DeclGraph.Machine.Shell.Tools

namespace DeclGraph.Shell

open Text.Utf8 (encode decodeLossy)

/-! ### States -/

/-- Where a descriptor writes to. -/
inductive Sink where
  | output
  | messages
  | file (path : Path)
  deriving DecidableEq, Repr, Inhabited

/-- How a script ends before its last command. -/
inductive Ending where
  | status (code : Nat)
  | signal (number : Nat)
  | overtime
  deriving DecidableEq, Repr, Inhabited

/-- How a command ends. -/
inductive Flow where
  | onward
  /-- it leaves so many loops -/
  | outOf (loops : Nat)
  /-- it goes on with the next round of the loop so many levels up -/
  | again (loops : Nat)
  | stop (ending : Ending)
  deriving DecidableEq, Repr, Inhabited

/-- What a script runs in. -/
structure State where
  files : FileSystem
  bindings : List (String × String) := []
  /-- the name of the script and its arguments -/
  name : String := "sh"
  arguments : List String := []
  status : Nat := 0
  /-- the time that has passed and the time that may pass, in nanoseconds -/
  elapsed : Nat := 0
  limit : Nat := 0
  /-- when the last of the commands that run beside the script ends -/
  jobsEnd : Nat := 0
  /-- whether a failing command ends the script -/
  strict : Bool := false
  input : List UInt8 := []
  /-- what is written, in chunks of which the last comes first -/
  output : List (List UInt8) := []
  messages : List (List UInt8) := []
  deriving Inhabited

/-- What a command is given beside its state. -/
structure Setting where
  out : Sink := .output
  err : Sink := .messages
  /-- whether the status of the command is looked at -/
  tested : Bool := false
  deriving Repr, Inhabited

/-- The outcome of a command. -/
abbrev Step := State × Flow

namespace State

/-- The state after bytes are written. -/
def write (state : State) (sink : Sink) (bytes : List UInt8) : State :=
  match sink with
  | .output => { state with output := bytes :: state.output }
  | .messages => { state with messages := bytes :: state.messages }
  | .file path =>
    match state.files.read path with
    | .ok before =>
      match state.files.write path (before ++ bytes) with
      | .ok files => { state with files := files }
      | .error _ => state
    | .error _ => state

/-- The state with a status. -/
def withStatus (state : State) (status : Nat) : State := { state with status := status }

/-- A message, and a status. -/
def complain (state : State) (setting : Setting) (message : String) (status : Nat) : Step :=
  ((state.write setting.err (encode (message ++ "\n"))).withStatus status, .onward)

/-- Sets a variable. -/
def setVariable (state : State) (name value : String) : State :=
  { state with
    bindings := (name, value) :: state.bindings.filter fun entry => entry.1 != name }

/-- The number by which the script knows itself. -/
def ownNumber : String := "4242"

/-- The value of a parameter. -/
def parameter? (state : State) (name : String) : Option String :=
  match name with
  | "#" => some (toString state.arguments.length)
  | "?" => some (toString state.status)
  | "$" => some ownNumber
  | "0" => some state.name
  | "@" | "*" => some (" ".intercalate state.arguments)
  | "-" | "!" => some ""
  | name =>
    match name.toNat? with
    | some place => state.arguments[place - 1]?
    | none => (state.bindings.find? fun entry => entry.1 == name).map Prod.snd

end State

/-! ### Words -/

/-- A character of a word under expansion, or a mark in it. -/
inductive Glyph where
  /-- a character; a free one comes from an expansion and may separate fields -/
  | char (c : Char) (quoted free : Bool)
  /-- a place that makes a field of nothing -/
  | mark
  /-- a place where a field ends -/
  | cut
  deriving DecidableEq, Repr, Inhabited

/-- The glyphs of a text. -/
def glyphs (quoted free : Bool) (text : String) : List Glyph :=
  (if quoted then [.mark] else []) ++ text.toList.map fun c => .char c quoted free

/-- The glyphs of the arguments, each a field of its own. -/
def argumentGlyphs (quoted : Bool) : List String → List Glyph
  | [] => []
  | [text] => glyphs quoted (!quoted) text
  | text :: texts => glyphs quoted (!quoted) text ++ .cut :: argumentGlyphs quoted texts

/-- The text of glyphs. -/
def textOf (glyphs : List Glyph) : String :=
  String.ofList (glyphs.filterMap fun glyph =>
    match glyph with
    | .char c _ _ => some c
    | .cut => some ' '
    | .mark => none)

/-- The pattern of glyphs. -/
def patternOf (glyphs : List Glyph) : Pattern :=
  let chars := glyphs.filterMap fun glyph =>
    match glyph with
    | .char c quoted _ => some (c, quoted)
    | _ => none
  Pattern.ofChars chars.length chars

/-- The fields of glyphs: the field under way, if there is one, and those before are held in
reverse. -/
def fieldsFrom (done : List String) (field : Option (List Char)) : List Glyph → List String
  | [] => (close done field).reverse
  | .mark :: rest => fieldsFrom done (some (field.getD [])) rest
  | .cut :: rest => fieldsFrom (close done field) none rest
  | .char c quoted free :: rest =>
    if free && !quoted && (c = ' ' || c = '\t' || c = '\n') then
      fieldsFrom (close done field) none rest
    else fieldsFrom done (some (c :: field.getD [])) rest
where
  /-- the fields with the one under way -/
  close (done : List String) : Option (List Char) → List String
    | some chars => String.ofList chars.reverse :: done
    | none => done

/-- A text without the line feeds at its end. -/
def withoutLastLines (text : String) : String :=
  String.ofList (text.toList.reverse.dropWhile (· == '\n')).reverse

/-- What runs a script and gives what it writes. -/
abbrev Capture := State → String → State × String

namespace State

/-- The value of a text as a number; what is none counts as zero. -/
def numberOf (text : Option String) : Int := ((text.bind fun text => Tools.integer? text).getD 0)

/-- The glyphs of a piece that contains no formula. -/
def expandPiece (capture : Capture) (state : State) : Piece → State × List Glyph
  | .literal text quoted => (state, glyphs quoted false text)
  | .parameter "@" quoted => (state, argumentGlyphs quoted state.arguments)
  | .parameter "*" false => (state, argumentGlyphs false state.arguments)
  | .parameter name quoted => (state, glyphs quoted (!quoted) ((state.parameter? name).getD ""))
  | .default name orEmpty text quoted =>
    match state.parameter? name with
    | some value =>
      let value := if orEmpty && value.isEmpty then text else value
      (state, glyphs quoted (!quoted) value)
    | none => (state, glyphs quoted (!quoted) text)
  | .output script quoted =>
    let (state, text) := capture state script
    (state, glyphs quoted (!quoted) (withoutLastLines text))
  | .sum _ _ => (state, [])

/-- The glyphs of pieces that contain no formula. -/
def expandPieces (capture : Capture) (state : State) (pieces : List Piece) : State × List Glyph :=
  pieces.foldl (fun (state, read) piece =>
    let (state, glyphs) := expandPiece capture state piece
    (state, read ++ glyphs)) (state, [])

/-- The value of a formula, as a text. -/
def expandFormula (capture : Capture) (state : State) (formula : String) : State × String :=
  match quotedPieces? none [] (formula.length + 1) formula.toList with
  | none => (state, "")
  | some (read, _) =>
    let (state, glyphs) := expandPieces capture state read.reverse
    let lookup := fun name => numberOf (state.parameter? name)
    match Formula.value? lookup (textOf glyphs) with
    | some value => (state, toString value)
    | none => (state, "")

/-- The glyphs of a word. -/
def expand (capture : Capture) (state : State) (word : Word) : State × List Glyph :=
  word.foldl (fun (state, read) piece =>
    match piece with
    | .sum formula quoted =>
      let (state, text) := expandFormula capture state formula
      (state, read ++ glyphs quoted (!quoted) text)
    | piece =>
      let (state, glyphs) := expandPiece capture state piece
      (state, read ++ glyphs)) (state, [])

/-- The text of a word that is not split. -/
def expandText (capture : Capture) (state : State) (word : Word) : State × String :=
  let (state, glyphs) := expand capture state word
  (state, textOf glyphs)

/-- Whether a word stands for the arguments alone. -/
def isArguments (word : Word) : Bool :=
  word.contains (.parameter "@" true) && word.all fun piece =>
    piece == .parameter "@" true || piece == .literal "" true

/-- The fields of words. -/
def expandFields (capture : Capture) (state : State) (words : List Word) : State × List String :=
  words.foldl (fun (state, read) word =>
    if isArguments word && state.arguments.isEmpty then (state, read)
    else
      let (state, glyphs) := expand capture state word
      (state, read ++ fieldsFrom [] none glyphs)) (state, [])

/-! ### Redirections -/

/-- Opens a file for writing. -/
def openOutput (state : State) (append : Bool) (path : Path) : Except FileFault State :=
  let before := if append then (state.files.read path).toOption.getD [] else []
  (state.files.write path before).map fun files => { state with files := files }

/-- A file fault as a shell tells it. -/
def faultText : FileFault → String
  | .missing => "No such file"
  | .denied => "Permission denied"
  | .notDirectory => "Not a directory"
  | .isDirectory => "Is a directory"
  | .nameTooLong => "File name too long"
  | .tooManyLinks => "Too many levels of symbolic links"
  | .device reason => reason
  | .zeroByte => "No such file"

/-- The setting with another sink for a descriptor. -/
def redirect (setting : Setting) (descriptor : Nat) (sink : Sink) : Setting :=
  if descriptor = 2 then { setting with err := sink }
  else if descriptor = 1 then { setting with out := sink }
  else setting

/-- The state and the setting after a redirection, or a message where it fails. -/
def applyRedirection (capture : Capture) (state : State) (setting : Setting) :
    Redirection → State × Except String Setting
  | .input word =>
    let (state, text) := expandText capture state word
    match state.files.read ⟨text⟩ with
    | .ok bytes => ({ state with input := bytes }, .ok setting)
    | .error fault => (state, .error s!"cannot open {text}: {faultText fault}")
  | .text word =>
    let (state, text) := expandText capture state word
    ({ state with input := encode text }, .ok setting)
  | .output descriptor append word =>
    let (state, text) := expandText capture state word
    match state.openOutput append ⟨text⟩ with
    | .ok state => (state, .ok (redirect setting descriptor (.file ⟨text⟩)))
    | .error fault => (state, .error s!"cannot create {text}: {faultText fault}")
  | .duplicate descriptor word =>
    let (state, text) := expandText capture state word
    match text with
    | "1" => (state, .ok (redirect setting descriptor setting.out))
    | "2" => (state, .ok (redirect setting descriptor setting.err))
    | "-" => (state, .ok (redirect setting descriptor (.file ⟨"/dev/null"⟩)))
    | text => (state, .error s!"{text}: Bad file descriptor")

end State

/-! ### Programs and built-in commands -/

/-- The numbers of signals by name. -/
def signalNumber? (text : String) : Option Nat :=
  let names := [("HUP", 1), ("INT", 2), ("QUIT", 3), ("ABRT", 6), ("KILL", 9), ("SEGV", 11),
    ("PIPE", 13), ("ALRM", 14), ("TERM", 15), ("USR1", 10), ("USR2", 12)]
  match text.toNat? with
  | some number => some number
  | none => (names.find? fun entry => entry.1 == text || "SIG" ++ entry.1 == text).map Prod.snd

/-- The signal and the targets that `kill` is given. -/
def killArguments? : List String → Option (Nat × List String)
  | "-s" :: name :: targets => (signalNumber? name).map fun number => (number, targets)
  | argument :: targets =>
    match argument.toList with
    | '-' :: name => (signalNumber? (String.ofList name)).map fun number => (number, targets)
    | _ => some (15, argument :: targets)
  | [] => none

/-- The files that a program reads, or its input where none is named. -/
def contents (state : State) (setting : Setting) (program : String) (paths : List String) :
    State × List UInt8 :=
  if paths.isEmpty then (state.withStatus 0, state.input)
  else
    paths.foldl (fun (state, read) path =>
      if path = "-" then (state, read ++ state.input)
      else
        match state.files.read ⟨path⟩ with
        | .ok bytes => (state, read ++ bytes)
        | .error fault =>
          let reason :=
            if fault = .missing then "No such file or directory" else State.faultText fault
          let message := s!"{program}: {path}: {reason}\n"
          ((state.write setting.err (encode message)).withStatus 1, read)) (state.withStatus 0, [])

/-- The options of `head` and `tail`: whether bytes are counted, how many, and the files. -/
def countOptions (byBytes : Bool) (count : Nat) : Nat → List String → Bool × Nat × List String
  | steps + 1, "-n" :: text :: rest => countOptions false (text.toNat?.getD count) steps rest
  | steps + 1, "-c" :: text :: rest => countOptions true (text.toNat?.getD count) steps rest
  | steps + 1, argument :: rest =>
    match argument.toList with
    | '-' :: 'n' :: digits =>
      countOptions false ((String.ofList digits).toNat?.getD count) steps rest
    | '-' :: 'c' :: digits =>
      countOptions true ((String.ofList digits).toNat?.getD count) steps rest
    | '-' :: digit :: digits =>
      countOptions false ((String.ofList (digit :: digits)).toNat?.getD count) steps rest
    | _ => (byBytes, count, argument :: rest)
  | _, rest => (byBytes, count, rest)

/-- The counts that `wc` writes. -/
def countText (options : List Char) (bytes : List UInt8) : String :=
  let lines := (bytes.filter (· == 10)).length
  if options.contains 'c' then toString bytes.length else toString lines

/-- The names of the programs that every command may call. -/
def programNames : List String :=
  ["sh", "echo", "cat", "true", "false", "printf", "sleep", "env", "head", "tail", "wc", "seq",
    "basename", "dirname", "test", "["]

/-- The sleeping of a program. -/
def sleepFor (state : State) (nanoseconds : Nat) : Step :=
  let state := { state with elapsed := state.elapsed + nanoseconds, status := 0 }
  (state, if state.limit ≤ state.elapsed then .stop .overtime else .onward)

/-- Ends a script with the status that is given, or with the last one. -/
def leave (state : State) (setting : Setting) (line : Nat) (name : String) :
    List String → Step
  | [] => (state, .stop (.status state.status))
  | text :: _ =>
    match text.toNat? with
    | some status => (state, .stop (.status (status % 256)))
    | none =>
      let (state, _) :=
        state.complain setting s!"{state.name}: {line}: {name}: Illegal number: {text}" 2
      (state, .stop (.status 2))

/-- Runs a program that needs no script; `none` if it is not known. -/
def runTool? (state : State) (setting : Setting) (line : Nat) (name : String)
    (arguments : List String) : Option Step :=
  let done := fun (status : Nat) (bytes : List UInt8) =>
    some ((state.write setting.out bytes).withStatus status, Flow.onward)
  match name with
  | ":" | "true" => done 0 []
  | "false" => done 1 []
  | "echo" => done 0 (Tools.echo arguments)
  | "printf" =>
    let (bytes, fits) := Tools.printf arguments
    done (if fits then 0 else 1) bytes
  | "pwd" => done 0 (encode ((FileSystem.pathOf state.files.current).text ++ "\n"))
  | "test" =>
    match Tools.test? state.files arguments with
    | some result => done (if result then 0 else 1) []
    | none => done 2 []
  | "[" =>
    match arguments.reverse with
    | "]" :: rest =>
      match Tools.test? state.files rest.reverse with
      | some result => done (if result then 0 else 1) []
      | none => done 2 []
    | _ => done 2 []
  | "cat" =>
    let paths := if arguments.isEmpty then ["-"] else arguments
    some (paths.foldl (fun state path =>
      let status := state.status
      let (state, bytes) := contents state setting "cat" [path]
      (state.write setting.out bytes).withStatus (max status state.status))
      (state.withStatus 0), .onward)
  | "head" =>
    let (byBytes, count, paths) := countOptions false 10 (arguments.length + 1) arguments
    let (state, bytes) := contents state setting "head" paths
    some (state.write setting.out (Tools.head byBytes count bytes), .onward)
  | "tail" =>
    let (byBytes, count, paths) := countOptions false 10 (arguments.length + 1) arguments
    let (state, bytes) := contents state setting "tail" paths
    some (state.write setting.out (Tools.tail byBytes count bytes), .onward)
  | "wc" =>
    let options := (arguments.filter (·.startsWith "-")).flatMap String.toList
    let paths := arguments.filter fun argument => !argument.startsWith "-"
    let (state, bytes) := contents state setting "wc" paths
    let ending := if paths.isEmpty then "\n" else " " ++ " ".intercalate paths ++ "\n"
    some (state.write setting.out (encode (countText options bytes ++ ending)), .onward)
  | "seq" =>
    let last := ((arguments.getLast?.bind String.toNat?).getD 0)
    let first := if arguments.length = 2 then ((arguments.head?.bind String.toNat?).getD 1) else 1
    let numbers := (List.range (last + 1 - first)).map fun n => toString (n + first) ++ "\n"
    done 0 (encode (String.join numbers))
  | "basename" =>
    let base := Tools.baseName (arguments.headD "")
    let ending := (arguments.drop 1).headD ""
    let base := if base != ending && base.endsWith ending then (base.dropEnd ending.length).toString
      else base
    done 0 (encode (base ++ "\n"))
  | "dirname" => done 0 (encode (Tools.directoryName (arguments.headD "") ++ "\n"))
  | "sleep" =>
    match Tools.seconds? arguments with
    | some nanoseconds => some (sleepFor state nanoseconds)
    | none => done 1 []
  | "kill" =>
    match killArguments? arguments with
    | some (number, targets) =>
      if targets.contains State.ownNumber && number != 0 then some (state, .stop (.signal number))
      else done (if targets.isEmpty then 2 else 0) []
    | none => done 2 []
  | "exit" | "return" => some (leave state setting line name arguments)
  | "wait" => some (sleepFor { state with jobsEnd := 0 } (state.jobsEnd - state.elapsed))
  | "break" => some (state.withStatus 0, .outOf ((arguments.head?.bind String.toNat?).getD 1))
  | "continue" => some (state.withStatus 0, .again ((arguments.head?.bind String.toNat?).getD 1))
  | "shift" =>
    let count := (arguments.head?.bind String.toNat?).getD 1
    some (({ state with arguments := state.arguments.drop count }).withStatus 0, .onward)
  | "set" =>
    match arguments with
    | "--" :: arguments => some (({ state with arguments := arguments }).withStatus 0, .onward)
    | arguments =>
      let strict := arguments.any fun argument => argument.startsWith "-" && argument.contains 'e'
      some (({ state with strict := state.strict || strict }).withStatus 0, .onward)
  | "read" =>
    let line := state.input.takeWhile (· != 10)
    let rest := (state.input.dropWhile (· != 10)).drop 1
    let names := arguments.filter fun argument => !argument.startsWith "-"
    let value := decodeLossy line
    let named := names.head?.getD "REPLY"
    let found := line.length < state.input.length
    let state := ({ state with input := rest }).setVariable named value
    some (state.withStatus (if found then 0 else 1), .onward)
  | "export" | "readonly" =>
    some ((arguments.foldl (fun state argument =>
      match argument.toList.span (· != '=') with
      | (name, _ :: value) => state.setVariable (String.ofList name) (String.ofList value)
      | _ => state) state).withStatus 0, .onward)
  | "unset" =>
    let kept := state.bindings.filter fun entry => !arguments.contains entry.1
    some (({ state with bindings := kept }).withStatus 0, .onward)
  | "trap" | "umask" | "cd" | "ulimit" => done 0 []
  | _ => none

/-! ### Scripts -/

/-- A script that is to be run: its name, its arguments and its text. -/
structure Call where
  name : String
  arguments : List String
  text : String
  /-- whether the script shares the state of its caller -/
  shared : Bool := false

/-- What runs another script. -/
abbrev Caller := State → Setting → Call → Step

/-- What runs a program by its name and arguments. -/
abbrev Runner := State → Setting → Nat → List String → Step

/-- The state after a script that ran apart from it. -/
def rejoin (state : State) : Step → Step
  | (after, flow) =>
    let state := { state with
      files := after.files, elapsed := after.elapsed, output := after.output
      messages := after.messages, input := after.input }
    match flow with
    | .stop (.status status) => (state.withStatus status, .onward)
    | .stop (.signal number) => (state.withStatus (128 + number), .onward)
    | .stop .overtime => (state, .stop .overtime)
    | _ => (state.withStatus after.status, .onward)

/-- Runs something and keeps back what it writes. -/
def captured (state : State) (body : State → Step) : State × List UInt8 × Flow :=
  let (after, flow) := body { state with output := [] }
  ({ after with output := state.output }, after.output.reverse.flatten, flow)

/-- How many rounds of a loop are gone through before it counts as endless. -/
def roundLimit : Nat := 100000

/-- Goes through a loop. A round gives the state after it and whether there is another one. -/
def rounds (round : State → Step × Bool) : Nat → State → Step
  | 0, state => (state, .stop .overtime)
  | steps + 1, state =>
    match round state with
    | ((state, flow), true) => if flow = .onward then rounds round steps state else (state, flow)
    | (step, false) => step

/-- How long a command may run beside a script that has ended: one hour. -/
def jobTime : Nat := 3600000000000

/-- What the body of a loop means for the loop: how it ends, or that it goes on. -/
def afterRound : Step → Step × Bool
  | (state, .onward) => ((state, .onward), true)
  | (state, .outOf loops) =>
    ((state, if loops ≤ 1 then .onward else .outOf (loops - 1)), false)
  | (state, .again loops) =>
    if loops ≤ 1 then ((state, .onward), true) else ((state, .again (loops - 1)), false)
  | step => (step, false)

/-- Ends a strict script whose command failed unnoticed. -/
def checked (setting : Setting) : Step → Step
  | (state, .onward) =>
    if state.strict && !setting.tested && state.status != 0 then
      (state, .stop (.status state.status))
    else (state, .onward)
  | step => step

/-- Sets variables one after the other. -/
def assign (capture : Capture) (state : State) (assignments : List (String × Word)) : State :=
  assignments.foldl (fun state (name, word) =>
    let (state, text) := state.expandText capture word
    state.setVariable name text) state

/-- What a command substitution gives. -/
def captureWith (caller : Caller) (setting : Setting) : Capture := fun state script =>
  let call := fun state => rejoin state
    (caller state { setting with out := .output, tested := false }
      ⟨state.name, state.arguments, script, true⟩)
  let (state, bytes, _) := captured state call
  (state, decodeLossy bytes)

/-- Runs a command. -/
def run (caller : Caller) (runner : Runner) : Command → Setting → State → Step
  | .nothing, _, state => (state, .onward)
  | .simple line assignments words, setting, state =>
    let capture := captureWith caller setting
    let (state, fields) := state.expandFields capture words
    let state := assign capture state assignments
    checked setting
      (if fields.isEmpty then
        let runs := words.any Word.runs || assignments.any fun entry => entry.2.runs
        (if runs then state else state.withStatus 0, .onward)
      else runner state setting line fields)
  | .sequence first second, setting, state =>
    match run caller runner first setting state with
    | (state, .onward) => run caller runner second setting state
    | step => step
  | .both first second, setting, state =>
    match run caller runner first { setting with tested := true } state with
    | (state, .onward) =>
      if state.status = 0 then run caller runner second setting state else (state, .onward)
    | step => step
  | .either first second, setting, state =>
    match run caller runner first { setting with tested := true } state with
    | (state, .onward) =>
      if state.status = 0 then (state, .onward) else run caller runner second setting state
    | step => step
  | .negation command, setting, state =>
    match run caller runner command { setting with tested := true } state with
    | (state, .onward) => (state.withStatus (if state.status = 0 then 1 else 0), .onward)
    | step => step
  | .pipe first second, setting, state =>
    let body := fun state => run caller runner first { setting with out := .output } state
    let (after, bytes, flow) := captured state body
    match rejoin state (after, flow) with
    | (after, .onward) =>
      rejoin after (run caller runner second setting { after with input := bytes })
    | step => step
  | .redirected line command redirections, setting, state =>
    let capture := captureWith caller setting
    let input := state.input
    let (state, setting) := redirections.foldl (fun (state, setting) redirection =>
      match setting with
      | .ok setting => state.applyRedirection capture setting redirection
      | .error message => (state, .error message)) (state, Except.ok (ε := String) setting)
    match setting with
    | .error message =>
      ((state.write .messages (encode s!"{state.name}: {line}: {message}\n")).withStatus 2, .onward)
    | .ok setting =>
      let (state, flow) := run caller runner command setting state
      ({ state with input := input }, flow)
  | .apart command, setting, state => rejoin state (run caller runner command setting state)
  | .beside command, setting, state =>
    let (after, _) := rejoin state
      (run caller runner command setting { state with limit := state.limit + jobTime })
    let jobsEnd := max state.jobsEnd after.elapsed
    ({ after with elapsed := state.elapsed, jobsEnd := jobsEnd, status := 0 }, .onward)
  | .conditional condition consequence alternative, setting, state =>
    match run caller runner condition { setting with tested := true } state with
    | (state, .onward) =>
      if state.status = 0 then run caller runner consequence setting state
      else run caller runner alternative setting (state.withStatus 0)
    | step => step
  | .loop wanted condition body, setting, state =>
    rounds (fun state =>
      match run caller runner condition { setting with tested := true } state with
      | (state, .onward) =>
        if (state.status = 0) = wanted then afterRound (run caller runner body setting state)
        else ((state.withStatus 0, .onward), false)
      | step => (step, false)) roundLimit state
  | .each name words body, setting, state =>
    let (state, fields) := state.expandFields (captureWith caller setting) words
    fields.foldl (fun step field =>
      match step with
      | ((state, .onward), true) =>
        afterRound (run caller runner body setting (state.setVariable name field))
      | step => step) ((state.withStatus 0, Flow.onward), true) |>.1
  | .choice word patterns body rest, setting, state =>
    let capture := captureWith caller setting
    let (state, text) := state.expandText capture word
    let (state, found) := patterns.foldl (fun (state, found) pattern =>
      let (state, glyphs) := state.expand capture pattern
      (state, found || (patternOf glyphs).fits text)) (state, false)
    if found then run caller runner body setting (state.withStatus 0)
    else run caller runner rest setting state

/-! ### Programs by name -/

/-- What stands behind the name of a program. -/
inductive Program where
  /-- one of the known programs, by its name -/
  | tool (name : String)
  /-- a script, with the arguments that come before those of the call -/
  | script (arguments : List String) (text : String)
  | refused (fault : FileFault)
  /-- a file that is no program -/
  | notProgram
  deriving Repr, Inhabited

/-- The directories in which programs are looked for. -/
def programDirectories : List String := ["/usr/local/bin", "/usr/bin", "/bin"]

/-- The bytes that stand in a file that is a known program. -/
def toolBytes (name : String) : List UInt8 := encode ("\x7fELF" ++ name)

/-- The interpreter that a script names in its first line, and its argument. -/
def interpreter? (text : String) : Option (List String) :=
  match text.toList with
  | '#' :: '!' :: rest =>
    let line := rest.takeWhile (· != '\n')
    let trimmed := (line.dropWhile Rest.isSpace).reverse.dropWhile Rest.isSpace |>.reverse
    let (program, argument) := trimmed.span fun c => !Rest.isSpace c
    let argument := argument.dropWhile Rest.isSpace
    some (String.ofList program ::
      (if argument.isEmpty then [] else [String.ofList argument]))
  | _ => none

/-- What a file is as a program. -/
def programAt (files : FileSystem) (path : Path) : Program :=
  match files.resolve true path with
  | .error fault => .refused fault
  | .ok location =>
    match files.item? location with
    | some (.regular bytes ⟨_, _, true⟩) =>
      let text := decodeLossy bytes
      match text.toList with
      | '\x7f' :: 'E' :: 'L' :: 'F' :: name => .tool (String.ofList name)
      | _ =>
        match interpreter? text with
        | some arguments => .script arguments text
        | none => .notProgram
    | some _ => .refused .denied
    | none => .refused .missing

/-- The path and the kind of a program. One without a slash is looked for in the directories of
programs. -/
def find (files : FileSystem) (name : String) : Path × Program :=
  if name.toList.contains '/' then (⟨name⟩, programAt files ⟨name⟩)
  else if name.isEmpty then (⟨name⟩, .refused .missing)
  else
    let found := programDirectories.filterMap fun directory =>
      let path := (Path.mk directory).join ⟨name⟩
      match programAt files path with
      | .refused .missing | .refused .notDirectory => none
      | program => some (path, program)
    found.headD (⟨name⟩, .refused .missing)

/-- Whether a name is that of a shell. -/
def isShell (name : String) : Bool := ["sh", "dash", "bash"].contains name

/-- Runs a known program as a process of its own. -/
def runProgram (caller : Caller) (runner : Runner) (state : State) (setting : Setting) (line : Nat)
    (tool called : String) (arguments : List String) : Step :=
  if isShell tool then
    match arguments with
    | "-c" :: text :: rest => caller state setting ⟨rest.headD called, rest.drop 1, text, false⟩
    | path :: rest =>
      match state.files.read ⟨path⟩ with
      | .ok bytes => caller state setting ⟨path, rest, decodeLossy bytes, false⟩
      | .error fault =>
        state.complain setting s!"{called}: 0: cannot open {path}: {State.faultText fault}" 2
    | [] => caller state setting ⟨called, [], decodeLossy state.input, false⟩
  else if tool = "env" then
    match arguments.dropWhile fun argument => argument.toList.contains '=' with
    | [] => (state.withStatus 0, .onward)
    | arguments => runner state setting line arguments
  else if tool = "echo" then
    ((state.write setting.out (Tools.echoProgram arguments)).withStatus 0, .onward)
  else
    match runTool? state setting line tool arguments with
    | some step => step
    | none => (state.withStatus 127, .onward)

/-- The commands that run another one in their own place. -/
def isPassing (name : String) : Bool := ["command", "builtin", "nohup"].contains name

/-- Runs a command by its name, with so many levels of programs that start programs. -/
def runNamed (caller : Caller) : Nat → Runner
  | 0, state, _, _, _ => (state.withStatus 126, .onward)
  | _ + 1, state, _, _, [] => (state, .onward)
  | depth + 1, state, setting, line, name :: arguments =>
    if name = "exec" then
      match runNamed caller depth state setting line arguments with
      | (state, .onward) =>
        if arguments.isEmpty then (state, .onward) else (state, .stop (.status state.status))
      | step => step
    else if isPassing name then runNamed caller depth state setting line arguments
    else if name = "eval" then
      caller state setting ⟨state.name, state.arguments, " ".intercalate arguments, true⟩
    else
      match if name.toList.contains '/' then none
        else runTool? state setting line name arguments with
      | some step => step
      | none =>
        let told := fun (message : String) (status : Nat) =>
          state.complain setting s!"{state.name}: {line}: {name}: {message}" status
        match find state.files name with
        | (_, .tool tool) =>
          rejoin state
            (runProgram caller (runNamed caller depth) state setting line tool name arguments)
        | (path, .script start _) =>
          runNamed caller depth state setting line (start ++ path.text :: arguments)
        | (path, .notProgram) =>
          runNamed caller depth state setting line ("/bin/sh" :: path.text :: arguments)
        | (_, .refused .denied) => told "Permission denied" 126
        | (_, .refused _) => told "not found" 127

/-- How deep programs start programs. -/
def startDepth : Nat := 20

/-- Runs a script, with so many levels of scripts that call scripts. -/
def runScript : Nat → Caller
  | 0, state, _, _ => (state.withStatus 2, .onward)
  | depth + 1, state, setting, call =>
    let own := if call.shared then state
      else { state with
        name := call.name
        arguments := call.arguments
        bindings := []
        status := 0
        strict := false }
    let setting := if call.shared then setting else { setting with tested := false }
    match command? call.text with
    | none => own.complain setting s!"{call.name}: 1: Syntax error" 2
    | some command =>
      run (runScript depth) (runNamed (runScript depth) startDepth) command setting own

end DeclGraph.Shell
