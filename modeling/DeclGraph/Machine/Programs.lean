/-
**Starting programs.**

Programs are shell scripts and the small programs that those call. A program is found by its path or
in the directories of programs, and runs until it ends or its time is over.

* `withPrograms`: a file system with the small programs in their places;
* `launch`: the run of a program.
-/

import DeclGraph.Machine.Launcher
import DeclGraph.Machine.Shell.Run

namespace DeclGraph.Shell

/-- Puts a directory at a location, and all directories on the way. -/
def withDirectory (files : FileSystem) (location : Location) : FileSystem :=
  (files.makeParents location).insert location (.directory false)

/-- The locations of the directories that every system has. -/
def systemDirectories : List Location :=
  [["bin"], ["dev"], ["etc"], ["home"], ["root"], ["tmp"], ["usr"], ["usr", "bin"], ["var"],
    ["var", "tmp"]]

/-- A file system with the small programs in their places. -/
def withPrograms (files : FileSystem) : FileSystem :=
  let files := systemDirectories.foldl withDirectory files
  let files := programNames.foldl (fun files name =>
    [["bin", name], ["usr", "bin", name]].foldl (fun files location =>
      files.insert location (.file (toolBytes name) true)) files) files
  files.insert ["dev", "null"] (.device {})

/-- How deep scripts call scripts. -/
def callDepth : Nat := 20

/-- Runs a program that is found at a path. -/
def start (state : State) (program : Program) (path : Path) (arguments : List String) :
    Except String Step :=
  let caller := runScript callDepth
  let runner := runNamed caller startDepth
  let tool := fun name called arguments => runProgram caller runner state {} 1 name called arguments
  match program with
  | .refused fault => .error fault.message
  | .notProgram => .error "Exec format error (os error 8)"
  | .tool name => .ok (tool name path.text arguments)
  | .script begin _ =>
    let interpreter := begin.headD ""
    match programAt state.files ⟨interpreter⟩ with
    | .tool name => .ok (tool name interpreter (begin.tail ++ path.text :: arguments))
    | .refused fault => .error fault.message
    | .notProgram => .error "Exec format error (os error 8)"
    | .script _ _ => .ok (runner state {} 1 (begin ++ path.text :: arguments))

/-- What is known of a program after its run. -/
def outcomeOf : Step → Outcome
  | (state, flow) =>
    let output := state.output.reverse.flatten
    let messages := state.messages.reverse.flatten
    if state.limit ≤ state.elapsed then .overtime
    else
      match flow with
      | .stop .overtime => .overtime
      | .stop (.status status) => .ended (some status) output messages
      | .stop (.signal _) => .ended none output messages
      | _ => .ended (some state.status) output messages

/-- Whether a text holds a character that no argument may hold. -/
def holdsZero (text : String) : Bool := text.toList.contains '\x00'

/-- Programs are run by the shell of this library. -/
def launch : Launcher where
  start files limit program arguments :=
    if holdsZero program.text || arguments.any holdsZero then
      .refused "nul byte found in provided data"
    else
      let (path, kind) := find files program.text
      let path := if program.text.toList.contains '/' then path else program
      match start { files := files, limit := limit.nanoseconds } kind path arguments with
      | .ok step => outcomeOf step
      | .error reason => .refused reason

end DeclGraph.Shell
