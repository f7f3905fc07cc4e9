/-
**Running a command line.**

A run is a function of the files: it gives a status, what is printed and told, and the files after
it. Nothing is printed or written before all else has succeeded. Status 2 means that the words of
the command line are not in order, status 1 that something failed.

* `run`: the run of a task other than the server;
* `server`: the server that a task asks for, and where it listens.
-/

import DeclGraph.CommandLine.Invocation
import DeclGraph.Config.Load
import DeclGraph.Diagram.Dot
import DeclGraph.Diagram.Json
import DeclGraph.Index.Json
import DeclGraph.Server.Basic
import DeclGraph.Service
import DeclGraph.Tree.Json

namespace DeclGraph.CommandLine

/-- Why a run failed: what was to be done, if that is told, and the cause. -/
structure Failure where
  context : Option String
  cause : String
  deriving DecidableEq, Repr, Inhabited

namespace Failure

/-- A text whose lines behind the first one are indented. -/
def indented (text : String) : String :=
  String.ofList (text.toList.flatMap fun c => if c = '\n' then "\n    ".toList else [c])

/-- A failure as it is told. -/
def report (failure : Failure) : String :=
  match failure.context with
  | none => "Error: " ++ failure.cause ++ "\n"
  | some context => "Error: " ++ context ++ "\n\nCaused by:\n    " ++ indented failure.cause ++ "\n"

/-- A failure without context. -/
def ofError (error : Error) : Failure := ⟨none, error.message⟩

/-- A failure with context. -/
def within (context : String) (error : Error) : Failure := ⟨some context, error.message⟩

end Failure

/-- What a task came to: a text to be printed or written, and what is told beside it. -/
structure Product where
  text : String
  output : Option Path := none
  note : String := ""
  deriving DecidableEq, Repr, Inhabited

/-- A run that has ended. -/
structure Report where
  status : Nat
  printed : String := ""
  told : String := ""
  files : FileSystem
  deriving Repr, Inhabited

/-! ### Tasks -/

/-- A graph in a format. -/
def render (format : Format) (graph : Graph) : String :=
  match format with
  | .json => Diagram.render true graph
  | .dot => Dot.document graph

/-- What is told of an index with failures. -/
def noteOf (index : Index) : String :=
  if index.failures.isEmpty then ""
  else toString index.graphs.length ++ " file(s) extracted, " ++
    toString index.failures.length ++ " skipped\n"

/-- The entries that a tree task asks for. A project takes the place of the directory. -/
def entries (service : Service) (files : FileSystem) (directory : Option Path)
    (language : Option Language) : Option String → Except Error (List Entry)
  | some name => (service.withProjects (·.select ⟨0, name, ""⟩)).tree files language
  | none => service.treeAt files (directory.getD ⟨"."⟩) language

/-- What a task comes to; the server comes to nothing. -/
def produce (service : Service) (files : FileSystem) : Task → Except Failure Product
  | .graph file format output =>
    match service.graph files file with
    | .ok graph => .ok { text := render format graph, output := output }
    | .error error => .error (.within ("Cannot build graph for " ++ file.text) error)
  | .tree directory language project =>
    match entries service files directory language project with
    | .ok entries => .ok { text := (Json.Value.array (entries.map Entry.toJson)).pretty }
    | .error error => .error (.ofError error)
  | .index directory output =>
    match service.index files directory with
    | .ok index => .ok { text := index.toJson.pretty, output := output, note := noteOf index }
    | .error error => .error (.ofError error)
  | .serve _ => .ok { text := "" }

/-- Prints a text, or writes it to a file. What goes to a device may show where it would have been
printed. -/
def emit (files : FileSystem) (product : Product) : Except Failure Report :=
  match product.output with
  | none => .ok ⟨0, product.text ++ "\n", product.note, files⟩
  | some path =>
    match files.write path (Text.Utf8.encode product.text) with
    | .ok after => .ok ⟨0, if files.shows path then product.text else "", product.note, after⟩
    | .error fault => .error (.within ("Cannot write " ++ path.text) (.io fault.message))

/-! ### Runs -/

/-- The configuration of a run. -/
def configOf (wording : Wording) (files : FileSystem) (invocation : Invocation) :
    Except Failure Config :=
  match Config.loadOrDefault files invocation.config wording with
  | .ok config => .ok config
  | .error error => .error (.within "Failed to load configuration" error)

/-- The run of an invocation up to its report. -/
def perform (launcher : Launcher) (files : FileSystem) (invocation : Invocation) :
    Except Failure Report := do
  let config ← configOf launcher.wording files invocation
  let product ← produce (Service.ofConfig launcher config) files invocation.task
  emit files product

/-- The run of an invocation. -/
def runInvocation (launcher : Launcher) (files : FileSystem) (invocation : Invocation) : Report :=
  match perform launcher files invocation with
  | .ok report => report
  | .error failure => ⟨1, "", failure.report, files⟩

/-- The run of a command line. -/
def run (launcher : Launcher) (files : FileSystem) (words : List String) : Report :=
  match Instruction.ofWords? words with
  | some (.invoke invocation) => runInvocation launcher files invocation
  | some (.tell text) => ⟨0, text, "", files⟩
  | none => ⟨2, "", "", files⟩

/-! ### The server -/

/-- Where the server of a configuration listens, on another port if one is given. -/
def settingsOf (config : Config) (port : Option Nat) : ServerSettings :=
  { config.server with port := port.getD config.server.port }

/-- The server that an invocation asks for, and where it listens. -/
def server (launcher : Launcher) (files : FileSystem) (config : Option Path) (port : Option Nat) :
    Except Failure (ServerSettings × Server) := do
  let config ← configOf launcher.wording files ⟨config, .serve port⟩
  return (settingsOf config port, { service := Service.ofConfig launcher config })

end DeclGraph.CommandLine
