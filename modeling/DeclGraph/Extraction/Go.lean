/-
**Graphs of Go sources.**

A Go file is handed to an external parser, which prints the declarations of the file. Whatever the
parser does, the request ends: it is stopped when its time is over.

* `Extraction.declarationsOf`: the declarations in what a run of the parser gave;
* `Extraction.go`: the graph of a file.
-/

import DeclGraph.Config.Basic
import DeclGraph.DeclarationMap.Json
import DeclGraph.Error
import DeclGraph.Machine.Launcher
import DeclGraph.Text.Utf8

namespace DeclGraph.Extraction

open Text (trim)
open Text.Utf8 (decodeLossy)

/-- What a failed run says: its messages, or its output where there are none. -/
def complaint (output messages : List UInt8) : String :=
  let messages := trim (decodeLossy messages)
  if messages.isEmpty then trim (decodeLossy output) else messages

/-- The declarations in what a run of the parser gave. -/
def declarationsOf (wording : Wording) (settings : ParserSettings) :
    Outcome → Except ToolFailure DeclarationMap
  | .refused reason => .error (.start settings.program.text reason)
  | .overtime => .error (.timeout settings.timeout)
  | .ended (some 0) output _ =>
    let text := decodeLossy output
    match DeclarationMap.ofText? text with
    | some map => .ok map
    | none => .error (.malformedOutput (wording.declarations text))
  | .ended status output messages => .error (.status status (complaint output messages))

/-- The declarations of a file. -/
def declarations (launcher : Launcher) (settings : ParserSettings) (files : FileSystem)
    (path : Path) : Except ToolFailure DeclarationMap :=
  declarationsOf launcher.wording settings
    (launcher.start files settings.timeout settings.program (settings.arguments ++ [path.text]))

/-- The graph of a file. -/
def go (launcher : Launcher) (settings : ParserSettings) (files : FileSystem) (path : Path) :
    Except Error Graph :=
  if files.isFile path then
    match declarations launcher settings files path with
    | .ok map => .ok map.graph
    | .error failure => .error (.externalTool path failure)
  else .error (.notFound path)

end DeclGraph.Extraction
