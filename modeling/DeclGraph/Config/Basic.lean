/-
**Configuration.**

Where the projects lie, how the external parser is run, how far trees are listed and where the
server listens. Everything has a default.
-/

import DeclGraph.Duration
import DeclGraph.Language
import DeclGraph.Tree.Listing

namespace DeclGraph

/-- How the external parser is run. -/
structure ParserSettings where
  program : Path := ⟨"./parser"⟩
  /-- the arguments in front of the path of the file -/
  arguments : List String := []
  timeoutMilliseconds : Nat := 5000
  deriving DecidableEq, Repr, Inhabited

namespace ParserSettings

/-- How long the external parser may take. -/
def timeout (settings : ParserSettings) : Duration :=
  Duration.ofMilliseconds settings.timeoutMilliseconds

end ParserSettings

/-- Where the server listens. -/
structure ServerSettings where
  host : String := "127.0.0.1"
  port : Nat := 5000
  deriving DecidableEq, Repr, Inhabited

namespace ServerSettings

/-- The host and the port. -/
def address (settings : ServerSettings) : String := settings.host ++ ":" ++ toString settings.port

end ServerSettings

/-- The configuration. -/
structure Config where
  /-- the directory with one directory for each project, named after it -/
  projectsRoot : Path := ⟨"projects"⟩
  /-- the language whose files a tree shows when none is asked for -/
  defaultLanguage : Language := .python
  /-- whether paths outside the active project are refused -/
  confinesPaths : Bool := true
  parser : ParserSettings := {}
  tree : Tree.Limits := {}
  server : ServerSettings := {}
  deriving DecidableEq, Repr, Inhabited

end DeclGraph
