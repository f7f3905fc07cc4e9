/-
**Failures.**

What can go wrong, by cause. A failure has a tag, which clients of the server see, and a text. Where
a library does not accept a text, the failure carries the words of that library.
-/

import DeclGraph.Duration
import DeclGraph.Path

namespace DeclGraph

/-- What the libraries that read texts say of those that they do not accept. -/
structure Wording where
  /-- of an output that holds no declarations -/
  declarations : String → String := fun _ => "no declarations"
  /-- of a text that describes no configuration -/
  configuration : String → String := fun _ => "TOML parse error"

/-- Why an external parser gave no declarations. -/
inductive ToolFailure where
  | start (program reason : String)
  /-- it ended with a status, or without one if a signal ended it -/
  | status (code : Option Int) (output : String)
  | malformedOutput (reason : String)
  | timeout (limit : Duration)
  deriving DecidableEq, Repr, Inhabited

namespace ToolFailure

/-- A status as it is shown. -/
def statusText : Option Int → String
  | some code => "Some(" ++ toString code ++ ")"
  | none => "None"

/-- The failure in words. -/
def message : ToolFailure → String
  | start program reason => "could not start `" ++ program ++ "`: " ++ reason
  | status code output => "exited with status " ++ statusText code ++ ": " ++ output
  | malformedOutput reason => "output is not a declaration map: " ++ reason
  | timeout limit => "timed out after " ++ limit.text

end ToolFailure

/-- Why a request failed. -/
inductive Error where
  | notFound (path : Path)
  | parse (path : Path) (reason : String)
  | externalTool (path : Path) (failure : ToolFailure)
  | unsupportedInput (path : Path)
  | noActiveProject
  | outsideProject (path root : Path)
  | config (reason : String)
  | io (reason : String)
  deriving DecidableEq, Repr, Inhabited

namespace Error

/-- The tag of a failure. -/
def kind : Error → String
  | notFound _ => "not_found"
  | parse _ _ => "parse"
  | externalTool _ _ => "external_tool"
  | unsupportedInput _ => "unsupported_input"
  | noActiveProject => "no_active_project"
  | outsideProject _ _ => "outside_project"
  | config _ => "config"
  | io _ => "io"

/-- The failure in words. -/
def message : Error → String
  | notFound path => "path not found or unreadable: " ++ path.text
  | parse path reason => "failed to parse " ++ path.text ++ ": " ++ reason
  | externalTool path failure =>
    "external parser failed on " ++ path.text ++ ": " ++ failure.message
  | unsupportedInput path => "no extractor registered for " ++ path.text
  | noActiveProject => "repository path not set: no active project"
  | outsideProject path root => path.text ++ " is outside the project root " ++ root.text
  | config reason => "config error: " ++ reason
  | io reason => reason

end Error

end DeclGraph
