/-
**Requests to the server.**

A request is one line of JSON with a command and its parameters. A line that is no request has a
fault, and faults are found before anything is done.

* `Request.ofText`: the request in a line;
* `Fault.message`: a fault in words.
-/

import DeclGraph.Json.Decode
import DeclGraph.Language
import DeclGraph.Project.Json

namespace DeclGraph.Server

open Json (Decoder)

/-- What a client may ask for. -/
inductive Request where
  | ping
  | graph (path : Path)
  | tree (language : Option Language)
  | select (project : Project)
  | clear
  | current
  | shutdown
  deriving DecidableEq, Repr, Inhabited

/-- Why a line is no request. -/
inductive Fault where
  | malformed
  | unknownCommand (name : String)
  | missingParameters (command : String)
  | missingPath
  | badTreeParameters
  | unknownLanguage (reason : String)
  | badProject
  deriving DecidableEq, Repr, Inhabited

/-- A fault in words. -/
def Fault.message : Fault → String
  | malformed => "Invalid JSON format"
  | unknownCommand name => "Unknown command: " ++ name
  | missingParameters command => "Missing params for " ++ command
  | missingPath => "Missing 'filepath' param"
  | badTreeParameters => "Invalid params for TREE"
  | unknownLanguage reason => reason
  | badProject => "SET_PROJECT needs 'id' and 'name'"

/-! ### Decoding -/

/-- A command and its parameters, which are looked at later. -/
structure Command where
  name : String
  parameters : Option Json.Syntax
  deriving Repr, Inhabited

/-- Reads a command. -/
def Command.decoder : Decoder Command := fun levels text => do
  let record ← Decoder.given ["command", "params"] levels text
  return { name := ← record.required 0 Decoder.string
           parameters := ← record.optional 1 Decoder.whole }

/-- Reads the path of a graph request. -/
def graphParameters : Decoder Path := fun levels text => do
  let record ← Decoder.given ["filepath"] levels text
  return ⟨← record.required 0 Decoder.string⟩

/-- Reads the name of the language of a tree request. -/
def treeParameters : Decoder (Option String) := fun levels text => do
  let record ← Decoder.given ["lang"] levels text
  record.optional 0 Decoder.string

/-- The levels of nesting for parameters, whose depth is bounded by that of their line. -/
def parameterLevels : Nat := Json.nestingLimit + 1

/-! ### Requests -/

namespace Request

/-- A request for a graph. -/
def graphOf : Option Json.Syntax → Except Fault Request
  | none => .error (.missingParameters "GRAPH")
  | some parameters =>
    match graphParameters parameterLevels parameters with
    | some path => .ok (.graph path)
    | none => .error .missingPath

/-- A request for a tree of a language that the client names. -/
def treeOfLanguage : Option String → Except Fault Request
  | none => .ok (.tree none)
  | some name =>
    match Language.ofName name with
    | .ok language => .ok (.tree (some language))
    | .error reason => .error (.unknownLanguage reason)

/-- A request for a tree. -/
def treeOf : Option Json.Syntax → Except Fault Request
  | none => .ok (.tree none)
  | some parameters =>
    match treeParameters parameterLevels parameters with
    | some name => treeOfLanguage name
    | none => .error .badTreeParameters

/-- A request for another project. -/
def selectOf : Option Json.Syntax → Except Fault Request
  | none => .error (.missingParameters "SET_PROJECT")
  | some parameters =>
    match Project.decoder parameterLevels parameters with
    | some project => .ok (.select project)
    | none => .error .badProject

/-- The request that a command makes. -/
def ofCommand (command : Command) : Except Fault Request :=
  match command.name with
  | "PING" => .ok .ping
  | "GRAPH" => graphOf command.parameters
  | "TREE" => treeOf command.parameters
  | "SET_PROJECT" => selectOf command.parameters
  | "CLEAR_PROJECT" => .ok .clear
  | "PROJECT" => .ok .current
  | "SHUTDOWN" => .ok .shutdown
  | name => .error (.unknownCommand name)

/-- The request in a line. -/
def ofText (line : String) : Except Fault Request :=
  match Json.decodeText Command.decoder line with
  | some command => ofCommand command
  | none => .error .malformed

end Request

end DeclGraph.Server
