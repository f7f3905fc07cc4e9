/-
**Loading a configuration.**

A configuration is a TOML document. Fields that are left out keep their defaults, and unknown fields
are skipped, but the document must be valid as a whole.

* `Config.ofText`: the configuration that a text describes;
* `Config.load`: the configuration in a file;
* `Config.loadOrDefault`: the same, or the default where no file is named or none is there.
-/

import DeclGraph.Config.Basic
import DeclGraph.Error
import DeclGraph.Machine.FileSystem
import DeclGraph.Text.Utf8
import DeclGraph.Toml.Decode
import DeclGraph.Toml.Document

namespace DeclGraph

open Toml (Decoder)

/-- Reads the settings of the external parser. -/
def ParserSettings.decoder : Decoder ParserSettings := fun value => do
  let given ← Decoder.fieldsOf? ["program", "args", "timeout_ms"] value
  let absent : ParserSettings := {}
  return { program := ⟨← Decoder.orElse given 0 Decoder.string absent.program.text⟩
           arguments := ← Decoder.orElse given 1 (Decoder.list Decoder.string) absent.arguments
           timeoutMilliseconds :=
            ← Decoder.orElse given 2 (Decoder.naturalUpTo (UInt64.size - 1))
              absent.timeoutMilliseconds }

/-- Reads the limits of trees. -/
def Tree.Limits.decoder : Decoder Tree.Limits := fun value => do
  let given ← Decoder.fieldsOf? ["max_depth", "max_entries"] value
  let absent : Tree.Limits := {}
  let limit := Decoder.naturalUpTo (UInt64.size - 1)
  return { depth := ← Decoder.orElse given 0 limit absent.depth
           entries := ← Decoder.orElse given 1 limit absent.entries }

/-- Reads where the server listens. -/
def ServerSettings.decoder : Decoder ServerSettings := fun value => do
  let given ← Decoder.fieldsOf? ["host", "port"] value
  let absent : ServerSettings := {}
  return { host := ← Decoder.orElse given 0 Decoder.string absent.host
           port := ← Decoder.orElse given 1 (Decoder.naturalUpTo (UInt16.size - 1)) absent.port }

namespace Config

/-- The names of the fields. -/
def fieldNames : List String :=
  ["projects_root", "default_language", "confine_paths", "go", "tree", "server"]

/-- Reads a configuration. -/
def decoder : Decoder Config := fun value => do
  let given ← Decoder.fieldsOf? fieldNames value
  let absent : Config := {}
  return { projectsRoot := ⟨← Decoder.orElse given 0 Decoder.string absent.projectsRoot.text⟩
           defaultLanguage :=
            ← Decoder.orElse given 1 (Decoder.choice Language.ofTag?) absent.defaultLanguage
           confinesPaths := ← Decoder.orElse given 2 Decoder.boolean absent.confinesPaths
           parser := ← Decoder.orElse given 3 ParserSettings.decoder absent.parser
           tree := ← Decoder.orElse given 4 Tree.Limits.decoder absent.tree
           server := ← Decoder.orElse given 5 ServerSettings.decoder absent.server }

/-- The configuration that a text describes. -/
def ofText (text : String) (wording : Wording := {}) : Except Error Config :=
  match (Toml.document? text).bind fun fields => decoder (.table .stated fields) with
  | some config => .ok config
  | none => .error (.config (wording.configuration text))

/-- The configuration in a file. -/
def load (files : FileSystem) (path : Path) (wording : Wording := {}) : Except Error Config :=
  match files.read path with
  | .error fault => .error (.io fault.message)
  | .ok bytes =>
    match Text.Utf8.decode bytes with
    | .error _ => .error (.io "stream did not contain valid UTF-8")
    | .ok text => ofText text wording

/-- The configuration in a file, or the default where no file is named or none is there. -/
def loadOrDefault (files : FileSystem) (path : Option Path) (wording : Wording := {}) :
    Except Error Config :=
  match path with
  | some path => if files.exists? path then load files path wording else .ok {}
  | none => .ok {}

end Config

end DeclGraph
