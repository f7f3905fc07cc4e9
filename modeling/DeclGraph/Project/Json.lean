/-
**Projects as JSON.**

* `Project.toJson`, `Project.decoder`: writing and reading a project. The address may be left out.
-/

import DeclGraph.Json.Decode
import DeclGraph.Project.Basic

namespace DeclGraph.Project

open Json (Decoder Value)

def toJson (project : Project) : Value :=
  .object [("id", .integer project.id), ("name", .string project.name),
    ("url", .string project.url)]

def decoder : Decoder Project := fun levels text => do
  let record ← Decoder.given ["id", "name", "url"] levels text
  return { id := ← record.required 0 Decoder.integer64
           name := ← record.required 1 Decoder.string
           url := ← record.defaulted 2 Decoder.string "" }

end DeclGraph.Project
