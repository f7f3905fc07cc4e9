/-
**Extractors by language.**

An extractor turns the files of one language into graphs. A registry has at most one extractor for a
language: registering another one takes the old one away and puts the new one last.

* `Registry.forPath`: the extractor for the language of a path;
* `Registry.extract`: the graph of a file.
-/

import DeclGraph.Error
import DeclGraph.Graph
import DeclGraph.Language
import DeclGraph.Machine.FileSystem

namespace DeclGraph

/-- What turns the files of a language into graphs. -/
structure Extractor where
  language : Language
  extract : FileSystem → Path → Except Error Graph

/-- The registered extractors, in the order of their registration. -/
structure Registry where
  extractors : List Extractor := []

namespace Registry

/-- A registry without extractors. -/
def empty : Registry := {}

/-- Registers an extractor in the place of the one for its language. -/
def register (registry : Registry) (extractor : Extractor) : Registry :=
  ⟨(registry.extractors.filter fun other => other.language != extractor.language) ++ [extractor]⟩

/-- The languages that files are extracted for. -/
def languages (registry : Registry) : List Language := registry.extractors.map Extractor.language

/-- The extensions of the files that some extractor takes. -/
def extensions (registry : Registry) : List String := registry.languages.flatMap Language.extensions

/-- The extractor for a language. -/
def forLanguage? (registry : Registry) (language : Language) : Option Extractor :=
  registry.extractors.find? fun extractor => extractor.language == language

/-- The extractor for the language of a path. -/
def forPath (registry : Registry) (path : Path) : Except Error Extractor :=
  match (Language.ofPath? path).bind registry.forLanguage? with
  | some extractor => .ok extractor
  | none => .error (.unsupportedInput path)

/-- The graph of a file. -/
def extract (registry : Registry) (files : FileSystem) (path : Path) : Except Error Graph :=
  match registry.forPath path with
  | .ok extractor => extractor.extract files path
  | .error error => .error error

end Registry

end DeclGraph
