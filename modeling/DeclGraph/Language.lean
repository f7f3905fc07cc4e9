/-
**Languages.**

The languages whose sources are turned into declaration graphs. A language is known by its names,
by the extension of a file and by a path; letters are compared in lower case.
-/

import DeclGraph.Path
import DeclGraph.Text.Lowercase

namespace DeclGraph

/-- A language of sources. -/
inductive Language where
  | python
  | go
  deriving DecidableEq, Repr, Inhabited

namespace Language

/-- The name shown to users. -/
def name : Language → String
  | python => "Python"
  | go => "Go"

/-- The name used in data. -/
def tag : Language → String
  | python => "python"
  | go => "go"

/-- The language with a tag. -/
def ofTag? (text : String) : Option Language :=
  [python, go].find? fun language => language.tag == text

/-- The extensions of its files. -/
def extensions : Language → List String
  | python => ["py"]
  | go => ["go"]

/-- The names that users may give it, in lower case. -/
def aliases : Language → List String
  | python => ["python", "py"]
  | go => ["go", "golang"]

/-- The language that a user names; an unknown name is given back in lower case. -/
def ofName (text : String) : Except String Language :=
  let name := Text.lowercase text
  match [python, go].find? fun language => language.aliases.contains name with
  | some language => .ok language
  | none => .error ("unknown language: " ++ name)

/-- The language of files with an extension. -/
def ofExtension? (extension : String) : Option Language :=
  let extension := Text.lowercase extension
  [python, go].find? fun language => language.extensions.contains extension

/-- The language of the file at a path. -/
def ofPath? (path : Path) : Option Language := path.extension?.bind ofExtension?

end Language

end DeclGraph
