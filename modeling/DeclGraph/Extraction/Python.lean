/-
**Graphs of Python sources.**

A source gives its graph, or the place of the first thing in it that makes it invalid. Rows and
columns are told from one.

* `Extraction.python`: the graph of a source;
* `Extraction.pythonFile`: the graph of a file.
-/

import DeclGraph.Declarations.OfTree
import DeclGraph.Error
import DeclGraph.Machine.FileSystem
import DeclGraph.Syntax.Source
import DeclGraph.Text.Lines
import DeclGraph.Text.Utf8

namespace DeclGraph.Extraction

/-- What is told of an invalid source. -/
def invalidSyntax (place : Syntax.Position) : String :=
  "invalid syntax at line " ++ toString (place.row + 1) ++
    ", column " ++ toString (place.column + 1)

/-- The graph of a source with a given tree; the path is used in failures only. -/
def graphOfTree (path : Path) (source : String) (tree : Syntax.Tree) : Except Error Graph :=
  match tree.firstInvalid? with
  | some node => .error (.parse path (invalidSyntax node.start))
  | none => .ok (Declarations.ofTree (Text.lines source) tree).graph

/-- The graph of a Python source. -/
def python (path : Path) (source : String) : Except Error Graph :=
  graphOfTree path source (Syntax.Tree.ofSource source)

/-- What an accepted source declares. -/
theorem graph_of_python {path : Path} {source : String} {graph : Graph}
    (accepted : python path source = .ok graph) :
    graph = (Declarations.ofTree (Text.lines source) (.ofSource source)).graph := by
  unfold python graphOfTree at accepted
  split at accepted <;> cases accepted
  rfl

/-- A source without errors is accepted. -/
theorem python_of_valid {path : Path} {source : String}
    (valid : (Syntax.Tree.ofSource source).firstInvalid?.isNone = true) :
    python path source =
      .ok (Declarations.ofTree (Text.lines source) (.ofSource source)).graph := by
  unfold python graphOfTree
  rw [Option.isNone_iff_eq_none.mp valid]

/-- The graph of a Python file. -/
def pythonFile (files : FileSystem) (path : Path) : Except Error Graph :=
  match files.read path with
  | .error _ => .error (.notFound path)
  | .ok bytes =>
    match Text.Utf8.decode bytes with
    | .error fault => .error (.parse path ("source is not valid UTF-8: " ++ fault.message))
    | .ok source => python path source

end DeclGraph.Extraction
