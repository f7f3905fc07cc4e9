/-
**The index of a directory.**

Every file below a directory that some extractor takes is extracted. A file that fails is noted and
the others go on; each path is told under its graph or under its failure, in the order of paths.

* `Index.ofResults`: the index of single results, in whatever order they come;
* `Index.build`: the index of a directory.
-/

import DeclGraph.Extraction.Registry
import DeclGraph.Tree.Directory

namespace DeclGraph

/-- What became of the files of a directory, each list in the order of paths. -/
structure Index where
  graphs : List (Path × Graph) := []
  failures : List (Path × String) := []
  deriving DecidableEq, Repr, Inhabited

namespace Index

/-! ### Single results -/

/-- Puts a value before the first one with a greater path, in the place of one with the same. -/
def put {α : Type} (path : Path) (value : α) : List (Path × α) → List (Path × α)
  | [] => [(path, value)]
  | entry :: entries =>
    match path.compare entry.1 with
    | .lt => (path, value) :: entry :: entries
    | .eq => (entry.1, value) :: entries
    | .gt => entry :: put path value entries

/-- The index with the result for one more path. -/
def add (index : Index) : Path × Except Error Graph → Index
  | (path, .ok graph) => { index with graphs := put path graph index.graphs }
  | (path, .error error) => { index with failures := put path error.message index.failures }

/-- The index of some results. -/
def ofResults (results : List (Path × Except Error Graph)) : Index := results.foldl add {}

/-! ### Files -/

/-- The index of some files. -/
def ofFiles (registry : Registry) (files : FileSystem) (paths : List Path) : Index :=
  ofResults (paths.map fun path => (path, registry.extract files path))

/-- The paths of the files below a directory that some extractor takes. -/
def paths (registry : Registry) (files : FileSystem) (limits : Tree.Limits) (root : Path) :
    Except Error (List Path) :=
  ((Tree.Builder.ofExtensions registry.extensions limits).list files root).map fun entries =>
    entries.flatMap Entry.files

/-- The index of a directory. -/
def build (registry : Registry) (files : FileSystem) (limits : Tree.Limits) (root : Path) :
    Except Error Index :=
  (paths registry files limits root).map (ofFiles registry files)

/-! ### Questions -/

/-- The value under a path, whatever way the path is spelled. -/
def find? {α : Type} (path : Path) (entries : List (Path × α)) : Option α :=
  (entries.find? fun entry => entry.1.same path).map Prod.snd

/-- The graph of a file. -/
def graph? (index : Index) (path : Path) : Option Graph := find? path index.graphs

/-- Why a file has no graph. -/
def failure? (index : Index) (path : Path) : Option String := find? path index.failures

end Index

end DeclGraph
