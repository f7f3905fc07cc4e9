/-
**Indices as JSON.**

The diagrams and the failures of an index by path, in the order of paths.

* `Index.toJson`: the report of an index.
-/

import DeclGraph.Diagram.Json
import DeclGraph.Index

namespace DeclGraph.Index

open Json (Value)

def toJson (index : Index) : Value :=
  .object [
    ("graphs", .object (index.graphs.map fun (path, graph) =>
      (path.text, (Diagram.ofGraph graph).toJson))),
    ("failures", .object (index.failures.map fun (path, failure) =>
      (path.text, .string failure)))]

end DeclGraph.Index
