/-
**Diagrams.**

What the diagram client draws: the nodes and links of a graph with their colours, and a dashed
category for every link that is no containment.

* `Diagram.ofGraph`: the diagram of a graph.
-/

import DeclGraph.Graph

namespace DeclGraph

namespace NodeKind

/-- The colour of a node. -/
def color : NodeKind → String
  | type => "lightblue"
  | member => "lightgreen"
  | function => "lightcoral"
  | importing => "lightyellow"

end NodeKind

namespace LinkKind

/-- The colour of a link. -/
def color : LinkKind → String
  | containment => "blue"
  | inheritance => "gray"
  | call => "green"
  | importUse => "orange"

end LinkKind

namespace Diagram

/-- A node as it is drawn. -/
structure Box where
  key : String
  name : String
  kind : NodeKind
  color : String
  source : String
  deriving DecidableEq, Repr, Inhabited

/-- A link as it is drawn. -/
structure Arrow where
  source : String
  target : String
  kind : LinkKind
  category : Option String
  color : String
  deriving DecidableEq, Repr, Inhabited

/-- A node of a graph as it is drawn. -/
def Box.ofNode (node : Node) : Box :=
  ⟨node.key, node.name, node.kind, node.kind.color, node.sourceText⟩

/-- A link of a graph as it is drawn. -/
def Arrow.ofLink (link : Link) : Arrow :=
  ⟨link.source, link.target, link.kind, if link.kind.isDashed then some "dashed" else none,
    link.kind.color⟩

end Diagram

/-- What the diagram client draws. -/
structure Diagram where
  boxes : List Diagram.Box
  arrows : List Diagram.Arrow
  deriving DecidableEq, Repr, Inhabited

namespace Diagram

/-- The diagram of a graph. -/
def ofGraph (graph : Graph) : Diagram :=
  ⟨graph.nodes.map Box.ofNode, graph.links.map Arrow.ofLink⟩

end Diagram

end DeclGraph
