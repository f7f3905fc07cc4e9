/-
**Declaration graphs.**

A graph lists the declarations of one source file and the relations between them. Nodes are named
by their keys, links name their two ends by key, and neither list is deduplicated: the order and
the repetitions of both are part of the value.

* `Graph.node?`: the first node with a key;
* `Graph.nodesOf`, `Graph.linksOf`: the nodes and links of one kind, in order;
* `Graph.hasLink`: whether a link occurs.
-/

namespace DeclGraph

/-! ### Kinds -/

/-- What a declaration is. -/
inductive NodeKind where
  | type
  | member
  | function
  | importing
  deriving DecidableEq, Repr, Inhabited

/-- How one declaration relates to another. -/
inductive LinkKind where
  /-- from a type to its member -/
  | containment
  /-- from a subtype to its supertype -/
  | inheritance
  /-- from a caller to the declaration it calls -/
  | call
  /-- from a caller to the imported name it calls -/
  | importUse
  deriving DecidableEq, Repr, Inhabited

namespace NodeKind

/-- Every kind, in the order in which their names are tried. -/
def all : List NodeKind := [.type, .member, .function, .importing]

/-- The written name of a kind. -/
def tag : NodeKind → String
  | type => "type"
  | member => "member"
  | function => "function"
  | importing => "import"

/-- The kind with a written name. -/
def ofTag? (text : String) : Option NodeKind := all.find? fun kind => kind.tag == text

/-- A kind is read back from its written name. -/
theorem ofTag?_tag (kind : NodeKind) : ofTag? kind.tag = some kind := by
  cases kind <;> decide

end NodeKind

namespace LinkKind

/-- Every kind, in the order in which their names are tried. -/
def all : List LinkKind := [.containment, .inheritance, .call, .importUse]

/-- The written name of a kind. -/
def tag : LinkKind → String
  | containment => "containment"
  | inheritance => "inheritance"
  | call => "call"
  | importUse => "import-use"

/-- The kind with a written name. -/
def ofTag? (text : String) : Option LinkKind := all.find? fun kind => kind.tag == text

/-- A kind is read back from its written name. -/
theorem ofTag?_tag (kind : LinkKind) : ofTag? kind.tag = some kind := by
  cases kind <;> decide

/-- Containment is drawn solid, every other relation dashed. -/
def isDashed : LinkKind → Bool
  | containment => false
  | _ => true

end LinkKind

/-! ### Graphs -/

/-- One declaration. -/
structure Node where
  /-- `Owner.member` for a member, the bare name otherwise -/
  key : String
  name : String
  kind : NodeKind
  /-- the source lines that the declaration spans -/
  sourceText : String
  deriving DecidableEq, Repr, Inhabited

/-- A directed relation between two declaration keys. -/
structure Link where
  source : String
  target : String
  kind : LinkKind
  deriving DecidableEq, Repr, Inhabited

/-- The declarations of one file and their relations. -/
structure Graph where
  nodes : List Node := []
  links : List Link := []
  deriving DecidableEq, Repr, Inhabited

namespace Graph

/-- The graph without nodes and links. -/
def empty : Graph := {}

/-- A graph is empty when it has neither nodes nor links. -/
def isEmpty (graph : Graph) : Bool := graph.nodes.isEmpty && graph.links.isEmpty

/-- The first node with a key. -/
def node? (graph : Graph) (key : String) : Option Node :=
  graph.nodes.find? fun node => node.key == key

/-- The nodes of one kind, in order. -/
def nodesOf (graph : Graph) (kind : NodeKind) : List Node :=
  graph.nodes.filter fun node => node.kind == kind

/-- The links of one kind, in order. -/
def linksOf (graph : Graph) (kind : LinkKind) : List Link :=
  graph.links.filter fun link => link.kind == kind

/-- Whether a link occurs. -/
def hasLink (graph : Graph) (link : Link) : Bool := graph.links.contains link

end Graph

end DeclGraph
