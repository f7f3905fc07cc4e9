/-
**Syntax trees of Python sources.**

A tree has a label and its children in the order of the source. A label says what stands there,
which part of its parent it is, and where it begins and ends; rows count line feeds and columns
count the bytes of a line, both from zero. Names carry their text.

* `Tree.namedChildren`: the children that are more than a word or a mark;
* `Tree.part?`, `Tree.parts`: the children that play a part in their parent;
* `Tree.lastToken`: the last leaf of a declaration, comments aside;
* `Tree.firstInvalid?`: the first node, in the order of the source, that makes a source invalid.
-/

namespace DeclGraph.Syntax

/-- A place in a source. -/
structure Position where
  row : Nat := 0
  column : Nat := 0
  deriving DecidableEq, Repr, Inhabited

/-- What stands at a node. -/
inductive Kind where
  | module
  | block
  | classDefinition
  | functionDefinition
  | decoratedDefinition
  | importStatement
  | importFromStatement
  | aliasedImport
  | dottedName
  | printStatement
  | execStatement
  /-- any other statement -/
  | statement
  /-- a part of a statement or of an expression that is neither -/
  | clause
  | identifier
  | attribute
  | call
  | argumentList
  | subscript
  | tuple
  | list
  | splat
  /-- any other expression -/
  | expression
  | comment
  /-- a backslash that joins two lines -/
  | continuation
  /-- a word or mark of the grammar -/
  | token
  | error
  | missing
  deriving DecidableEq, Repr, Inhabited

namespace Kind

/-- Everything but the words and marks of the grammar is named. -/
def isNamed : Kind → Bool
  | token => false
  | _ => true

/-- Errors, and the statements that only an older language has. -/
def isInvalid : Kind → Bool
  | error | missing | printStatement | execStatement => true
  | _ => false

end Kind

/-- The part that a node plays in its parent. -/
inductive Role where
  | name
  | superclasses
  | body
  | definition
  | function
  | attribute
  | moduleName
  | newName
  deriving DecidableEq, Repr

/-- What is known of one node. -/
structure Label where
  kind : Kind
  role : Option Role := none
  start : Position := {}
  stop : Position := {}
  /-- the text of a name; empty elsewhere -/
  text : String := ""
  deriving DecidableEq, Repr, Inhabited

/-- A labelled tree. -/
inductive Tree where
  | node (label : Label) (children : List Tree)
  deriving Repr, Inhabited

namespace Tree

/-! ### Labels and children -/

def label : Tree → Label
  | node label _ => label

def children : Tree → List Tree
  | node _ children => children

def kind (tree : Tree) : Kind := tree.label.kind

def role (tree : Tree) : Option Role := tree.label.role

def start (tree : Tree) : Position := tree.label.start

def stop (tree : Tree) : Position := tree.label.stop

def text (tree : Tree) : String := tree.label.text

/-- The tree as a part of its parent. -/
def withRole (role : Role) : Tree → Tree
  | node label children => node { label with role := some role } children

/-- The children that are more than a word or a mark. -/
def namedChildren (tree : Tree) : List Tree := tree.children.filter fun child => child.kind.isNamed

/-- The children that play a part. -/
def parts (tree : Tree) (role : Role) : List Tree :=
  tree.children.filter fun child => child.role == some role

/-- The first child that plays a part. -/
def part? (tree : Tree) (role : Role) : Option Tree :=
  tree.children.find? fun child => child.role == some role

/-! ### The last token -/

mutual

/-- The leaf reached by going to the last child that is not a comment, again and again. -/
def lastToken : Tree → Tree
  | node label children => (lastTokenOf children).getD (node label children)

/-- The last token of the last tree that is not a comment. -/
def lastTokenOf : List Tree → Option Tree
  | [] => none
  | tree :: trees =>
    match lastTokenOf trees with
    | some token => some token
    | none => if tree.kind = .comment then none else some tree.lastToken

end

/-! ### The order of the source -/

mutual

/-- The number of nodes. -/
def size : Tree → Nat
  | node _ children => sizeAll children + 1

/-- The number of nodes of several trees. -/
def sizeAll : List Tree → Nat
  | [] => 0
  | tree :: trees => tree.size + sizeAll trees

end

/-- Takes nodes from a list of waiting trees, puts the children that `below` chooses in the place
of each, and holds the nodes taken in reverse. -/
def walk (below : Tree → List Tree) : Nat → List Tree → List Tree → List Tree
  | steps + 1, found, tree :: waiting => walk below steps (tree :: found) (below tree ++ waiting)
  | _, found, _ => found.reverse

/-- The named nodes of a tree, each before those below it. -/
def namedNodes (tree : Tree) : List Tree := walk namedChildren tree.size [] [tree]

/-- All nodes of a tree, each before those below it. -/
def nodes (tree : Tree) : List Tree := walk children tree.size [] [tree]

/-- The first node that makes a source invalid. -/
def firstInvalid? (tree : Tree) : Option Tree := tree.nodes.find? fun node => node.kind.isInvalid

end Tree

end DeclGraph.Syntax
