/-
**Extraction by recursion.**

The extraction takes nodes from lists of waiting ones: for the classes of a file, for the calls of
each declaration, and for what makes a source invalid. Here the same is told by recursion over the
tree, without any such list, and both agree on every tree. What they tell comes in the order of the
source.

* `Tree.gather`: what is told of each node of a tree, by recursion;
* `Tree.firstInvalidIn?`: the first invalid node, by recursion;
* `Recursive.declarations`, `Recursive.graphOfTree`: the declarations of a tree and their graph;
* **`Recursive.declarations_eq`**, **`Recursive.graphOfTree_eq`**: they are those of the lists;
* `Declarations.InSourceOrder`: types and members class by class, functions and imports statement by
  statement;
* **`Extraction.graph_in_source_order`**: the extraction agrees with the recursion, and the order of
  all that it tells.
-/

import DeclGraph.Extraction.Python
import DeclGraph.Proofs.Syntax.SourceOrder
import Mathlib.Data.List.Basic

namespace DeclGraph

open Syntax (Tree)

namespace Syntax.Tree

/-! ### Telling of each node -/

section Gather

variable {α : Type}

mutual

/-- What is told of a tree and then of the trees in it; words and marks are left aside. -/
def gather (tell : Tree → List α) : Tree → List α
  | node label children => tell (node label children) ++ gatherAll tell children

/-- What is told of several trees; words and marks are left aside. -/
def gatherAll (tell : Tree → List α) : List Tree → List α
  | [] => []
  | tree :: trees =>
    if tree.kind.isNamed then tree.gather tell ++ gatherAll tell trees else gatherAll tell trees

end

mutual

theorem gather_eq_flatMap_preorder (tell : Tree → List α) :
    ∀ tree : Tree, tree.gather tell = (tree.preorder fun node => node.kind.isNamed).flatMap tell
  | node label children => by
    rw [gather, preorder, List.flatMap_cons, gatherAll_eq_flatMap_preorderAll]

theorem gatherAll_eq_flatMap_preorderAll (tell : Tree → List α) :
    ∀ trees : List Tree,
      gatherAll tell trees = (preorderAll (fun node => node.kind.isNamed) trees).flatMap tell
  | [] => rfl
  | tree :: trees => by
    rw [gatherAll, preorderAll]
    split
    · rw [List.flatMap_append, gather_eq_flatMap_preorder tell tree,
        gatherAll_eq_flatMap_preorderAll]
    · exact gatherAll_eq_flatMap_preorderAll tell trees

end

/-- **The recursion tells of the named nodes, one by one.** -/
theorem gather_eq (tell : Tree → List α) (tree : Tree) :
    tree.gather tell = tree.namedNodes.flatMap tell := by
  rw [gather_eq_flatMap_preorder, namedNodes_eq_preorder]

end Gather

/-- The names called in a tree, by recursion. -/
def namesCalledIn (tree : Tree) : List String := tree.gather fun node => node.calledName?.toList

theorem namesCalledIn_eq (tree : Tree) : tree.namesCalledIn = tree.callNames := by
  rw [namesCalledIn, gather_eq, callNames, List.filterMap_eq_flatMap_toList]

/-! ### The first invalid node -/

mutual

/-- The first invalid node: the tree itself, or the first one in it. -/
def firstInvalidIn? : Tree → Option Tree
  | node label children =>
    if label.kind.isInvalid then some (node label children) else firstInvalidOf? children

/-- The first invalid node of several trees. -/
def firstInvalidOf? : List Tree → Option Tree
  | [] => none
  | tree :: trees => tree.firstInvalidIn?.or (firstInvalidOf? trees)

end

mutual

theorem firstInvalidIn?_eq_find? : ∀ tree : Tree,
    tree.firstInvalidIn? = (tree.preorder fun _ => true).find? fun node => node.kind.isInvalid
  | node label children => by
    rw [firstInvalidIn?, preorder, List.find?_cons, firstInvalidOf?_eq_find?]
    show (if label.kind.isInvalid = true then _ else _) = match label.kind.isInvalid with
      | true => _
      | false => _
    cases label.kind.isInvalid <;> rfl

theorem firstInvalidOf?_eq_find? : ∀ trees : List Tree,
    firstInvalidOf? trees =
      (preorderAll (fun _ => true) trees).find? fun node => node.kind.isInvalid
  | [] => rfl
  | tree :: trees => by
    rw [firstInvalidOf?, preorderAll, if_pos rfl, List.find?_append, firstInvalidIn?_eq_find? tree,
      firstInvalidOf?_eq_find? trees]

end

/-- **The recursion finds the same first invalid node.** -/
theorem firstInvalidIn?_eq (tree : Tree) : tree.firstInvalidIn? = tree.firstInvalid? := by
  rw [firstInvalidIn?_eq_find?, firstInvalid?, nodes_eq_preorder]

end Syntax.Tree

/-! ### Declarations by recursion -/

namespace Recursive

variable (lines : List String)

/-- The member that a statement of a class body declares. -/
def member? (owner : String) (statement : Tree) : Option MemberDeclaration := do
  let definition ← statement.functionDefinition?
  let name ← definition.part? .name
  return ⟨owner, name.text, definition.span lines, statement.namesCalledIn⟩

/-- The function that a statement of a module declares. -/
def function? (statement : Tree) : Option FunctionDeclaration := do
  let definition ← statement.functionDefinition?
  let name ← definition.part? .name
  return ⟨name.text, definition.span lines, statement.namesCalledIn⟩

/-- The type that a node declares, if it is a class. -/
def typeAt (tree : Tree) : List TypeDeclaration :=
  if tree.kind = .classDefinition then (TypeDeclaration.ofClass? lines tree).toList else []

/-- The members that a node declares, if it is a class. -/
def membersAt (tree : Tree) : List MemberDeclaration :=
  if tree.kind = .classDefinition then
    match tree.part? .name, tree.part? .body with
    | some name, some body => body.namedChildren.filterMap (member? lines name.text)
    | _, _ => []
  else []

/-- What a tree declares. -/
def declarations (tree : Tree) : Declarations where
  types := tree.gather (typeAt lines)
  members := tree.gather (membersAt lines)
  functions := tree.namedChildren.filterMap (function? lines)
  imports := tree.namedChildren.flatMap ImportDeclaration.ofStatement

theorem member?_eq : member? lines = MemberDeclaration.ofStatement? lines := by
  funext owner statement
  unfold member? MemberDeclaration.ofStatement?
  rw [Tree.namesCalledIn_eq]

theorem function?_eq : function? lines = FunctionDeclaration.ofStatement? lines := by
  funext statement
  unfold function? FunctionDeclaration.ofStatement?
  rw [Tree.namesCalledIn_eq]

/-- Telling of classes only is telling of the classes among the nodes. -/
theorem flatMap_ite_eq {α : Type} (tell : Tree → List α) (nodes : List Tree) :
    (nodes.flatMap fun node => if node.kind = .classDefinition then tell node else []) =
      (nodes.filter fun node => node.kind == .classDefinition).flatMap tell := by
  induction nodes with
  | nil => rfl
  | cons node nodes ih =>
    rw [List.flatMap_cons, List.filter_cons, ih]
    by_cases isClass : node.kind = .classDefinition <;> simp [isClass]

theorem gather_typeAt (tree : Tree) :
    tree.gather (typeAt lines) = (Declarations.ofTree lines tree).types := by
  rw [Tree.gather_eq]
  unfold typeAt
  rw [flatMap_ite_eq, ← List.filterMap_eq_flatMap_toList]
  rfl

theorem gather_membersAt (tree : Tree) :
    tree.gather (membersAt lines) = (Declarations.ofTree lines tree).members := by
  have ofClass : membersAt lines = fun node =>
      if node.kind = .classDefinition then TypeDeclaration.membersOf lines node else [] := by
    unfold membersAt
    rw [member?_eq]
    rfl
  rw [Tree.gather_eq, ofClass, flatMap_ite_eq]
  rfl

/-- **The recursion collects the same declarations.** -/
theorem declarations_eq (tree : Tree) : declarations lines tree = Declarations.ofTree lines tree := by
  unfold declarations
  rw [gather_typeAt, gather_membersAt, function?_eq]
  rfl

/-- The graph of a source with a given tree. -/
def graphOfTree (path : Path) (source : String) (tree : Tree) : Except Error Graph :=
  match tree.firstInvalidIn? with
  | some node => .error (.parse path (Extraction.invalidSyntax node.start))
  | none => .ok (declarations (Text.lines source) tree).graph

/-- **The recursion gives the same graph, or the same failure.** -/
theorem graphOfTree_eq (path : Path) (source : String) (tree : Tree) :
    graphOfTree path source tree = Extraction.graphOfTree path source tree := by
  rw [graphOfTree, Extraction.graphOfTree, Tree.firstInvalidIn?_eq]
  cases tree.firstInvalid? with
  | some found => rfl
  | none =>
    exact congrArg (fun found : Declarations => Except.ok found.graph) (declarations_eq _ _)

end Recursive

/-! ### The order of what is told -/

/-- **Declarations in the order of the source.** The classes are those among the named nodes, each
once and in the order of their ways; functions and imports are those of the statements right in the
tree. -/
structure Declarations.InSourceOrder (lines : List String) (tree : Tree)
    (declarations : Declarations) : Prop where
  classes : ∃ places classes, Tree.InOrder Tree.namedChildren tree places ∧
    classes = (places.map Prod.snd).filter (fun node => node.kind == .classDefinition) ∧
    declarations.types = classes.filterMap (TypeDeclaration.ofClass? lines) ∧
    declarations.members = classes.flatMap (TypeDeclaration.membersOf lines)
  functions : declarations.functions =
    tree.namedChildren.filterMap (FunctionDeclaration.ofStatement? lines)
  imports : declarations.imports = tree.namedChildren.flatMap ImportDeclaration.ofStatement

theorem Declarations.inSourceOrder_ofTree (lines : List String) (tree : Tree) :
    (ofTree lines tree).InSourceOrder lines tree where
  classes := by
    obtain ⟨places, inOrder, nodes⟩ := Tree.exists_inOrder_namedNodes tree
    refine ⟨places, _, inOrder, rfl, ?_, ?_⟩ <;> rw [← nodes] <;> rfl
  functions := rfl
  imports := rfl

/-- Names in the order in which a tree calls them. -/
def Syntax.Tree.CallsInOrder (tree : Tree) (names : List String) : Prop :=
  ∃ places, Tree.InOrder Tree.namedChildren tree places ∧
    names = (places.map Prod.snd).filterMap Tree.calledName?

theorem Syntax.Tree.callsInOrder_callNames (tree : Tree) : tree.CallsInOrder tree.callNames := by
  obtain ⟨places, inOrder, nodes⟩ := exists_inOrder_namedNodes tree
  exact ⟨places, inOrder, by rw [callNames, nodes]⟩

namespace Extraction

variable {tree : Tree}

/-- A tree is refused for its first invalid node. -/
theorem graphOfTree_eq_error_iff {path : Path} {source : String} {error : Error} :
    graphOfTree path source tree = .error error ↔
      ∃ node, tree.IsFirst (fun node => node.kind.isInvalid) node ∧
        error = .parse path (invalidSyntax node.start) := by
  have first : ∀ node, tree.firstInvalid? = some node ↔
      tree.IsFirst (fun node => node.kind.isInvalid) node := fun _ => Tree.find?_nodes_eq_some_iff
  simp only [← first]
  unfold graphOfTree
  cases tree.firstInvalid? <;> simp [eq_comm]

/-- A tree without invalid nodes is accepted, and no other one. -/
theorem graphOfTree_eq_ok_iff {path : Path} {source : String} {graph : Graph} :
    graphOfTree path source tree = .ok graph ↔
      (∀ node, Tree.Inside node tree → node.kind.isInvalid = false) ∧
        graph = (Declarations.ofTree (Text.lines source) tree).graph := by
  have accepted : tree.firstInvalid? = none ↔
      ∀ node, Tree.Inside node tree → node.kind.isInvalid = false := by
    simp [Tree.firstInvalid?, List.find?_eq_none, Tree.mem_nodes_iff]
  rw [← accepted]
  unfold graphOfTree
  cases tree.firstInvalid? <;> simp [eq_comm]

/-- **A graph comes in the order of its source.** The extraction with lists of waiting nodes is the
one by recursion. It fails exactly if some node is invalid, and tells the place of the first one.
Types and members come class by class, the calls of a statement in the order in which it makes them,
functions and imports statement by statement. The nodes are the types, the members, the functions and
the imports that are used; the links are those to the members, then those to the supertypes of each
type, then those of each call of each caller. -/
theorem graph_in_source_order (path : Path) (source : String) (tree : Tree) :
    let declarations := Declarations.ofTree (Text.lines source) tree
    graphOfTree path source tree = Recursive.graphOfTree path source tree ∧
      (∀ error, graphOfTree path source tree = .error error ↔
        ∃ node, tree.IsFirst (fun node => node.kind.isInvalid) node ∧
          error = .parse path (invalidSyntax node.start)) ∧
      (∀ graph, graphOfTree path source tree = .ok graph ↔
        (∀ node, Tree.Inside node tree → node.kind.isInvalid = false) ∧
          graph = declarations.graph) ∧
      declarations.InSourceOrder (Text.lines source) tree ∧
      (∀ statement : Tree, statement.CallsInOrder statement.callNames) ∧
      declarations.graph.nodes =
        declarations.types.map TypeDeclaration.node ++
          declarations.members.map MemberDeclaration.node ++
          declarations.functions.map FunctionDeclaration.node ++
          (declarations.imports.filter fun imported =>
            declarations.resolution.isUsed imported.binding).map ImportDeclaration.node ∧
      declarations.graph.links =
        declarations.members.map (fun member => ⟨member.owner, member.key, .containment⟩) ++
        (declarations.types.flatMap fun type =>
          type.bases.map fun base => ⟨type.name, base, .inheritance⟩) ++
        ((declarations.members.map fun member => (member.key, member.calls)) ++
            declarations.functions.map fun function => (function.name, function.calls)).flatMap
          fun caller => caller.2.flatMap fun call =>
            (declarations.table.resolve call).map fun target =>
              ⟨caller.1, target.key, target.kind⟩ := by
  intro declarations
  refine ⟨(Recursive.graphOfTree_eq path source tree).symm, fun _ => graphOfTree_eq_error_iff,
    fun _ => graphOfTree_eq_ok_iff, Declarations.inSourceOrder_ofTree _ tree,
    Tree.callsInOrder_callNames, rfl, ?_⟩
  show _ ++ _ ++ (declarations.callers.flatMap (Caller.links declarations.table.resolve)) = _
  congr 1
  rw [List.flatMap_append, List.flatMap_map, List.flatMap_map, Declarations.callers,
    List.flatMap_append, List.flatMap_map, List.flatMap_map]
  rfl

end Extraction

end DeclGraph
