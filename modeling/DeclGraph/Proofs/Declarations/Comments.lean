/-
**Comments do not count.**

What is collected from a tree is read off its parts, its named nodes and its last tokens. Each of
these readings passes comments over, wherever they stand: between statements, last in a block, among
the bases of a class or the arguments of a call, or as all that a node holds. So a tree and the same
tree without some of its comments declare the same over the lines of one source.

* `rel_functionDefinition?`, `callNames_eq`, `span_eq`: what is read off one statement;
* **`Declarations.ofTree_eq`**: what is declared;
* **`Extraction.graph_without_comments`**: the graph, or the place of the first invalid node.
-/

import DeclGraph.Extraction.Python
import DeclGraph.Proofs.Syntax.Comments

namespace DeclGraph

open Syntax (Kind Role Tree)
open Syntax.Tree (IsComment Uncommented)

/-! ### Parts of statements -/

namespace Syntax.Tree

variable {tree rest : Tree}

theorem IsComment.functionDefinition? (isComment : tree.IsComment) :
    tree.functionDefinition? = none := by
  unfold Tree.functionDefinition?
  rw [isComment.kind]

theorem IsComment.calledName? (isComment : tree.IsComment) : tree.calledName? = none := by
  unfold Tree.calledName?
  rw [isComment.kind]
  rfl

theorem IsComment.part? (isComment : tree.IsComment) (role : Role) : tree.part? role = none := by
  unfold Tree.part?
  rw [isComment.leaf]
  rfl

namespace Uncommented

variable (uncommented : Uncommented tree rest)

include uncommented

/-- The name that a part gives. -/
theorem map_text_part? (role : Role) :
    (tree.part? role).map Tree.text = (rest.part? role).map Tree.text :=
  map_eq_of_rel (fun _ _ both => both.text) (uncommented.rel_part? role)

/-- The definition in a statement. -/
theorem rel_functionDefinition? :
    Option.Rel Uncommented tree.functionDefinition? rest.functionDefinition? := by
  unfold functionDefinition?
  rw [← uncommented.kind]
  split
  · exact .some uncommented
  · exact rel_filter (fun label => label.kind == .functionDefinition)
      (uncommented.rel_part? .definition)
  · exact .none

theorem endRow_eq : tree.endRow = rest.endRow := by
  have stop : tree.lastToken.stop = rest.lastToken.stop :=
    congrArg Label.stop uncommented.lastToken_label
  unfold endRow
  rw [stop, uncommented.start]

/-- **The lines of a declaration**, which end with its last token. -/
theorem span_eq (lines : List String) : tree.span lines = rest.span lines := by
  unfold span
  rw [uncommented.endRow_eq, uncommented.start]

theorem calledName?_eq : tree.calledName? = rest.calledName? := by
  unfold calledName?
  rw [uncommented.kind]
  split
  · refine bind_eq_of_rel (fun callee other both => ?_) (uncommented.rel_part? .function)
    rw [both.kind, both.text, both.map_text_part? .attribute]
  · rfl

/-- **The names called in a statement.** -/
theorem callNames_eq : tree.callNames = rest.callNames :=
  uncommented.namedNodes.filterMap_eq (fun _ _ both => both.calledName?_eq)
    fun _ isComment => isComment.calledName?

theorem importedName_eq : tree.importedName = rest.importedName := by
  unfold importedName
  rw [uncommented.kind, uncommented.text, uncommented.map_text_part? .name,
    uncommented.map_text_part? .newName]

end Uncommented

end Syntax.Tree

/-! ### Declarations -/

variable {tree rest statement other : Tree} {lines : List String}

/-- What is read off a function definition in a statement: its name, its lines and the calls of the
whole statement. -/
theorem definition_eq {α : Type} (read : String → String → List String → α)
    (both : Uncommented statement other) :
    (statement.functionDefinition?.bind fun definition => (definition.part? .name).bind fun name =>
      some (read name.text (definition.span lines) statement.callNames)) =
    other.functionDefinition?.bind fun definition => (definition.part? .name).bind fun name =>
      some (read name.text (definition.span lines) other.callNames) := by
  rw [both.callNames_eq]
  refine Tree.bind_eq_of_rel ?_ both.rel_functionDefinition?
  intro definition rest definitions
  rw [definitions.span_eq]
  refine Tree.bind_eq_of_rel ?_ (definitions.rel_part? .name)
  intro name otherName names
  rw [names.text]

theorem MemberDeclaration.ofStatement?_eq {owner : String} (both : Uncommented statement other) :
    ofStatement? lines owner statement = ofStatement? lines owner other :=
  definition_eq (MemberDeclaration.mk owner) both

theorem FunctionDeclaration.ofStatement?_eq (both : Uncommented statement other) :
    ofStatement? lines statement = ofStatement? lines other :=
  definition_eq FunctionDeclaration.mk both

namespace TypeDeclaration

/-- The bases of a class, with comments between them or without. -/
theorem basesOf_eq (both : Uncommented tree rest) : basesOf tree = basesOf rest := by
  have parts := both.rel_part? .superclasses
  unfold basesOf
  generalize tree.part? .superclasses = bases, rest.part? .superclasses = others at parts ⊢
  cases parts with
  | none => rfl
  | some bases =>
    refine bases.namedChildren.map_filter_eq (fun label => label.kind == .identifier)
      (fun _ _ names => names.text) ?_
    intro comment isComment
    show (comment.kind == .identifier) = false
    rw [isComment.kind]
    rfl

theorem ofClass?_eq (both : Uncommented tree rest) : ofClass? lines tree = ofClass? lines rest := by
  unfold ofClass?
  rw [both.span_eq, basesOf_eq both]
  exact Tree.bind_eq_of_rel (fun _ _ names => by rw [names.text]) (both.rel_part? .name)

/-- The members of a class, with comments between them or without. -/
theorem membersOf_eq (both : Uncommented tree rest) :
    membersOf lines tree = membersOf lines rest := by
  have names := both.rel_part? .name
  have bodies := both.rel_part? .body
  unfold membersOf
  generalize tree.part? .name = name, rest.part? .name = otherName at names ⊢
  generalize tree.part? .body = body, rest.part? .body = otherBody at bodies ⊢
  cases names with
  | none => rfl
  | some names =>
    cases bodies with
    | none => rfl
    | some bodies =>
      show List.filterMap _ _ = List.filterMap _ _
      rw [names.text]
      refine bodies.namedChildren.filterMap_eq
        (fun _ _ => MemberDeclaration.ofStatement?_eq) ?_
      intro comment isComment
      unfold MemberDeclaration.ofStatement?
      rw [isComment.functionDefinition?]
      rfl

end TypeDeclaration

namespace ImportDeclaration

theorem ofModule_eq (both : Uncommented tree rest) : ofModule tree = ofModule rest := by
  unfold ofModule
  rw [both.importedName_eq]

theorem ofName_eq {module : String} (both : Uncommented tree rest) :
    ofName module tree = ofName module rest := by
  unfold ofName
  rw [both.importedName_eq]

/-- The imports of a statement, with comments between them or without. -/
theorem ofStatement_eq (both : Uncommented statement other) :
    ofStatement statement = ofStatement other := by
  have modules := both.rel_part? .moduleName
  unfold ofStatement
  rw [both.kind]
  split
  · exact both.map_parts_eq (fun _ _ names => ofModule_eq names) .name
  · generalize statement.part? .moduleName = module, other.part? .moduleName = rest at modules ⊢
    cases modules with
    | none => rfl
    | some modules =>
      show List.map _ _ = List.map _ _
      rw [modules.text]
      exact both.map_parts_eq (fun _ _ names => ofName_eq names) .name
  · rfl

end ImportDeclaration

namespace Declarations

theorem classesOf_uncommented (both : Uncommented tree rest) :
    Tree.UncommentedAll (classesOf tree) (classesOf rest) :=
  both.namedNodes.filter fun label => label.kind == .classDefinition

/-- **A tree and the same tree without some of its comments declare the same.** -/
theorem ofTree_eq (lines : List String) (both : Uncommented tree rest) :
    ofTree lines tree = ofTree lines rest := by
  have types : (classesOf tree).filterMap (TypeDeclaration.ofClass? lines) =
      (classesOf rest).filterMap (TypeDeclaration.ofClass? lines) :=
    (classesOf_uncommented both).filterMap_eq (fun _ _ => TypeDeclaration.ofClass?_eq)
      fun comment isComment => by simp [TypeDeclaration.ofClass?, isComment.part?]
  have members : (classesOf tree).flatMap (TypeDeclaration.membersOf lines) =
      (classesOf rest).flatMap (TypeDeclaration.membersOf lines) :=
    (classesOf_uncommented both).flatMap_eq (fun _ _ => TypeDeclaration.membersOf_eq)
      fun comment isComment => by simp [TypeDeclaration.membersOf, isComment.part?]
  have functions : tree.namedChildren.filterMap (FunctionDeclaration.ofStatement? lines) =
      rest.namedChildren.filterMap (FunctionDeclaration.ofStatement? lines) :=
    both.namedChildren.filterMap_eq (fun _ _ => FunctionDeclaration.ofStatement?_eq)
      fun comment isComment => by
        simp [FunctionDeclaration.ofStatement?, isComment.functionDefinition?]
  have imports : tree.namedChildren.flatMap ImportDeclaration.ofStatement =
      rest.namedChildren.flatMap ImportDeclaration.ofStatement :=
    both.namedChildren.flatMap_eq (fun _ _ => ImportDeclaration.ofStatement_eq)
      fun comment isComment => by simp [ImportDeclaration.ofStatement, isComment.kind]
  unfold ofTree
  rw [types, members, functions, imports]

end Declarations

/-! ### Graphs -/

namespace Syntax.Tree

/-- A comment is no reason to call a source invalid. -/
theorem Uncommented.rel_firstInvalid? (both : Uncommented tree rest) :
    Option.Rel Uncommented tree.firstInvalid? rest.firstInvalid? := by
  refine both.nodes.rel_find? (fun label => label.kind.isInvalid) ?_
  intro comment isComment
  show comment.kind.isInvalid = false
  rw [isComment.kind]
  rfl

end Syntax.Tree

namespace Extraction

theorem graphOfTree_eq (path : Path) (source : String) (both : Uncommented tree rest) :
    graphOfTree path source rest = graphOfTree path source tree := by
  have invalid := both.rel_firstInvalid?
  unfold graphOfTree
  rw [Declarations.ofTree_eq _ both]
  generalize tree.firstInvalid? = first, rest.firstInvalid? = second at invalid ⊢
  cases invalid with
  | none => rfl
  | some nodes =>
    show Except.error _ = Except.error _
    rw [nodes.start]

theorem graphOfTree_of_valid (path : Path) (source : String)
    (valid : ∀ node ∈ tree.nodes, node.kind.isInvalid = false) :
    graphOfTree path source tree =
      .ok (Declarations.ofTree (Text.lines source) tree).graph := by
  have first : tree.firstInvalid? = none := by
    refine List.find?_eq_none.mpr ?_
    intro node isNode
    rw [valid node isNode]
    exact Bool.false_ne_true
  unfold graphOfTree
  rw [first]

/-- **Comments never influence the result.** A tree and the same tree without some of its comments,
whichever they are, give the same over a source. If the tree holds no invalid node this is a graph,
with the same nodes, their texts included, and the same links, each in the same order; otherwise it
is the place of the same first invalid node. -/
theorem graph_without_comments (path : Path) (source : String) (both : Uncommented tree rest) :
    graphOfTree path source rest = graphOfTree path source tree ∧
      ((∀ node ∈ tree.nodes, node.kind.isInvalid = false) →
        ∃ graph, graphOfTree path source tree = .ok graph ∧
          graphOfTree path source rest = .ok graph) := by
  have same := graphOfTree_eq path source both
  refine ⟨same, ?_⟩
  intro valid
  have accepted := graphOfTree_of_valid path source valid
  exact ⟨_, accepted, same.trans accepted⟩

/-- A source with comments before, behind and below its declarations. -/
def commented : String := "class A:\n # b\n def f():g() # e\n # h\n# i\ndef g():pass # j\n# k"

/-- It keeps its graph without its comments. -/
theorem commented_graph : ∃ graph, python ⟨"a.py"⟩ commented = .ok graph ∧
    graphOfTree ⟨"a.py"⟩ commented (Tree.ofSource commented).withoutComments = .ok graph ∧
    (Tree.ofSource commented).withoutComments.size + 6 = (Tree.ofSource commented).size := by
  have both := Tree.uncommented_withoutComments (.ofSource commented)
  have valid : (Tree.ofSource commented).nodes.all (fun node => !node.kind.isInvalid) = true := by
    decide +kernel
  obtain ⟨graph, whole, without⟩ := (graph_without_comments ⟨"a.py"⟩ commented both).2
    (by simpa using valid)
  exact ⟨graph, whole, without, by decide +kernel⟩

end Extraction

end DeclGraph
