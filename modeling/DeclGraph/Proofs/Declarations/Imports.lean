/-
**Which imports are retained.**

Calls are collected statement by statement: those of the members of classes and those of the
functions of the module, decorators and nested definitions included. An import is retained for a
call among these, whatever the call stands for. Calls elsewhere, right in the module, in the body of
a class or in its decorators, belong to no declaration; they retain nothing.

* `Binds`: a statement of the module imports a name;
* `Called`, `CalledInDefinition`: a name is called anywhere, or in a statement that is collected;
* `declares_importing_iff`: what the filter of imports keeps;
* **`Extraction.imports_retained`**: the imports of an accepted source that its graph shows;
* **`Extraction.module_call_retains_nothing`**: an import that only the module itself calls.
-/

import DeclGraph.Extraction.Python
import DeclGraph.Proofs.Declarations.Calls
import DeclGraph.Proofs.Declarations.Closed
import Mathlib.Logic.Basic

namespace DeclGraph

open Syntax (Tree)
open Syntax.Tree (Inside Within)

/-! ### Statements of imports -/

namespace ImportDeclaration

variable {statement : Tree} {name : String}

/-- A module is bound to its new name, or to its own. -/
theorem binding_ofModule (tree : Tree) :
    (ofModule tree).binding = tree.importedName.2.getD tree.importedName.1 := by
  unfold ofModule
  rcases tree.importedName with ⟨name, _ | newName⟩ <;> rfl

/-- A statement binds a name: it imports it from a module, or imports a whole module under it. -/
def BoundBy (statement : Tree) (name : String) : Prop :=
  (statement.kind = .importStatement ∨
    statement.kind = .importFromStatement ∧ (statement.part? .moduleName).isSome = true) ∧
  ∃ imported ∈ statement.parts .name, imported.importedName.2.getD imported.importedName.1 = name

theorem exists_ofStatement_iff :
    (∃ imported ∈ ofStatement statement, imported.binding = name) ↔ BoundBy statement name := by
  unfold ofStatement BoundBy
  cases kind : statement.kind with
  | importStatement => simp [binding_ofModule]
  | importFromStatement =>
    cases statement.part? .moduleName with
    | none => simp
    | some module => simp [binding_ofName]
  | _ => simp

end ImportDeclaration

namespace Declarations

variable {declarations : Declarations} {lines : List String} {tree statement : Tree}
  {key name : String}

/-- A statement right in a module binds a name by an import. -/
def Binds (tree : Tree) (name : String) : Prop :=
  ∃ statement ∈ tree.namedChildren, ImportDeclaration.BoundBy statement name

/-- The imports of a tree bind the names that statements right in the module bind. -/
theorem exists_import_ofTree_iff :
    (∃ imported ∈ (ofTree lines tree).imports, imported.binding = name) ↔ Binds tree name := by
  unfold Binds
  simp only [← ImportDeclaration.exists_ofStatement_iff, ofTree, List.mem_flatMap]
  constructor
  · rintro ⟨imported, ⟨statement, inModule, bound⟩, named⟩
    exact ⟨statement, inModule, imported, bound, named⟩
  · rintro ⟨statement, inModule, imported, bound, named⟩
    exact ⟨imported, ⟨statement, inModule, bound⟩, named⟩

/-! ### Calls -/

/-- A name is called anywhere in a tree. -/
def Called (tree : Tree) (name : String) : Prop := ∃ node, Inside node tree ∧ node.CallsName name

/-- A name is called anywhere in a statement that is collected as a member or a function. -/
def CalledInDefinition (tree : Tree) (name : String) : Prop := ∃ key, CallsIn tree key name

/-- What is collected stands in the tree. -/
theorem inside_of_collectedAs (collected : CollectedAs tree statement key) :
    Inside statement tree := by
  rcases collected with ⟨_, _, _, ⟨type, body, ⟨within, _⟩, isBody, inBody, _⟩, _⟩ |
    ⟨_, inModule, _⟩
  · exact ((Inside.namedChild inBody).trans (.part? isBody)).trans within.inside
  · exact .namedChild inModule

/-- A call in a definition is a call. -/
theorem CalledInDefinition.called (called : CalledInDefinition tree name) : Called tree name := by
  obtain ⟨key, statement, node, collected, within, calls⟩ := called
  exact ⟨node, within.inside.trans (inside_of_collectedAs collected), calls⟩

/-! ### The filter -/

theorem importing_node_mem_iff {imported : ImportDeclaration} :
    imported.node ∈ declarations.graph.nodes ↔
      ∃ retained ∈ declarations.usedImports, imported.node = retained.node := by
  rw [mem_graph_nodes_iff]
  constructor
  · rintro (⟨type, _, same⟩ | ⟨member, _, same⟩ | ⟨function, _, same⟩ | retained)
    · cases congrArg Node.kind same
    · cases congrArg Node.kind same
    · cases congrArg Node.kind same
    · exact retained
  · exact fun retained => Or.inr (Or.inr (Or.inr retained))

/-- **An import is shown exactly if its name is called by a member or a function.** -/
theorem node_mem_iff_calls {imported : ImportDeclaration}
    (listed : imported ∈ declarations.imports) :
    imported.node ∈ declarations.graph.nodes ↔ ∃ key, declarations.Calls key imported.binding := by
  rw [importing_node_mem_iff, ← isUsed_resolution_iff]
  constructor
  · rintro ⟨retained, used, same⟩
    have named : imported.binding = retained.binding := congrArg Node.key same
    rw [named]
    exact (List.mem_filter.mp used).2
  · exact fun used => ⟨imported, List.mem_filter.mpr ⟨listed, used⟩, rfl⟩

theorem declares_importing_iff : declarations.graph.Declares .importing name ↔
    (∃ imported ∈ declarations.imports, imported.binding = name) ∧
      ∃ key, declarations.Calls key name := by
  constructor
  · rintro ⟨node, isNode, kind, rfl⟩
    rcases mem_graph_nodes_iff.mp isNode with
      ⟨_, _, rfl⟩ | ⟨_, _, rfl⟩ | ⟨_, _, rfl⟩ | ⟨imported, retained, rfl⟩
    · cases kind
    · cases kind
    · cases kind
    · obtain ⟨listed, used⟩ := List.mem_filter.mp retained
      exact ⟨⟨imported, listed, rfl⟩, isUsed_resolution_iff.mp used⟩
  · rintro ⟨⟨imported, listed, rfl⟩, called⟩
    exact ⟨imported.node, (node_mem_iff_calls listed).mpr called, rfl, rfl⟩

end Declarations

namespace Extraction

open Declarations (Binds Called CalledInDefinition)

variable {path : Path} {source : String} {graph : Graph}

/-- **The imports that an accepted source shows.** A name that a statement of the module imports is
shown exactly if it is called in a definition that is collected: a function of the module, or one
right in the body of a class. So every import of the name is shown, or none is. Whatever is shown is
imported by a statement of the module and called in the file. -/
theorem imports_retained (accepted : python path source = .ok graph) :
    (∀ name, Binds (.ofSource source) name →
      (graph.Declares .importing name ↔ CalledInDefinition (.ofSource source) name)) ∧
    (∀ imported ∈ (Declarations.ofTree (Text.lines source) (.ofSource source)).imports,
      imported.node ∈ graph.nodes ↔ CalledInDefinition (.ofSource source) imported.binding) ∧
    ∀ name, graph.Declares .importing name →
      Binds (.ofSource source) name ∧ Called (.ofSource source) name := by
  obtain rfl := graph_of_python accepted
  have shown : ∀ name,
      (Declarations.ofTree (Text.lines source) (.ofSource source)).graph.Declares .importing name ↔
        Binds (.ofSource source) name ∧ CalledInDefinition (.ofSource source) name := by
    intro name
    rw [Declarations.declares_importing_iff, Declarations.exists_import_ofTree_iff]
    simp only [Declarations.calls_ofTree_iff, CalledInDefinition]
  refine ⟨fun name binds => ?_, fun imported listed => ?_, fun name declared => ?_⟩
  · rw [shown, and_iff_right binds]
  · rw [Declarations.node_mem_iff_calls listed]
    simp only [Declarations.calls_ofTree_iff, CalledInDefinition]
  · obtain ⟨binds, called⟩ := (shown name).mp declared
    exact ⟨binds, called.called⟩

/-! ### Examples -/

/-- The imports of a source bind the names that are collected. -/
theorem binds_of_collected {name : String}
    (bound : name ∈ (Declarations.ofTree (Text.lines source) (.ofSource source)).imports.map
      ImportDeclaration.binding) : Binds (.ofSource source) name := by
  obtain ⟨imported, listed, rfl⟩ := List.mem_map.mp bound
  exact Declarations.exists_import_ofTree_iff.mp ⟨imported, listed, rfl⟩

/-- A member that calls what a decorator of its class and the module call as well. -/
def calledByMember : String := "from m import f\n@f()\nclass A:\n def g():f()\nf()"

/-- The call in the member retains the import. -/
theorem member_call_retains : ∃ graph, python ⟨"a.py"⟩ calledByMember = .ok graph ∧
    graph.Declares .importing "f" := by
  have accepted : python ⟨"a.py"⟩ calledByMember = .ok _ := python_of_valid (by decide +kernel)
  obtain ⟨shown, _⟩ := imports_retained accepted
  have calls : (Declarations.ofTree (Text.lines calledByMember)
      (.ofSource calledByMember)).Calls "A.g" "f" := by
    unfold Declarations.Calls
    decide +kernel
  have called : CalledInDefinition (.ofSource calledByMember) "f" :=
    ⟨"A.g", Declarations.calls_ofTree_iff.mp calls⟩
  exact ⟨_, accepted, (shown "f" (binds_of_collected (by decide +kernel))).mpr called⟩

/-- A module that calls what it imports. -/
def calledByModule : String := "from m import helper\nhelper()\n"

/-- **An import that only the module itself calls is left out.** -/
theorem module_call_retains_nothing : ∃ graph, python ⟨"a.py"⟩ calledByModule = .ok graph ∧
    Binds (.ofSource calledByModule) "helper" ∧ Called (.ofSource calledByModule) "helper" ∧
      ¬ graph.Declares .importing "helper" := by
  refine ⟨_, python_of_valid (by decide +kernel), binds_of_collected (by decide +kernel), ?_, ?_⟩
  · have called : "helper" ∈ (Syntax.Tree.ofSource calledByModule).callNames := by decide +kernel
    obtain ⟨node, within, calls⟩ := Syntax.Tree.mem_callNames_iff.mp called
    exact ⟨node, within.inside, calls⟩
  · have empty : (Declarations.ofTree (Text.lines calledByModule)
        (.ofSource calledByModule)).graph.nodes = [] := by
      decide +kernel
    rintro ⟨node, isNode, _⟩
    rw [empty] at isNode
    cases isNode

end Extraction

end DeclGraph
