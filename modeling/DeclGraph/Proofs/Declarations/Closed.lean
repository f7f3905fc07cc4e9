/-
**No link of a graph dangles, supertypes aside.**

* `Graph.Declares`: a graph has a node of a kind with a key;
* `Graph.Closed`: the ends of links are nodes of the right kinds, and every member has its type.
  Only the supertype of an inheritance may be missing;
* `Declarations.Owned`: the owners of members are types;
* **`Declarations.closed_graph`**: declarations with owned members have a closed graph;
* **`Declarations.closed_graph_ofTree`**: the graph of every tree is closed, and uses of imports end
  at imports that the filter of unused ones retains.
-/

import DeclGraph.Proofs.Declarations.Collected

namespace DeclGraph

namespace Graph

/-- A node of a kind has a key. -/
def Declares (graph : Graph) (kind : NodeKind) (key : String) : Prop :=
  ∃ node ∈ graph.nodes, node.kind = kind ∧ node.key = key

/-- A member or function, which may call, has a key. -/
def DeclaresCaller (graph : Graph) (key : String) : Prop :=
  graph.Declares .member key ∨ graph.Declares .function key

/-- A type owns a member: the key of the member is that of the type, a dot and the name of the
member. -/
def Owns (graph : Graph) (type member : String) : Prop :=
  graph.Declares .type type ∧ ∃ node ∈ graph.nodes, node.kind = .member ∧ node.key = member ∧
    node.key = type ++ "." ++ node.name

/-- **The ends of links are nodes.** The target of an inheritance alone may be missing. -/
structure Closed (graph : Graph) : Prop where
  containment : ∀ {source target}, ⟨source, target, .containment⟩ ∈ graph.links →
    graph.Owns source target
  owned : ∀ {node}, node ∈ graph.nodes → node.kind = .member →
    ∃ type, ⟨type, node.key, .containment⟩ ∈ graph.links ∧ node.key = type ++ "." ++ node.name
  inheritance : ∀ {source target}, ⟨source, target, .inheritance⟩ ∈ graph.links →
    graph.Declares .type source
  call : ∀ {source target}, ⟨source, target, .call⟩ ∈ graph.links →
    graph.DeclaresCaller source ∧ graph.DeclaresCaller target
  importUse : ∀ {source target}, ⟨source, target, .importUse⟩ ∈ graph.links →
    graph.DeclaresCaller source ∧ graph.Declares .importing target

end Graph

namespace Declarations

open Syntax (Tree)

variable {declarations : Declarations} {key name : String}

/-! ### Nodes of the graph -/

theorem mem_graph_nodes_iff {node : Node} :
    node ∈ declarations.graph.nodes ↔
      (∃ type ∈ declarations.types, node = type.node) ∨
      (∃ member ∈ declarations.members, node = member.node) ∨
      (∃ function ∈ declarations.functions, node = function.node) ∨
      ∃ imported ∈ declarations.usedImports, node = imported.node := by
  simp only [graph, List.mem_append, List.mem_map, or_assoc, eq_comm (a := node)]

theorem declares_type {type : TypeDeclaration} (listed : type ∈ declarations.types) :
    declarations.graph.Declares .type type.name :=
  ⟨type.node, mem_graph_nodes_iff.mpr (Or.inl ⟨type, listed, rfl⟩), rfl, rfl⟩

theorem member_node_mem {member : MemberDeclaration} (listed : member ∈ declarations.members) :
    member.node ∈ declarations.graph.nodes :=
  mem_graph_nodes_iff.mpr (Or.inr (Or.inl ⟨member, listed, rfl⟩))

theorem function_node_mem {function : FunctionDeclaration}
    (listed : function ∈ declarations.functions) : function.node ∈ declarations.graph.nodes :=
  mem_graph_nodes_iff.mpr (Or.inr (Or.inr (Or.inl ⟨function, listed, rfl⟩)))

theorem import_node_mem {imported : ImportDeclaration}
    (retained : imported ∈ declarations.usedImports) : imported.node ∈ declarations.graph.nodes :=
  mem_graph_nodes_iff.mpr (Or.inr (Or.inr (Or.inr ⟨imported, retained, rfl⟩)))

/-! ### Ends of calls -/

/-- What calls is a member or function of the graph. -/
theorem declaresCaller_of_calls (calls : declarations.Calls key name) :
    declarations.graph.DeclaresCaller key := by
  rcases calls with ⟨member, listed, rfl, _⟩ | ⟨function, listed, rfl, _⟩
  · exact Or.inl ⟨member.node, member_node_mem listed, rfl, rfl⟩
  · exact Or.inr ⟨function.node, function_node_mem listed, rfl, rfl⟩

theorem declares_of_namesMember (names : declarations.NamesMember name key) :
    declarations.graph.Declares .member key := by
  obtain ⟨member, listed, _, rfl⟩ := names
  exact ⟨member.node, member_node_mem listed, rfl, rfl⟩

theorem declares_of_namesFunction (names : declarations.NamesFunction name) :
    declarations.graph.Declares .function name := by
  obtain ⟨function, listed, rfl⟩ := names
  exact ⟨function.node, function_node_mem listed, rfl, rfl⟩

/-- **The filter of unused imports keeps every import that a link ends at.** The name was called,
and names are all that the filter looks at. -/
theorem mem_usedImports_of_calls {imported : ImportDeclaration}
    (listed : imported ∈ declarations.imports) (calls : declarations.Calls key imported.binding) :
    imported ∈ declarations.usedImports :=
  List.mem_filter.mpr ⟨listed, isUsed_resolution_iff.mpr ⟨key, calls⟩⟩

theorem exists_usedImport_of_link {source target : String}
    (link : (⟨source, target, .importUse⟩ : Link) ∈ declarations.graph.links) :
    ∃ imported ∈ declarations.usedImports, imported.binding = target := by
  obtain ⟨calls, _, _, imported, listed, rfl, _⟩ := importUse_mem_graph_links_iff.mp link
  exact ⟨imported, mem_usedImports_of_calls listed calls, rfl⟩

/-! ### Closed graphs -/

/-- The owner of every member is a type. -/
def Owned (declarations : Declarations) : Prop :=
  ∀ member ∈ declarations.members, ∃ type ∈ declarations.types, type.name = member.owner

/-- **Declarations with owned members have a closed graph.** -/
theorem closed_graph (owned : declarations.Owned) : declarations.graph.Closed where
  containment := by
    intro source target link
    obtain ⟨member, listed, rfl, rfl⟩ := containment_mem_graph_links_iff.mp link
    obtain ⟨type, isType, named⟩ := owned member listed
    exact ⟨named ▸ declares_type isType, member.node, member_node_mem listed, rfl, rfl, rfl⟩
  owned := by
    intro node isNode isMember
    rcases mem_graph_nodes_iff.mp isNode with
      ⟨_, _, rfl⟩ | ⟨member, listed, rfl⟩ | ⟨_, _, rfl⟩ | ⟨_, _, rfl⟩
    · cases isMember
    · exact ⟨member.owner, containment_mem_graph_links_iff.mpr ⟨member, listed, rfl, rfl⟩, rfl⟩
    · cases isMember
    · cases isMember
  inheritance := by
    intro source target link
    obtain ⟨type, listed, rfl, _⟩ := inheritance_mem_graph_links_iff.mp link
    exact declares_type listed
  call := by
    intro source target link
    obtain ⟨name, calls, names⟩ := call_mem_graph_links_iff.mp link
    refine ⟨declaresCaller_of_calls calls, ?_⟩
    rcases names with names | ⟨_, rfl, names⟩
    · exact Or.inl (declares_of_namesMember names)
    · exact Or.inr (declares_of_namesFunction names)
  importUse := by
    intro source target link
    obtain ⟨calls, _⟩ := importUse_mem_graph_links_iff.mp link
    obtain ⟨imported, retained, rfl⟩ := exists_usedImport_of_link link
    exact ⟨declaresCaller_of_calls calls, imported.node, import_node_mem retained, rfl, rfl⟩

/-- The members of a tree stand in classes, and a class with a name is a type. -/
theorem owned_ofTree (lines : List String) (tree : Tree) : (ofTree lines tree).Owned := by
  intro member listed
  obtain ⟨_, _, owner, _, ⟨type, _, isClass, _⟩, rfl⟩ := mem_members_ofTree_iff.mp listed
  exact exists_type_ofTree_iff.mpr ⟨type, isClass⟩

/-- **The graph of every tree is closed, and the imports that links end at are retained.** -/
theorem closed_graph_ofTree (lines : List String) (tree : Tree) :
    (ofTree lines tree).graph.Closed ∧
      ∀ source target, ⟨source, target, .importUse⟩ ∈ (ofTree lines tree).graph.links →
        ∃ imported ∈ (ofTree lines tree).imports,
          (ofTree lines tree).resolution.isUsed imported.binding = true ∧
            imported.binding = target ∧ imported.node ∈ (ofTree lines tree).graph.nodes := by
  refine ⟨closed_graph (owned_ofTree lines tree), ?_⟩
  intro source target link
  obtain ⟨imported, retained, rfl⟩ := exists_usedImport_of_link link
  obtain ⟨listed, used⟩ := List.mem_filter.mp retained
  exact ⟨imported, listed, used, rfl, import_node_mem retained⟩

end Declarations

end DeclGraph
