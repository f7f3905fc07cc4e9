/-
**The graph of declarations.**

* `Declarations.Calls`: a member or function with a key calls a name;
* `NamesMember`, `NamesFunction`, `NamesImport`: what has a name among the declarations of a file;
* **`mem_table_resolve_iff`**: what a name stands for;
* `mem_graph_links_iff`: the links of the graph, by where they come from;
* `containment_mem_graph_links_iff`, `inheritance_mem_graph_links_iff`: the links of types;
* **`call_mem_graph_links_iff`**, **`importUse_mem_graph_links_iff`**: the links of calls and of uses
  of imports, by what the name called stands for.
-/

import DeclGraph.Declarations.Basic
import DeclGraph.Proofs.Linking

namespace DeclGraph

namespace Declarations

variable {declarations : Declarations}

/-! ### The names that calls are resolved against -/

theorem members_foldl_addMember (members : List MemberDeclaration) (table : SymbolTable) :
    members.foldl (fun table member => table.addMember member.key member.name) table =
      { table with
        members := table.members ++ members.map fun member => (member.name, member.key) } := by
  induction members generalizing table with
  | nil => simp
  | cons member members ih =>
    rw [List.foldl_cons, ih]
    simp [SymbolTable.addMember]

theorem functions_foldl_addFunction (functions : List FunctionDeclaration) (table : SymbolTable) :
    functions.foldl (fun table function => table.addFunction function.name) table =
      { table with functions := table.functions ++ functions.map FunctionDeclaration.name } := by
  induction functions generalizing table with
  | nil => simp
  | cons function functions ih =>
    rw [List.foldl_cons, ih]
    simp [SymbolTable.addFunction]

theorem imports_foldl_addTo (imports : List ImportDeclaration) (table : SymbolTable) :
    imports.foldl ImportDeclaration.addTo table =
      { table with imports := table.imports ++ imports.filterMap fun imported =>
          imported.origin.map fun origin => (imported.binding, origin) } := by
  induction imports generalizing table with
  | nil => simp
  | cons imported imports ih =>
    rw [List.foldl_cons, ih]
    cases origin : imported.origin <;>
      simp [ImportDeclaration.addTo, SymbolTable.addImport, origin]

/-- Members, functions and imports that calls may name, in the order of the declarations. -/
theorem table_eq : declarations.table =
    { members := declarations.members.map fun member => (member.name, member.key)
      functions := declarations.functions.map FunctionDeclaration.name
      imports := declarations.imports.filterMap fun imported =>
        imported.origin.map fun origin => (imported.binding, origin) } := by
  simp [table, members_foldl_addMember, functions_foldl_addFunction, imports_foldl_addTo,
    SymbolTable.empty]

/-! ### Callers -/

/-- A member or function with a key calls a name. -/
def Calls (declarations : Declarations) (key name : String) : Prop :=
  (∃ member ∈ declarations.members, member.key = key ∧ name ∈ member.calls) ∨
    ∃ function ∈ declarations.functions, function.name = key ∧ name ∈ function.calls

theorem exists_caller_iff {key name : String} :
    (∃ caller ∈ declarations.callers, caller.key = key ∧ name ∈ caller.calls) ↔
      declarations.Calls key name := by
  unfold callers Calls
  constructor
  · rintro ⟨caller, listed, rfl, called⟩
    rcases List.mem_append.mp listed with inMembers | inFunctions
    · obtain ⟨member, isMember, rfl⟩ := List.mem_map.mp inMembers
      exact Or.inl ⟨member, isMember, rfl, called⟩
    · obtain ⟨function, isFunction, rfl⟩ := List.mem_map.mp inFunctions
      exact Or.inr ⟨function, isFunction, rfl, called⟩
  · rintro (⟨member, isMember, rfl, called⟩ | ⟨function, isFunction, rfl, called⟩)
    · exact ⟨member.caller, List.mem_append_left _ (List.mem_map_of_mem isMember), rfl, called⟩
    · exact ⟨function.caller, List.mem_append_right _ (List.mem_map_of_mem isFunction), rfl, called⟩

/-- A link of a call is due to a name that its source calls. -/
theorem mem_resolution_links_iff {link : Link} :
    link ∈ declarations.resolution.links ↔ ∃ name, declarations.Calls link.source name ∧
      ⟨link.target, link.kind⟩ ∈ declarations.table.resolve name := by
  unfold resolution
  rw [mem_links_iff]
  constructor
  · rintro ⟨caller, member, name, called, target, resolved, rfl⟩
    exact ⟨name, exists_caller_iff.mp ⟨caller, member, rfl, called⟩, resolved⟩
  · rintro ⟨name, called, resolved⟩
    obtain ⟨caller, member, source, called⟩ := exists_caller_iff.mpr called
    exact ⟨caller, member, name, called, _, resolved, by rw [source]⟩

/-- A name that some declaration calls is used. -/
theorem isUsed_resolution_iff {name : String} :
    declarations.resolution.isUsed name = true ↔ ∃ key, declarations.Calls key name := by
  rw [Resolution.isUsed_iff]
  unfold resolution
  rw [mem_usedNames_iff]
  constructor
  · rintro ⟨caller, member, called⟩
    exact ⟨caller.key, exists_caller_iff.mp ⟨caller, member, rfl, called⟩⟩
  · rintro ⟨key, called⟩
    obtain ⟨caller, member, _, called⟩ := exists_caller_iff.mpr called
    exact ⟨caller, member, called⟩

/-! ### Links of the graph -/

/-- A member with a name is declared. -/
def NamesMember (declarations : Declarations) (name key : String) : Prop :=
  ∃ member ∈ declarations.members, member.name = name ∧ member.key = key

/-- A function with a name is declared. -/
def NamesFunction (declarations : Declarations) (name : String) : Prop :=
  ∃ function ∈ declarations.functions, function.name = name

/-- A name is imported from a module. -/
def NamesImport (declarations : Declarations) (name : String) : Prop :=
  ∃ imported ∈ declarations.imports, imported.binding = name ∧ imported.origin.isSome = true

theorem exists_mem_table_imports_iff {name : String} :
    (∃ origin, (name, origin) ∈ declarations.table.imports) ↔ declarations.NamesImport name := by
  rw [table_eq]
  constructor
  · rintro ⟨origin, listed⟩
    obtain ⟨imported, isImport, made⟩ := List.mem_filterMap.mp listed
    obtain ⟨_, fromModule, same⟩ := Option.map_eq_some_iff.mp made
    cases same
    exact ⟨imported, isImport, rfl, Option.isSome_of_eq_some fromModule⟩
  · rintro ⟨imported, isImport, rfl, fromModule⟩
    obtain ⟨origin, fromModule⟩ := Option.isSome_iff_exists.mp fromModule
    exact ⟨origin, List.mem_filterMap.mpr ⟨imported, isImport, by rw [fromModule]; rfl⟩⟩

/-- **What a name stands for among the declarations of a file.** -/
theorem mem_table_resolve_iff {name : String} {target : Target} :
    target ∈ declarations.table.resolve name ↔
      (target.kind = .call ∧ declarations.NamesMember name target.key) ∨
      (target = ⟨name, .call⟩ ∧ (∀ key, ¬ declarations.NamesMember name key) ∧
        declarations.NamesFunction name) ∨
      (target = ⟨name, .importUse⟩ ∧ (∀ key, ¬ declarations.NamesMember name key) ∧
        ¬ declarations.NamesFunction name ∧ declarations.NamesImport name) := by
  have isMember : ∀ key, (name, key) ∈ declarations.table.members ↔
      declarations.NamesMember name key := fun key => by
    simp [table_eq, NamesMember]
  have isFunction : name ∈ declarations.table.functions ↔ declarations.NamesFunction name := by
    simp [table_eq, NamesFunction]
  rw [SymbolTable.mem_resolve_iff]
  simp only [isMember, isFunction, exists_mem_table_imports_iff]

theorem kind_of_mem_table_resolve {name : String} {target : Target}
    (resolved : target ∈ declarations.table.resolve name) :
    target.kind = .call ∨ target.kind = .importUse := by
  rcases mem_table_resolve_iff.mp resolved with ⟨kind, _⟩ | ⟨rfl, _⟩ | ⟨rfl, _⟩
  · exact Or.inl kind
  · exact Or.inl rfl
  · exact Or.inr rfl

/-- The links of a graph are those from the owners of members, those to supertypes, and those of
calls. -/
theorem mem_graph_links_iff {link : Link} :
    link ∈ declarations.graph.links ↔
      (∃ member ∈ declarations.members, link = member.link) ∨
      (∃ type ∈ declarations.types, ∃ base ∈ type.bases, link = ⟨type.name, base, .inheritance⟩) ∨
      ∃ name, declarations.Calls link.source name ∧
        ⟨link.target, link.kind⟩ ∈ declarations.table.resolve name := by
  simp only [graph, List.mem_append, mem_resolution_links_iff, List.mem_map, List.mem_flatMap,
    TypeDeclaration.links, or_assoc, eq_comm (a := link)]

/-- The links of containment go from the owners of members to the members. -/
theorem containment_mem_graph_links_iff {source target : String} :
    (⟨source, target, .containment⟩ : Link) ∈ declarations.graph.links ↔
      ∃ member ∈ declarations.members, member.owner = source ∧ member.key = target := by
  rw [mem_graph_links_iff]
  constructor
  · rintro (⟨member, listed, same⟩ | ⟨type, _, base, _, same⟩ | ⟨name, _, resolved⟩)
    · cases same
      exact ⟨member, listed, rfl, rfl⟩
    · cases same
    · rcases kind_of_mem_table_resolve resolved with same | same <;> cases same
  · rintro ⟨member, listed, rfl, rfl⟩
    exact Or.inl ⟨member, listed, rfl⟩

/-- The links of inheritance go from types to their supertypes. -/
theorem inheritance_mem_graph_links_iff {source target : String} :
    (⟨source, target, .inheritance⟩ : Link) ∈ declarations.graph.links ↔
      ∃ type ∈ declarations.types, type.name = source ∧ target ∈ type.bases := by
  rw [mem_graph_links_iff]
  constructor
  · rintro (⟨member, _, same⟩ | ⟨type, listed, base, isBase, same⟩ | ⟨name, _, resolved⟩)
    · cases same
    · cases same
      exact ⟨type, listed, rfl, isBase⟩
    · rcases kind_of_mem_table_resolve resolved with same | same <;> cases same
  · rintro ⟨type, listed, rfl, isBase⟩
    exact Or.inr (Or.inl ⟨type, listed, target, isBase, rfl⟩)

/-- The calls of declarations end at the members with the name called; failing these, at the
function with the name. -/
theorem call_mem_graph_links_iff {key target : String} :
    (⟨key, target, .call⟩ : Link) ∈ declarations.graph.links ↔
      ∃ name, declarations.Calls key name ∧ (declarations.NamesMember name target ∨
        (∀ key, ¬ declarations.NamesMember name key) ∧ target = name ∧
          declarations.NamesFunction name) := by
  rw [mem_graph_links_iff]
  constructor
  · rintro (⟨member, _, same⟩ | ⟨type, _, base, _, same⟩ | ⟨name, called, resolved⟩)
    · cases same
    · cases same
    · refine ⟨name, called, ?_⟩
      rcases mem_table_resolve_iff.mp resolved with ⟨_, names⟩ | ⟨same, none, names⟩ | ⟨same, _⟩
      · exact Or.inl names
      · cases same
        exact Or.inr ⟨none, rfl, names⟩
      · cases same
  · rintro ⟨name, called, names | ⟨none, rfl, names⟩⟩
    · exact Or.inr (Or.inr ⟨name, called, mem_table_resolve_iff.mpr (Or.inl ⟨rfl, names⟩)⟩)
    · refine Or.inr (Or.inr ⟨_, called, mem_table_resolve_iff.mpr ?_⟩)
      exact Or.inr (Or.inl ⟨rfl, none, names⟩)

/-- The uses of imports end at the name called, if it is imported and nothing else has the name. -/
theorem importUse_mem_graph_links_iff {key name : String} :
    (⟨key, name, .importUse⟩ : Link) ∈ declarations.graph.links ↔
      declarations.Calls key name ∧ (∀ key, ¬ declarations.NamesMember name key) ∧
        ¬ declarations.NamesFunction name ∧ declarations.NamesImport name := by
  rw [mem_graph_links_iff]
  constructor
  · rintro (⟨member, _, same⟩ | ⟨type, _, base, _, same⟩ | ⟨other, called, resolved⟩)
    · cases same
    · cases same
    · rcases mem_table_resolve_iff.mp resolved with ⟨same, _⟩ | ⟨same, _⟩ | ⟨same, names⟩
      · cases same
      · cases same
      · cases same
        exact ⟨called, names⟩
  · rintro ⟨called, names⟩
    exact Or.inr (Or.inr ⟨name, called, mem_table_resolve_iff.mpr (Or.inr (Or.inr ⟨rfl, names⟩))⟩)

end Declarations

end DeclGraph
