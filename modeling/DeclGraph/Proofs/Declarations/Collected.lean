/-
**What is collected from a tree.**

* `Tree.DefinesFunction`: a statement defines a function, perhaps behind decorators;
* `ClassIn`, `MemberIn`, `FunctionIn`, `BindsFrom`: the classes, members, functions and imported
  names of a tree, told without the traversal;
* **`mem_members_ofTree_iff`**, `mem_functions_ofTree_iff`, `mem_types_ofTree_iff`,
  `namesImport_ofTree_iff`: exactly these declarations are collected.
-/

import DeclGraph.Declarations.OfTree
import DeclGraph.Proofs.Declarations.Graph
import DeclGraph.Proofs.Syntax.Traversal

namespace DeclGraph

namespace Syntax.Tree

/-! ### Definitions -/

/-- A statement defines a function with a name: it is the definition, or holds it behind
decorators. -/
def DefinesFunction (statement definition : Tree) (name : String) : Prop :=
  (statement.kind = .functionDefinition ∧ definition = statement ∨
    statement.kind = .decoratedDefinition ∧ statement.part? .definition = some definition ∧
      definition.kind = .functionDefinition) ∧
    ∃ named, definition.part? .name = some named ∧ named.text = name

theorem functionDefinition?_eq_some_iff {statement definition : Tree} :
    statement.functionDefinition? = some definition ↔
      statement.kind = .functionDefinition ∧ definition = statement ∨
        statement.kind = .decoratedDefinition ∧ statement.part? .definition = some definition ∧
          definition.kind = .functionDefinition := by
  unfold functionDefinition?
  cases kind : statement.kind with
  | functionDefinition => simp [eq_comm]
  | decoratedDefinition => simp [Option.filter_eq_some_iff]
  | _ => simp

/-- What is made of the definition in a statement and of its name. -/
theorem bind_functionDefinition?_eq_some_iff {α : Type} {statement : Tree} {made : α}
    (make : Tree → String → α) :
    (statement.functionDefinition?.bind fun definition =>
      (definition.part? .name).bind fun name => some (make definition name.text)) = some made ↔
      ∃ definition name, statement.DefinesFunction definition name ∧
        made = make definition name := by
  unfold DefinesFunction
  simp only [← functionDefinition?_eq_some_iff, Option.bind_eq_some_iff]
  constructor
  · rintro ⟨definition, defines, named, isName, same⟩
    cases same
    exact ⟨definition, named.text, ⟨defines, named, isName, rfl⟩, rfl⟩
  · rintro ⟨definition, name, ⟨defines, named, isName, rfl⟩, rfl⟩
    exact ⟨definition, defines, named, isName, rfl⟩

end Syntax.Tree

/-! ### Declarations of single statements -/

section Statements

open Syntax (Tree)

variable {lines : List String} {statement : Tree}

theorem MemberDeclaration.ofStatement?_eq_some_iff {owner : String} {member : MemberDeclaration} :
    MemberDeclaration.ofStatement? lines owner statement = some member ↔
      ∃ definition name, statement.DefinesFunction definition name ∧
        member = ⟨owner, name, definition.span lines, statement.callNames⟩ := by
  unfold MemberDeclaration.ofStatement?
  exact Tree.bind_functionDefinition?_eq_some_iff fun definition name =>
    MemberDeclaration.mk owner name (definition.span lines) statement.callNames

theorem FunctionDeclaration.ofStatement?_eq_some_iff {function : FunctionDeclaration} :
    FunctionDeclaration.ofStatement? lines statement = some function ↔
      ∃ definition name, statement.DefinesFunction definition name ∧
        function = ⟨name, definition.span lines, statement.callNames⟩ := by
  unfold FunctionDeclaration.ofStatement?
  exact Tree.bind_functionDefinition?_eq_some_iff fun definition name =>
    FunctionDeclaration.mk name (definition.span lines) statement.callNames

/-- A name imported from a module is bound to its new name, or to itself. -/
theorem ImportDeclaration.binding_ofName (module : String) (tree : Tree) :
    (ImportDeclaration.ofName module tree).binding =
      tree.importedName.2.getD tree.importedName.1 := by
  unfold ImportDeclaration.ofName
  rcases tree.importedName with ⟨name, _ | newName⟩ <;> rfl

theorem ImportDeclaration.origin_ofName_isSome (module : String) (tree : Tree) :
    (ImportDeclaration.ofName module tree).origin.isSome = true := by
  unfold ImportDeclaration.ofName
  rcases tree.importedName with ⟨name, _ | newName⟩ <;> rfl

theorem ImportDeclaration.origin_ofModule (tree : Tree) :
    (ImportDeclaration.ofModule tree).origin = none := by
  unfold ImportDeclaration.ofModule
  rcases tree.importedName with ⟨name, _ | newName⟩ <;> rfl

/-- The imports of a statement that calls are resolved to are those from a module. -/
theorem ImportDeclaration.mem_ofStatement_isSome_iff {imported : ImportDeclaration} :
    imported ∈ ImportDeclaration.ofStatement statement ∧ imported.origin.isSome = true ↔
      statement.kind = .importFromStatement ∧ ∃ module, statement.part? .moduleName = some module ∧
        ∃ part ∈ statement.parts .name, imported = ImportDeclaration.ofName module.text part := by
  unfold ImportDeclaration.ofStatement
  cases kind : statement.kind with
  | importStatement =>
    simp only [reduceCtorEq, false_and, iff_false, not_and, List.mem_map]
    rintro ⟨part, _, rfl⟩
    rw [ImportDeclaration.origin_ofModule]
    exact Bool.false_ne_true
  | importFromStatement =>
    cases hasModule : statement.part? .moduleName with
    | none => simp
    | some module =>
      simp only [true_and, List.mem_map]
      constructor
      · rintro ⟨⟨part, isPart, rfl⟩, _⟩
        exact ⟨module, rfl, part, isPart, rfl⟩
      · rintro ⟨_, ⟨⟩, part, isPart, rfl⟩
        exact ⟨⟨part, isPart, rfl⟩, ImportDeclaration.origin_ofName_isSome _ _⟩
  | _ => simp

end Statements

namespace Declarations

open Syntax (Tree)
open Syntax.Tree (Within)

variable {lines : List String} {tree : Tree} {key name owner : String}

/-! ### Declarations of a tree, told without the traversal -/

/-- A class with a name stands anywhere in a tree. -/
def ClassIn (tree type : Tree) (name : String) : Prop :=
  Within type tree ∧ type.kind = .classDefinition ∧
    ∃ named, type.part? .name = some named ∧ named.text = name

/-- A statement right in the body of a class defines a function. -/
def MemberIn (tree statement definition : Tree) (owner name : String) : Prop :=
  ∃ type body, ClassIn tree type owner ∧ type.part? .body = some body ∧
    statement ∈ body.namedChildren ∧ statement.DefinesFunction definition name

/-- A statement right in a module defines a function. -/
def FunctionIn (tree statement definition : Tree) (name : String) : Prop :=
  statement ∈ tree.namedChildren ∧ statement.DefinesFunction definition name

/-- A statement right in a module imports a name from another module, perhaps under a new name. -/
def BindsFrom (tree : Tree) (name : String) : Prop :=
  ∃ statement module imported, statement ∈ tree.namedChildren ∧
    statement.kind = .importFromStatement ∧ statement.part? .moduleName = some module ∧
      imported ∈ statement.parts .name ∧ imported.importedName.2.getD imported.importedName.1 = name

/-! ### What is collected -/

theorem mem_classesOf_iff {type : Tree} :
    type ∈ classesOf tree ↔ Within type tree ∧ type.kind = .classDefinition := by
  unfold classesOf
  rw [List.mem_filter, Syntax.Tree.mem_namedNodes_iff, beq_iff_eq]

/-- The members of a class are the functions right in its body. -/
theorem mem_membersOf_iff {type : Tree} {member : MemberDeclaration} :
    member ∈ TypeDeclaration.membersOf lines type ↔
      ∃ named body, type.part? .name = some named ∧ type.part? .body = some body ∧
        ∃ statement ∈ body.namedChildren, ∃ definition name,
          statement.DefinesFunction definition name ∧
            member = ⟨named.text, name, definition.span lines, statement.callNames⟩ := by
  unfold TypeDeclaration.membersOf
  cases isName : type.part? .name with
  | none => simp
  | some named =>
    cases isBody : type.part? .body with
    | none => simp
    | some body =>
      simp only [List.mem_filterMap, MemberDeclaration.ofStatement?_eq_some_iff]
      constructor
      · intro found
        exact ⟨named, body, rfl, rfl, found⟩
      · rintro ⟨_, _, ⟨⟩, ⟨⟩, found⟩
        exact found

/-- **The members of a file are the functions right in the bodies of its classes.** -/
theorem mem_members_ofTree_iff {member : MemberDeclaration} :
    member ∈ (ofTree lines tree).members ↔ ∃ statement definition owner name,
      MemberIn tree statement definition owner name ∧
        member = ⟨owner, name, definition.span lines, statement.callNames⟩ := by
  unfold ofTree
  simp only [List.mem_flatMap, mem_membersOf_iff, mem_classesOf_iff]
  constructor
  · rintro ⟨type, ⟨within, isClass⟩, named, body, isName, isBody, statement, inBody, definition,
      name, defines, rfl⟩
    exact ⟨statement, definition, named.text, name,
      ⟨type, body, ⟨within, isClass, named, isName, rfl⟩, isBody, inBody, defines⟩, rfl⟩
  · rintro ⟨statement, definition, _, name,
      ⟨type, body, ⟨within, isClass, named, isName, rfl⟩, isBody, inBody, defines⟩, rfl⟩
    exact ⟨type, ⟨within, isClass⟩, named, body, isName, isBody, statement, inBody, definition,
      name, defines, rfl⟩

/-- The functions of a file are those right in the module. -/
theorem mem_functions_ofTree_iff {function : FunctionDeclaration} :
    function ∈ (ofTree lines tree).functions ↔ ∃ statement definition name,
      FunctionIn tree statement definition name ∧
        function = ⟨name, definition.span lines, statement.callNames⟩ := by
  unfold ofTree FunctionIn
  simp only [List.mem_filterMap, FunctionDeclaration.ofStatement?_eq_some_iff]
  constructor
  · rintro ⟨statement, inModule, definition, name, defines, rfl⟩
    exact ⟨statement, definition, name, ⟨inModule, defines⟩, rfl⟩
  · rintro ⟨statement, definition, name, ⟨inModule, defines⟩, rfl⟩
    exact ⟨statement, inModule, definition, name, defines, rfl⟩

/-- The types of a file are the classes anywhere in it, with their texts and bases. -/
theorem mem_types_ofTree_iff {declared : TypeDeclaration} :
    declared ∈ (ofTree lines tree).types ↔ ∃ definition, ClassIn tree definition declared.name ∧
      declared.source = definition.span lines ∧
        declared.bases = TypeDeclaration.basesOf definition := by
  unfold ofTree ClassIn
  simp only [List.mem_filterMap, mem_classesOf_iff]
  constructor
  · rintro ⟨definition, ⟨within, isClass⟩, made⟩
    obtain ⟨named, isName, made⟩ := Option.bind_eq_some_iff.mp made
    cases made
    exact ⟨definition, ⟨within, isClass, named, isName, rfl⟩, rfl, rfl⟩
  · rintro ⟨definition, ⟨within, isClass, named, isName, same⟩, source, bases⟩
    refine ⟨definition, ⟨within, isClass⟩, Option.bind_eq_some_iff.mpr ⟨named, isName, ?_⟩⟩
    rw [same, ← source, ← bases]
    rfl

/-- The types of a file are the classes anywhere in it. -/
theorem exists_type_ofTree_iff :
    (∃ type ∈ (ofTree lines tree).types, type.name = name) ↔ ∃ type, ClassIn tree type name := by
  simp only [mem_types_ofTree_iff]
  constructor
  · rintro ⟨type, ⟨definition, isClass, _⟩, rfl⟩
    exact ⟨definition, isClass⟩
  · rintro ⟨definition, isClass⟩
    exact ⟨⟨name, definition.span lines, TypeDeclaration.basesOf definition⟩,
      ⟨definition, isClass, rfl, rfl⟩, rfl⟩

/-- The names imported from modules are those that the statements of the module bind. -/
theorem namesImport_ofTree_iff : (ofTree lines tree).NamesImport name ↔ BindsFrom tree name := by
  unfold NamesImport BindsFrom ofTree
  constructor
  · rintro ⟨imported, isImport, rfl, fromModule⟩
    obtain ⟨statement, inModule, bound⟩ := List.mem_flatMap.mp isImport
    obtain ⟨isFrom, module, hasModule, part, isPart, rfl⟩ :=
      ImportDeclaration.mem_ofStatement_isSome_iff.mp ⟨bound, fromModule⟩
    exact ⟨statement, module, part, inModule, isFrom, hasModule, isPart,
      (ImportDeclaration.binding_ofName ..).symm⟩
  · rintro ⟨statement, module, part, inModule, isFrom, hasModule, isPart, rfl⟩
    obtain ⟨bound, fromModule⟩ := ImportDeclaration.mem_ofStatement_isSome_iff.mpr
      ⟨isFrom, module, hasModule, part, isPart, rfl⟩
    exact ⟨_, List.mem_flatMap.mpr ⟨statement, inModule, bound⟩,
      ImportDeclaration.binding_ofName .., fromModule⟩

end Declarations

end DeclGraph
