/-
**Declarations of a syntax tree.**

Classes are found anywhere, in the order of the source; their members are the functions right in
their bodies. Functions and imports are those right in the module. The calls of a declaration are
all calls in its statement, nested definitions and decorators included, by the name called or the
last name of an attribute.

* `Tree.span`: the whole source lines of a declaration, from its first row to the row of its last
  token;
* `Declarations.ofTree`: everything that a tree declares.
-/

import DeclGraph.Declarations.Basic
import DeclGraph.Syntax.Tree

namespace DeclGraph

open Syntax (Kind Role Tree)

namespace Syntax.Tree

/-! ### Parts of statements -/

/-- The function that a statement defines, perhaps behind decorators. -/
def functionDefinition? (tree : Tree) : Option Tree :=
  match tree.kind with
  | .functionDefinition => some tree
  | .decoratedDefinition =>
    (tree.part? .definition).filter fun definition => definition.kind == .functionDefinition
  | _ => none

/-- The row behind the last row of a declaration: a token that stops at the start of a row does
not reach into it. -/
def endRow (tree : Tree) : Nat :=
  let stop := tree.lastToken.stop
  if stop.column = 0 ∧ tree.start.row < stop.row then stop.row else stop.row + 1

/-- The whole lines that a declaration spans. -/
def span (lines : List String) (tree : Tree) : String :=
  let lines := lines.take tree.endRow
  "\n".intercalate (lines.drop tree.start.row)

/-- The name that a call calls, if its callee is a name or an attribute. -/
def calledName? (tree : Tree) : Option String :=
  if tree.kind = .call then
    (tree.part? .function).bind fun callee =>
      match callee.kind with
      | .identifier => some callee.text
      | .attribute => (callee.part? .attribute).map text
      | _ => none
  else none

/-- The names called anywhere in a tree, in the order of the source. -/
def callNames (tree : Tree) : List String := tree.namedNodes.filterMap calledName?

/-- An imported name and what it is bound to instead. -/
def importedName (tree : Tree) : String × Option String :=
  if tree.kind = .aliasedImport then
    (((tree.part? .name).map text).getD "", (tree.part? .newName).map text)
  else (tree.text, none)

end Syntax.Tree

/-! ### Declarations -/

namespace MemberDeclaration

/-- The member that a statement of a class body declares. -/
def ofStatement? (lines : List String) (owner : String) (statement : Tree) :
    Option MemberDeclaration := do
  let definition ← statement.functionDefinition?
  let name ← definition.part? .name
  return ⟨owner, name.text, definition.span lines, statement.callNames⟩

end MemberDeclaration

namespace TypeDeclaration

/-- The supertypes of a class that are given by a simple name. -/
def basesOf (definition : Tree) : List String :=
  match definition.part? .superclasses with
  | some bases =>
    (bases.namedChildren.filter fun base => base.kind == .identifier).map Tree.text
  | none => []

/-- The type that a class declares. -/
def ofClass? (lines : List String) (definition : Tree) : Option TypeDeclaration := do
  let name ← definition.part? .name
  return ⟨name.text, definition.span lines, basesOf definition⟩

/-- The members that a class declares. -/
def membersOf (lines : List String) (definition : Tree) : List MemberDeclaration :=
  match definition.part? .name, definition.part? .body with
  | some name, some body =>
    body.namedChildren.filterMap (MemberDeclaration.ofStatement? lines name.text)
  | _, _ => []

end TypeDeclaration

namespace FunctionDeclaration

/-- The function that a statement of a module declares. -/
def ofStatement? (lines : List String) (statement : Tree) : Option FunctionDeclaration := do
  let definition ← statement.functionDefinition?
  let name ← definition.part? .name
  return ⟨name.text, definition.span lines, statement.callNames⟩

end FunctionDeclaration

namespace ImportDeclaration

/-- The name that a whole module is imported under. -/
def ofModule (tree : Tree) : ImportDeclaration :=
  match tree.importedName with
  | (name, some newName) => ⟨newName, "import " ++ name ++ " as " ++ newName, none⟩
  | (name, none) => ⟨name, "import " ++ name, none⟩

/-- A name imported from a module. -/
def ofName (module : String) (tree : Tree) : ImportDeclaration :=
  match tree.importedName with
  | (name, some newName) =>
    ⟨newName, "from " ++ module ++ " import " ++ name ++ " as " ++ newName,
      some (module ++ "." ++ name)⟩
  | (name, none) => ⟨name, "from " ++ module ++ " import " ++ name, some (module ++ "." ++ name)⟩

/-- The names that a statement imports. -/
def ofStatement (statement : Tree) : List ImportDeclaration :=
  match statement.kind with
  | .importStatement => (statement.parts .name).map ofModule
  | .importFromStatement =>
    match statement.part? .moduleName with
    | some module => (statement.parts .name).map (ofName module.text)
    | none => []
  | _ => []

end ImportDeclaration

namespace Declarations

/-- The classes anywhere in a tree, in the order of the source. -/
def classesOf (tree : Tree) : List Tree :=
  tree.namedNodes.filter fun node => node.kind == .classDefinition

/-- What a tree declares, given the lines of its source. -/
def ofTree (lines : List String) (tree : Tree) : Declarations where
  types := (classesOf tree).filterMap (TypeDeclaration.ofClass? lines)
  members := (classesOf tree).flatMap (TypeDeclaration.membersOf lines)
  functions := tree.namedChildren.filterMap (FunctionDeclaration.ofStatement? lines)
  imports := tree.namedChildren.flatMap ImportDeclaration.ofStatement

end Declarations

end DeclGraph
