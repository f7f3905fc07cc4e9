/-
**The declarations of a file and their graph.**

* types come first among the nodes, then members, functions and imports; among the links,
  containment comes first, then inheritance, then calls;
* names are resolved against all imports, and only afterwards are those imports left out that no
  declaration calls.
-/

import DeclGraph.Linking

namespace DeclGraph

/-- A declared type and the simple names of its supertypes. -/
structure TypeDeclaration where
  name : String
  source : String
  bases : List String
  deriving DecidableEq, Repr, Inhabited

/-- A member of a type and the names that it calls. -/
structure MemberDeclaration where
  owner : String
  name : String
  source : String
  calls : List String
  deriving DecidableEq, Repr, Inhabited

/-- A free function and the names that it calls. -/
structure FunctionDeclaration where
  name : String
  source : String
  calls : List String
  deriving DecidableEq, Repr, Inhabited

/-- An imported name. -/
structure ImportDeclaration where
  binding : String
  source : String
  /-- the qualified name that calls are resolved to; absent for whole modules -/
  origin : Option String
  deriving DecidableEq, Repr, Inhabited

/-- What a file declares, each list in the order of the file. -/
structure Declarations where
  types : List TypeDeclaration := []
  members : List MemberDeclaration := []
  functions : List FunctionDeclaration := []
  imports : List ImportDeclaration := []
  deriving DecidableEq, Repr, Inhabited

/-! ### Nodes and links of single declarations -/

namespace TypeDeclaration

def node (type : TypeDeclaration) : Node := ⟨type.name, type.name, .type, type.source⟩

/-- One link to each supertype. -/
def links (type : TypeDeclaration) : List Link :=
  type.bases.map fun base => ⟨type.name, base, .inheritance⟩

end TypeDeclaration

namespace MemberDeclaration

/-- A member is named by its owner and its own name. -/
def key (member : MemberDeclaration) : String := member.owner ++ "." ++ member.name

def node (member : MemberDeclaration) : Node := ⟨member.key, member.name, .member, member.source⟩

/-- The link from the owner. -/
def link (member : MemberDeclaration) : Link := ⟨member.owner, member.key, .containment⟩

def caller (member : MemberDeclaration) : Caller := ⟨member.key, member.calls⟩

end MemberDeclaration

namespace FunctionDeclaration

def node (function : FunctionDeclaration) : Node :=
  ⟨function.name, function.name, .function, function.source⟩

def caller (function : FunctionDeclaration) : Caller := ⟨function.name, function.calls⟩

end FunctionDeclaration

namespace ImportDeclaration

def node (imported : ImportDeclaration) : Node :=
  ⟨imported.binding, imported.binding, .importing, imported.source⟩

/-- Binds the name in a table if calls can be resolved to it. -/
def addTo (table : SymbolTable) (imported : ImportDeclaration) : SymbolTable :=
  match imported.origin with
  | some origin => table.addImport imported.binding origin
  | none => table

end ImportDeclaration

/-! ### The graph -/

namespace Declarations

/-- The names that calls are resolved against. -/
def table (declarations : Declarations) : SymbolTable :=
  let members := declarations.members.foldl
    (fun table member => table.addMember member.key member.name) SymbolTable.empty
  let functions := declarations.functions.foldl
    (fun table function => table.addFunction function.name) members
  declarations.imports.foldl ImportDeclaration.addTo functions

/-- The members and then the functions, with the names that they call. -/
def callers (declarations : Declarations) : List Caller :=
  declarations.members.map MemberDeclaration.caller ++
    declarations.functions.map FunctionDeclaration.caller

/-- The calls of all members and functions, resolved. -/
def resolution (declarations : Declarations) : Resolution :=
  resolveCalls declarations.callers declarations.table.resolve

/-- The imports that some member or function calls. -/
def usedImports (declarations : Declarations) : List ImportDeclaration :=
  let resolution := declarations.resolution
  declarations.imports.filter fun imported => resolution.isUsed imported.binding

/-- The graph of the declarations. -/
def graph (declarations : Declarations) : Graph where
  nodes :=
    declarations.types.map TypeDeclaration.node ++
      declarations.members.map MemberDeclaration.node ++
      declarations.functions.map FunctionDeclaration.node ++
      declarations.usedImports.map ImportDeclaration.node
  links :=
    declarations.members.map MemberDeclaration.link ++
      declarations.types.flatMap TypeDeclaration.links ++ declarations.resolution.links

end Declarations

end DeclGraph
