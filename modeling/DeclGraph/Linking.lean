/-
**From call names to links.**

A call is known by name only: no scopes, no types, no control flow. A resolver says which
declarations a name stands for, and `resolveCalls` makes one link for each call site and each of
its targets, so a repeated call gives repeated links and two members of one name both receive
theirs.

* `SymbolTable`: the names one file declares. Members come before functions, functions before
  imported bindings, and the first category with the name answers alone;
* `KeyTable`: names are declaration keys in full, rewritten on the way out.
-/

import DeclGraph.Graph

namespace DeclGraph

/-- A declaration that a call name stands for. -/
structure Target where
  key : String
  kind : LinkKind
  deriving DecidableEq, Repr, Inhabited

/-- Which declarations a call name stands for; none means that the call is dropped. -/
abbrev Resolver := String → List Target

/-- One caller and the names its body calls, in source order. -/
structure Caller where
  key : String
  calls : List String
  deriving DecidableEq, Repr, Inhabited

/-! ### Resolution -/

/-- The links of a list of callers, and every name that any of them calls. -/
structure Resolution where
  links : List Link
  /-- resolved or not, in call order and with repetitions -/
  usedNames : List String
  deriving DecidableEq, Repr, Inhabited

namespace Resolution

/-- Whether some caller calls the name. -/
def isUsed (resolution : Resolution) (name : String) : Bool := resolution.usedNames.contains name

theorem isUsed_iff {resolution : Resolution} {name : String} :
    resolution.isUsed name = true ↔ name ∈ resolution.usedNames := by
  simp [isUsed]

end Resolution

namespace Caller

/-- The links of one call. -/
def linksOfCall (resolver : Resolver) (caller call : String) : List Link :=
  (resolver call).map fun target => ⟨caller, target.key, target.kind⟩

/-- The links of one caller, call by call. -/
def links (resolver : Resolver) (caller : Caller) : List Link :=
  caller.calls.flatMap (linksOfCall resolver caller.key)

end Caller

/-- Resolves every call of every caller, in order. -/
def resolveCalls (callers : List Caller) (resolver : Resolver) : Resolution where
  links := callers.flatMap (Caller.links resolver)
  usedNames := callers.flatMap Caller.calls

/-! ### Association lists -/

/-- The value last written for a key. -/
def lastFor (key : String) (entries : List (String × String)) : Option String :=
  (entries.reverse.find? fun entry => entry.1 == key).map Prod.snd

/-! ### The names of one file -/

/-- The declarations of one file that a call may name, each list in order of addition. -/
structure SymbolTable where
  /-- simple name and key of each member -/
  members : List (String × String) := []
  functions : List String := []
  /-- binding and qualified origin of each imported name -/
  imports : List (String × String) := []
  deriving DecidableEq, Repr, Inhabited

namespace SymbolTable

/-- A table that declares nothing. -/
def empty : SymbolTable := {}

/-- Adds a member under its simple name. -/
def addMember (table : SymbolTable) (key name : String) : SymbolTable :=
  { table with members := table.members ++ [(name, key)] }

/-- Adds a free function. -/
def addFunction (table : SymbolTable) (name : String) : SymbolTable :=
  { table with functions := table.functions ++ [name] }

/-- Binds an imported name to its origin; a later binding of the name replaces the origin. -/
def addImport (table : SymbolTable) (binding origin : String) : SymbolTable :=
  { table with imports := table.imports ++ [(binding, origin)] }

/-- The keys of the members with a simple name, in order of addition. -/
def memberKeys (table : SymbolTable) (name : String) : List String :=
  (table.members.filter fun member => member.1 == name).map Prod.snd

/-- Where an imported name comes from. -/
def importOrigin (table : SymbolTable) (binding : String) : Option String :=
  lastFor binding table.imports

/-- Members first, then free functions, then imported bindings; the first category wins. -/
def resolve (table : SymbolTable) : Resolver := fun call =>
  match table.memberKeys call with
  | key :: keys => (key :: keys).map fun key => ⟨key, .call⟩
  | [] =>
    if table.functions.contains call then [⟨call, .call⟩]
    else if table.imports.any fun entry => entry.1 == call then [⟨call, .importUse⟩]
    else []

end SymbolTable

/-! ### Names that are keys -/

/-- Declaration keys as calls spell them, each with the key that is emitted for it. -/
structure KeyTable where
  keys : List (String × String) := []
  deriving DecidableEq, Repr, Inhabited

namespace KeyTable

/-- A table without keys. -/
def empty : KeyTable := {}

/-- Adds a spelling; a later addition of the spelling replaces the emitted key. -/
def insert (table : KeyTable) (spelling emitted : String) : KeyTable :=
  { table with keys := table.keys ++ [(spelling, emitted)] }

/-- A call links to the key emitted for exactly its spelling. -/
def resolve (table : KeyTable) : Resolver := fun call =>
  match lastFor call table.keys with
  | some key => [⟨key, .call⟩]
  | none => []

end KeyTable

end DeclGraph
