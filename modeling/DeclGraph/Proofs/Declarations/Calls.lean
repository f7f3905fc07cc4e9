/-
**Which links the calls of a file make.**

* `Tree.CallsName`: a node is a call of a name;
* **`Tree.mem_callNames_iff`**: the calls of a statement are those anywhere in it;
* `CallsIn`: a name is called in a statement that is collected under a key;
* `MemberNamed`, `FunctionNamed`: what a name stands for, members before functions, and functions
  before imported names;
* **`call_links_ofTree`**: the links of calls and of uses of imports, told without the traversal,
  the table of names or the filter of imports.
-/

import DeclGraph.Proofs.Declarations.Collected

namespace DeclGraph

namespace Syntax.Tree

/-! ### Calls -/

/-- A node calls a name: what it calls is the name itself, or an attribute with the name as its last
part. -/
def CallsName (node : Tree) (name : String) : Prop :=
  node.kind = .call ∧ ∃ callee, node.part? .function = some callee ∧
    (callee.kind = .identifier ∧ callee.text = name ∨
      callee.kind = .attribute ∧ ∃ last, callee.part? .attribute = some last ∧ last.text = name)

theorem calledName?_eq_some_iff {node : Tree} {name : String} :
    node.calledName? = some name ↔ node.CallsName name := by
  unfold calledName? CallsName
  by_cases isCall : node.kind = .call
  · rw [if_pos isCall, Option.bind_eq_some_iff]
    simp only [isCall, true_and]
    refine exists_congr fun callee => and_congr_right fun _ => ?_
    cases kind : callee.kind <;> simp
  · simp [isCall]

/-- **The calls of a tree are those of the nodes that stand in it.** -/
theorem mem_callNames_iff {tree : Tree} {name : String} :
    name ∈ tree.callNames ↔ ∃ node, Within node tree ∧ node.CallsName name := by
  unfold callNames
  simp only [List.mem_filterMap, mem_namedNodes_iff, calledName?_eq_some_iff]

end Syntax.Tree

namespace Declarations

open Syntax (Tree)
open Syntax.Tree (Within)

variable {lines : List String} {tree : Tree} {key name : String}

/-! ### What names stand for -/

/-- A member with a name is collected under a key. -/
def MemberNamed (tree : Tree) (name key : String) : Prop :=
  ∃ statement definition owner, MemberIn tree statement definition owner name ∧
    owner ++ "." ++ name = key

/-- A function with a name stands right in a module. -/
def FunctionNamed (tree : Tree) (name : String) : Prop :=
  ∃ statement definition, FunctionIn tree statement definition name

theorem namesMember_ofTree_iff :
    (ofTree lines tree).NamesMember name key ↔ MemberNamed tree name key := by
  unfold NamesMember MemberNamed
  simp only [mem_members_ofTree_iff]
  constructor
  · rintro ⟨_, ⟨statement, definition, owner, name, isMember, rfl⟩, rfl, rfl⟩
    exact ⟨statement, definition, owner, isMember, rfl⟩
  · rintro ⟨statement, definition, owner, isMember, rfl⟩
    exact ⟨_, ⟨statement, definition, owner, name, isMember, rfl⟩, rfl, rfl⟩

theorem namesFunction_ofTree_iff :
    (ofTree lines tree).NamesFunction name ↔ FunctionNamed tree name := by
  unfold NamesFunction FunctionNamed
  simp only [mem_functions_ofTree_iff]
  constructor
  · rintro ⟨_, ⟨statement, definition, name, isFunction, rfl⟩, rfl⟩
    exact ⟨statement, definition, isFunction⟩
  · rintro ⟨statement, definition, isFunction⟩
    exact ⟨_, ⟨statement, definition, name, isFunction, rfl⟩, rfl⟩

/-! ### Calls under a key -/

/-- A statement is collected under a key: as a member under the name of its owner and its own, as a
function under its name. -/
def CollectedAs (tree statement : Tree) (key : String) : Prop :=
  (∃ definition owner name, MemberIn tree statement definition owner name ∧
    owner ++ "." ++ name = key) ∨ ∃ definition, FunctionIn tree statement definition key

/-- A name is called anywhere in a statement that is collected under a key. -/
def CallsIn (tree : Tree) (key name : String) : Prop :=
  ∃ statement node, CollectedAs tree statement key ∧ Within node statement ∧ node.CallsName name

/-- **The names called under a key are those called anywhere in its statements.** -/
theorem calls_ofTree_iff : (ofTree lines tree).Calls key name ↔ CallsIn tree key name := by
  unfold Calls CallsIn CollectedAs
  simp only [mem_members_ofTree_iff, mem_functions_ofTree_iff]
  constructor
  · rintro (⟨_, ⟨statement, definition, owner, name, isMember, rfl⟩, rfl, called⟩ |
      ⟨_, ⟨statement, definition, name, isFunction, rfl⟩, rfl, called⟩)
    · obtain ⟨node, inside, calls⟩ := Syntax.Tree.mem_callNames_iff.mp called
      exact ⟨statement, node, Or.inl ⟨definition, owner, name, isMember, rfl⟩, inside, calls⟩
    · obtain ⟨node, inside, calls⟩ := Syntax.Tree.mem_callNames_iff.mp called
      exact ⟨statement, node, Or.inr ⟨definition, isFunction⟩, inside, calls⟩
  · rintro ⟨statement, node, ⟨definition, owner, own, isMember, rfl⟩ | ⟨definition, isFunction⟩,
      inside, calls⟩
    · exact Or.inl ⟨_, ⟨statement, definition, owner, own, isMember, rfl⟩, rfl,
        Syntax.Tree.mem_callNames_iff.mpr ⟨node, inside, calls⟩⟩
    · exact Or.inr ⟨_, ⟨statement, definition, key, isFunction, rfl⟩, rfl,
        Syntax.Tree.mem_callNames_iff.mpr ⟨node, inside, calls⟩⟩

/-! ### Links -/

/-- **The links of the calls of a file.** A call under a key makes a link to every member with the
name called. Where no member has the name, it makes a link to the function with the name, and where no
function has it either, to the imported name. There are no other such links. -/
theorem call_links_ofTree (lines : List String) (tree : Tree) :
    (∀ key target, ⟨key, target, .call⟩ ∈ (ofTree lines tree).graph.links ↔
      ∃ name, CallsIn tree key name ∧ (MemberNamed tree name target ∨
        (¬ ∃ member, MemberNamed tree name member) ∧ target = name ∧ FunctionNamed tree name)) ∧
    ∀ key name, ⟨key, name, .importUse⟩ ∈ (ofTree lines tree).graph.links ↔
      CallsIn tree key name ∧ (¬ ∃ member, MemberNamed tree name member) ∧
        ¬ FunctionNamed tree name ∧ BindsFrom tree name := by
  constructor
  · intro key target
    rw [call_mem_graph_links_iff]
    simp only [calls_ofTree_iff, namesMember_ofTree_iff, namesFunction_ofTree_iff, not_exists]
  · intro key name
    rw [importUse_mem_graph_links_iff, calls_ofTree_iff, namesFunction_ofTree_iff,
      namesImport_ofTree_iff, not_exists]
    simp only [namesMember_ofTree_iff]

end Declarations

end DeclGraph
