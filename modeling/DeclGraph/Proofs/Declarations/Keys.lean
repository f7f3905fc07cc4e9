/-
**Which nodes share a key.**

A member is told by the name of its owner, a point and its own name; everything else is told by its
name. No name holds a point, so a member never shares its key with anything but a member, and two
members share one exactly if they have the same owner and the same name.

* `Declarations.SimplyNamed`: the names of declarations and of calls hold no point;
* **`simplyNamed_ofTree`**: so it is for what is collected from a sound tree;
* `Declarations.Distinct`: no two declarations have the same name in the same place;
* `same_key_iff`, **`nodup_keys_iff`**: what has the same key;
* **`Extraction.keys_python`**: the keys of an accepted source;
* **`Extraction.redefinitions_share_keys`**: a source whose keys are not distinct.
-/

import DeclGraph.Extraction.Python
import DeclGraph.Proofs.Declarations.Closed
import DeclGraph.Proofs.Syntax.StatementNames
import Mathlib.Data.List.Nodup

namespace DeclGraph

open Text (Undotted)

/-! ### Names in sound trees -/

namespace Syntax.Tree

variable {tree node part : Tree} {name : String}

theorem Sound.undotted (sound : tree.Sound) (tells : tree.Tells name) : Undotted name := by
  obtain ⟨own, _⟩ := sound
  exact own name tells

theorem Sound.child (sound : tree.Sound) (member : part ∈ tree.children) : part.Sound := by
  obtain ⟨_, below⟩ := sound
  exact below part member

theorem Sound.part? (sound : tree.Sound) {role : Role} (isPart : tree.part? role = some part) :
    part.Sound :=
  sound.child (List.mem_of_find?_eq_some isPart)

theorem Sound.namedChild (sound : tree.Sound) (member : part ∈ tree.namedChildren) :
    part.Sound :=
  sound.child (List.mem_filter.mp member).1

theorem Sound.within (sound : tree.Sound) (inside : Within node tree) : node.Sound := by
  induction inside with
  | here => exact sound
  | child member _ ih => exact ih (sound.namedChild member)

theorem Sound.undotted_of_definesFunction {definition : Tree} (sound : tree.Sound)
    (defines : tree.DefinesFunction definition name) : Undotted name := by
  obtain ⟨⟨isFunction, rfl⟩ | ⟨_, isPart, isFunction⟩, named⟩ := defines
  · exact sound.undotted (Or.inl ⟨Or.inr isFunction, named⟩)
  · exact (sound.part? isPart).undotted (Or.inl ⟨Or.inr isFunction, named⟩)

end Syntax.Tree

namespace Declarations

open Syntax (Tree)

variable {declarations : Declarations} {lines : List String} {tree : Tree}

/-- **The names of declarations and of calls hold no point.** -/
structure SimplyNamed (declarations : Declarations) : Prop where
  type : ∀ type ∈ declarations.types, Undotted type.name
  member : ∀ member ∈ declarations.members, Undotted member.owner ∧ Undotted member.name
  function : ∀ function ∈ declarations.functions, Undotted function.name
  call : ∀ {key name}, declarations.Calls key name → Undotted name

theorem undotted_of_classIn (sound : tree.Sound) {type : Tree} {name : String}
    (isClass : ClassIn tree type name) : Undotted name := by
  obtain ⟨inside, isClass, named⟩ := isClass
  exact (sound.within inside).undotted (Or.inl ⟨Or.inl isClass, named⟩)

theorem sound_of_memberIn (sound : tree.Sound) {statement definition : Tree} {owner name : String}
    (isMember : MemberIn tree statement definition owner name) : statement.Sound := by
  obtain ⟨type, body, ⟨inside, _⟩, isBody, inBody, _⟩ := isMember
  exact ((sound.within inside).part? isBody).namedChild inBody

/-- **No name of a declaration or call that is collected from a sound tree holds a point.** -/
theorem simplyNamed_ofTree (sound : tree.Sound) : (ofTree lines tree).SimplyNamed where
  type := by
    intro type listed
    obtain ⟨_, isClass⟩ := exists_type_ofTree_iff.mp ⟨type, listed, rfl⟩
    exact undotted_of_classIn sound isClass
  member := by
    intro member listed
    obtain ⟨statement, definition, owner, name, isMember, rfl⟩ := mem_members_ofTree_iff.mp listed
    have isSound := sound_of_memberIn sound isMember
    obtain ⟨type, body, isClass, _, _, defines⟩ := isMember
    exact ⟨undotted_of_classIn sound isClass, isSound.undotted_of_definesFunction defines⟩
  function := by
    intro function listed
    obtain ⟨statement, definition, name, ⟨inModule, defines⟩, rfl⟩ :=
      mem_functions_ofTree_iff.mp listed
    exact (sound.namedChild inModule).undotted_of_definesFunction defines
  call := by
    intro key name called
    obtain ⟨statement, node, collected, inside, calls⟩ := calls_ofTree_iff.mp called
    have isSound : statement.Sound := by
      rcases collected with ⟨_, _, _, isMember, _⟩ | ⟨_, inModule, _⟩
      · exact sound_of_memberIn sound isMember
      · exact sound.namedChild inModule
    exact (isSound.within inside).undotted (Or.inr calls)

/-! ### Keys -/

/-- The names of everything but members. -/
def freeNames (declarations : Declarations) : List String :=
  declarations.types.map TypeDeclaration.name ++
    (declarations.functions.map FunctionDeclaration.name ++
      declarations.usedImports.map ImportDeclaration.binding)

/-- **No two declarations have the same name in the same place**: classes, functions and used
imports all have names of their own, and so have the members of each class. -/
structure Distinct (declarations : Declarations) : Prop where
  free : declarations.freeNames.Nodup
  members : (declarations.members.map fun member => (member.owner, member.name)).Nodup

namespace SimplyNamed

variable (simple : declarations.SimplyNamed)

include simple

theorem undotted_of_mem_freeNames {name : String} (listed : name ∈ declarations.freeNames) :
    Undotted name := by
  simp only [freeNames, List.mem_append, List.mem_map] at listed
  rcases listed with ⟨type, listed, rfl⟩ | ⟨function, listed, rfl⟩ | ⟨imported, used, rfl⟩
  · exact simple.type type listed
  · exact simple.function function listed
  · obtain ⟨_, called⟩ := isUsed_resolution_iff.mp (List.mem_filter.mp used).2
    exact simple.call called

/-- A node that is no member has its name as its key. -/
theorem node_cases {node : Node} (listed : node ∈ declarations.graph.nodes) :
    (∃ member ∈ declarations.members, node = member.node) ∨
      node.kind ≠ .member ∧ node.key = node.name ∧ Undotted node.key := by
  have undotted : node.key ∈ declarations.freeNames → Undotted node.key :=
    simple.undotted_of_mem_freeNames
  simp only [freeNames, List.mem_append, List.mem_map] at undotted
  rcases mem_graph_nodes_iff.mp listed with ⟨type, isType, rfl⟩ | ⟨member, isMember, rfl⟩ |
    ⟨function, isFunction, rfl⟩ | ⟨imported, used, rfl⟩
  · exact Or.inr ⟨nofun, rfl, undotted (Or.inl ⟨type, isType, rfl⟩)⟩
  · exact Or.inl ⟨member, isMember, rfl⟩
  · exact Or.inr ⟨nofun, rfl, undotted (Or.inr (Or.inl ⟨function, isFunction, rfl⟩))⟩
  · exact Or.inr ⟨nofun, rfl, undotted (Or.inr (Or.inr ⟨imported, used, rfl⟩))⟩

omit simple in
theorem toList_key (member : MemberDeclaration) :
    member.key.toList = member.owner.toList ++ '.' :: member.name.toList := by
  simp [MemberDeclaration.key]

omit simple in
theorem not_undotted_key (member : MemberDeclaration) : ¬ Undotted member.key := by
  intro undotted
  refine undotted ?_
  rw [toList_key]
  exact List.mem_append_right _ List.mem_cons_self

/-- **Members with the same key have the same owner and the same name.** -/
theorem same_key_iff {first second : MemberDeclaration}
    (listed : first ∈ declarations.members) :
    first.key = second.key ↔ first.owner = second.owner ∧ first.name = second.name := by
  rw [← String.toList_inj, toList_key, toList_key, List.append_cons_inj_of_notMem,
    String.toList_inj, String.toList_inj]
  · simp
  · exact (simple.member first listed).1
  · exact (simple.member first listed).2

/-- **Nodes with the same key have the same name**, and all or none of them are members. -/
theorem same_of_key_eq {node other : Node} (listed : node ∈ declarations.graph.nodes)
    (otherListed : other ∈ declarations.graph.nodes) (same : node.key = other.key) :
    node.name = other.name ∧ (node.kind = .member ↔ other.kind = .member) := by
  rcases simple.node_cases listed with ⟨member, isMember, rfl⟩ | ⟨free, named, undotted⟩ <;>
    rcases simple.node_cases otherListed with ⟨second, isSecond, rfl⟩ | ⟨alsoFree, alsoNamed, too⟩
  · exact ⟨((simple.same_key_iff isMember).mp same).2, Iff.rfl⟩
  · rw [← same] at too
    exact absurd too (not_undotted_key member)
  · rw [same] at undotted
    exact absurd undotted (not_undotted_key second)
  · exact ⟨by rw [← named, same, alsoNamed], iff_of_false free alsoFree⟩

theorem nodup_memberKeys_iff :
    (declarations.members.map MemberDeclaration.key).Nodup ↔
      (declarations.members.map fun member => (member.owner, member.name)).Nodup := by
  rw [List.Nodup, List.Nodup, List.pairwise_map, List.pairwise_map]
  refine List.Pairwise.iff_of_mem fun listed _ => ?_
  rw [ne_eq, ne_eq, simple.same_key_iff listed, Prod.mk.injEq]

/-- **When the keys of the nodes are distinct.** -/
theorem nodup_keys_iff :
    (declarations.graph.nodes.map Node.key).Nodup ↔ declarations.Distinct := by
  have keys : (declarations.graph.nodes.map Node.key).Perm
      (declarations.freeNames ++ declarations.members.map MemberDeclaration.key) := by
    simp only [graph, freeNames, List.map_append, List.map_map, List.append_assoc]
    exact (List.perm_append_left_iff _).mpr
      (List.perm_append_comm.trans (by rw [List.append_assoc]; exact .rfl))
  have apart : ∀ name ∈ declarations.freeNames,
      ∀ key ∈ declarations.members.map MemberDeclaration.key, name ≠ key := by
    intro name listed key isKey
    obtain ⟨member, _, rfl⟩ := List.mem_map.mp isKey
    rintro rfl
    exact not_undotted_key member (simple.undotted_of_mem_freeNames listed)
  rw [keys.nodup_iff, List.nodup_append, simple.nodup_memberKeys_iff]
  constructor
  · rintro ⟨free, members, _⟩
    exact ⟨free, members⟩
  · rintro ⟨free, members⟩
    exact ⟨free, members, apart⟩

end SimplyNamed

end Declarations

/-- Where keys are distinct, a node is found by its key. -/
theorem Graph.node?_key {graph : Graph} (distinct : (graph.nodes.map Node.key).Nodup) {node : Node}
    (listed : node ∈ graph.nodes) : graph.node? node.key = some node := by
  unfold node?
  cases found : graph.nodes.find? fun other => other.key == node.key with
  | none => exact absurd (List.find?_eq_none.mp found node listed) (by simp)
  | some other =>
    have same : other.key = node.key := by simpa using List.find?_some found
    rw [List.inj_on_of_nodup_map distinct (List.mem_of_find?_eq_some found) listed same]

namespace Extraction

variable {path : Path} {source : String} {graph : Graph}

/-- **The keys of an accepted source.** Nodes with the same key have the same name, and all or none
of them are members. The keys are distinct exactly if classes, functions and used imports all have
names of their own and no class has two members of one name, where classes of one name count as one;
and every node is then found by its key. -/
theorem keys_python (accepted : python path source = .ok graph) :
    (∀ node ∈ graph.nodes, ∀ other ∈ graph.nodes, node.key = other.key →
        node.name = other.name ∧ (node.kind = .member ↔ other.kind = .member)) ∧
      ((graph.nodes.map Node.key).Nodup ↔
        (Declarations.ofTree (Text.lines source) (.ofSource source)).Distinct) ∧
      ((graph.nodes.map Node.key).Nodup →
        ∀ node ∈ graph.nodes, graph.node? node.key = some node) := by
  have simple : (Declarations.ofTree (Text.lines source) (.ofSource source)).SimplyNamed :=
    Declarations.simplyNamed_ofTree (Syntax.Tree.sound_ofSource source)
  obtain rfl := graph_of_python accepted
  exact ⟨fun node listed other otherListed => simple.same_of_key_eq listed otherListed,
    simple.nodup_keys_iff, fun distinct node => Graph.node?_key distinct⟩

/-! ### Examples -/

def classBesideFunction : String := "class A:\n def f():pass\ndef f():pass"

/-- A member and a function may have the same name. -/
theorem member_beside_function : ∃ graph, python ⟨"a.py"⟩ classBesideFunction = .ok graph ∧
    (graph.nodes.map Node.key).Nodup := by
  have accepted : python ⟨"a.py"⟩ classBesideFunction = .ok _ := python_of_valid (by decide +kernel)
  refine ⟨_, accepted, (keys_python accepted).2.1.mpr ⟨?_, ?_⟩⟩
  · decide +kernel
  · decide +kernel

/-- A class with two members of one name, and a function that is defined twice. -/
def redefinitions : String :=
  "class A:\n def x():pass\n def x():pass\ndef f():pass\ndef f():pass"

/-- **An accepted source whose keys are not distinct.** -/
theorem redefinitions_share_keys : ∃ graph, python ⟨"a.py"⟩ redefinitions = .ok graph ∧
    graph.nodes.map Node.key = ["A", "A.x", "A.x", "f", "f"] ∧
      ¬ (graph.nodes.map Node.key).Nodup := by
  refine ⟨_, python_of_valid (by decide +kernel), ?_⟩
  have keys : (Declarations.ofTree (Text.lines redefinitions)
      (.ofSource redefinitions)).graph.nodes.map Node.key = ["A", "A.x", "A.x", "f", "f"] := by
    decide +kernel
  rw [keys]
  exact ⟨rfl, by decide⟩

end Extraction

end DeclGraph
