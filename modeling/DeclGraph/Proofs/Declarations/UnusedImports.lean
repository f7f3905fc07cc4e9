/-
**Imports that nothing calls leave no trace.**

Calls are resolved against all imports of a file, and the imports that nothing calls are left out
afterwards. A lookup is made only for a name that some declaration calls, and for such a name it finds
the same with and without the other imports. So it does not matter when these are left out.

* `Declarations.Uncalled`: no member and no function calls a name;
* **`graph_withImports`**: the graph depends on the imports that are called, and on no others;
* **`graph_withImports_iff`**: leaving out imports keeps the graph exactly if nothing calls them.
-/

import DeclGraph.Proofs.Declarations.Graph
import DeclGraph.Proofs.Lists
import Mathlib.Data.List.Basic

namespace DeclGraph

namespace Declarations

variable {declarations : Declarations} {kept : List ImportDeclaration} {name : String}

/-! ### Names that nothing calls -/

/-- No member and no function calls the name. -/
def Uncalled (declarations : Declarations) (name : String) : Prop :=
  (∀ member ∈ declarations.members, name ∉ member.calls) ∧
    ∀ function ∈ declarations.functions, name ∉ function.calls

instance (declarations : Declarations) (name : String) : Decidable (declarations.Uncalled name) :=
  inferInstanceAs (Decidable (_ ∧ _))

theorem not_uncalled_iff : ¬ declarations.Uncalled name ↔ ∃ key, declarations.Calls key name := by
  unfold Uncalled Calls
  constructor
  · intro called
    by_contra none
    refine called ⟨fun member listed calls => none ⟨member.key, Or.inl ?_⟩,
      fun function listed calls => none ⟨function.name, Or.inr ?_⟩⟩
    · exact ⟨member, listed, rfl, calls⟩
    · exact ⟨function, listed, rfl, calls⟩
  · rintro ⟨_, ⟨member, listed, _, calls⟩ | ⟨function, listed, _, calls⟩⟩ ⟨members, functions⟩
    · exact members member listed calls
    · exact functions function listed calls

/-- A name is used unless nothing calls it. -/
theorem isUsed_eq (declarations : Declarations) (name : String) :
    declarations.resolution.isUsed name = !decide (declarations.Uncalled name) := by
  rw [Bool.eq_iff_iff, isUsed_resolution_iff, ← not_uncalled_iff]
  simp

/-! ### Other imports -/

/-- The declarations with other imports. -/
def withImports (declarations : Declarations) (imports : List ImportDeclaration) : Declarations :=
  { declarations with imports := imports }

/-- The imports that something calls, chosen before any call is resolved. -/
def calledImports (declarations : Declarations) : List ImportDeclaration :=
  declarations.imports.filter fun imported => !decide (declarations.Uncalled imported.binding)

theorem usedImports_eq (declarations : Declarations) :
    declarations.usedImports = declarations.calledImports := by
  unfold usedImports calledImports
  simp only [isUsed_eq]

/-- The imports do not decide what is called. -/
theorem calledImports_withImports (declarations : Declarations) (kept : List ImportDeclaration) :
    (declarations.withImports kept).calledImports =
      kept.filter fun imported => !decide (declarations.Uncalled imported.binding) := rfl

theorem mem_calledImports_iff {imported : ImportDeclaration} :
    imported ∈ declarations.calledImports ↔
      imported ∈ declarations.imports ∧ ¬ declarations.Uncalled imported.binding := by
  rw [calledImports, List.mem_filter, Bool.not_eq_true', decide_eq_false_iff_not]

section Same

variable (same : (declarations.withImports kept).calledImports = declarations.calledImports)

include same

/-- A name that is called stands for the same if the same imports are called. -/
theorem resolve_withImports (called : ¬ declarations.Uncalled name) :
    (declarations.withImports kept).table.resolve name = declarations.table.resolve name := by
  have listed : ∀ imported, imported.binding = name →
      (imported ∈ kept ↔ imported ∈ declarations.imports) := by
    rintro imported rfl
    have both : imported ∈ (declarations.withImports kept).calledImports ↔
        imported ∈ kept ∧ ¬ declarations.Uncalled imported.binding := mem_calledImports_iff
    rw [same, mem_calledImports_iff, and_iff_left called] at both
    exact (both.trans (and_iff_left called)).symm
  refine SymbolTable.resolve_congr ?_ ?_ ?_
  · rw [table_eq, table_eq]
    rfl
  · rw [table_eq, table_eq]
    exact Iff.rfl
  · rw [exists_mem_table_imports_iff, exists_mem_table_imports_iff]
    exact exists_congr fun imported =>
      ⟨fun ⟨isKept, named, fromModule⟩ => ⟨(listed imported named).mp isKept, named, fromModule⟩,
        fun ⟨isImport, named, fromModule⟩ => ⟨(listed imported named).mpr isImport, named, fromModule⟩⟩

/-- Links are made for called names only, so they stay the same. -/
theorem resolution_withImports :
    (declarations.withImports kept).resolution = declarations.resolution := by
  show resolveCalls declarations.callers (declarations.withImports kept).table.resolve =
    resolveCalls declarations.callers declarations.table.resolve
  refine resolveCalls_congr fun caller isCaller call called => resolve_withImports same ?_
  exact not_uncalled_iff.mpr
    ⟨caller.key, exists_caller_iff.mp ⟨caller, isCaller, rfl, called⟩⟩

/-- **The graph depends on the imports that are called, and on no others.** -/
theorem graph_withImports : (declarations.withImports kept).graph = declarations.graph := by
  have used : (declarations.withImports kept).usedImports = declarations.usedImports := by
    rw [usedImports_eq, usedImports_eq, same]
  unfold graph
  rw [used, resolution_withImports same]
  rfl

end Same

/-- The nodes of a graph show the imports that are called. -/
theorem length_calledImports_of_graph
    (same : (declarations.withImports kept).graph = declarations.graph) :
    (declarations.withImports kept).calledImports.length = declarations.calledImports.length := by
  have nodes := congrArg (fun graph => graph.nodes.length) same
  simp only [graph, withImports, List.length_append, List.length_map] at nodes
  rw [← usedImports_eq, ← usedImports_eq]
  exact Nat.add_left_cancel nodes

/-! ### Leaving out imports -/

/-- **Leaving out imports keeps the graph exactly if nothing calls their names**, whatever else has
these names. So the imports that nothing calls may as well be left out before any call is resolved,
and then no more of them are left out afterwards. -/
theorem graph_withImports_iff (declarations : Declarations) :
    (∀ kept, kept.Sublist declarations.imports →
      ((declarations.withImports kept).graph = declarations.graph ↔
        ∀ left ∈ declarations.imports.diff kept, declarations.Uncalled left.binding)) ∧
      (declarations.withImports declarations.calledImports).graph = declarations.graph ∧
      (declarations.withImports declarations.calledImports).usedImports =
        declarations.calledImports := by
  have again : (declarations.withImports declarations.calledImports).calledImports =
      declarations.calledImports := by
    rw [calledImports_withImports, calledImports, List.filter_filter]
    simp only [Bool.and_self]
  refine ⟨fun kept fewer => ?_, graph_withImports again, by rw [usedImports_eq, again]⟩
  have uncalled : (∀ left ∈ declarations.imports.diff kept, declarations.Uncalled left.binding) ↔
      (declarations.withImports kept).calledImports = declarations.calledImports := by
    rw [calledImports_withImports, calledImports, filter_eq_filter_iff_of_sublist fewer]
    simp
  rw [uncalled]
  refine ⟨fun same => ?_, graph_withImports⟩
  exact (fewer.filter _).eq_of_length (length_calledImports_of_graph same)

/-- A function that calls a name which two statements import, and two more imports. One of them has the
name of the function. -/
def twiceImported : Declarations where
  functions := [⟨"run", "def run(): dumps()", ["dumps"]⟩]
  imports := [⟨"os", "import os", none⟩, ⟨"dumps", "from json import dumps", some "json.dumps"⟩,
    ⟨"run", "from job import run", some "job.run"⟩, ⟨"dumps", "import dumps", none⟩]

/-- Of four imports, two may be left out, and none of the other two. -/
theorem twiceImported_graph :
    (twiceImported.withImports (twiceImported.imports.filter (·.binding = "dumps"))).graph =
        twiceImported.graph ∧
      (twiceImported.withImports (twiceImported.imports.take 3)).graph ≠ twiceImported.graph := by
  constructor
  · exact ((graph_withImports_iff twiceImported).1 _ List.filter_sublist).mpr (by decide)
  · exact mt ((graph_withImports_iff twiceImported).1 _ (List.take_sublist _ _)).mp (by decide)

end Declarations

end DeclGraph
