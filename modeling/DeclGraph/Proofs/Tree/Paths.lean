/-
**The paths of a tree.**

Taking entries from a list of waiting ones gives the paths of the files in the order of the
recursion. An entry stands under its name, behind the path of the directory, and all names in a
directory are different; so the paths of a tree differ in their components.

* **`Entry.files_eq_filesBelow`**: the loop and the recursion give the same paths;
* `Entry.pathsOfAll`: the paths of all entries, those of directories among them;
* `Spread`: paths under some names in a directory, no two of them the same;
* **`Builder.pairwise_pathsOfAll`**: no two entries of a tree have the same path.
-/

import DeclGraph.Proofs.Tree.Level
import DeclGraph.Proofs.Tree.Origin

namespace DeclGraph

variable {path : Path}

/-! ### The loop over waiting entries -/

namespace Entry

theorem filesOfAll_append (first second : List Entry) :
    filesOfAll (first ++ second) = filesOfAll first ++ filesOfAll second := by
  induction first with
  | nil => rfl
  | cons entry entries ih => rw [List.cons_append, filesOfAll, filesOfAll, ih, List.append_assoc]

/-- **Taking entries from a list of waiting ones gives the recursive order.** Every step takes one
entry, so the size of the waiting entries is enough steps. -/
theorem filesFrom_eq {steps : Nat} {found : List Path} {waiting : List Entry}
    (enough : sizeAll waiting ≤ steps) :
    filesFrom steps found waiting = found.reverse ++ filesOfAll waiting := by
  induction steps generalizing found waiting with
  | zero =>
    cases waiting with
    | nil => simp [filesFrom, filesOfAll]
    | cons entry entries =>
      obtain ⟨name, path, kind, children⟩ := entry
      cases children <;> simp only [sizeAll, size] at enough <;> omega
  | succ steps ih =>
    cases waiting with
    | nil => simp [filesFrom, filesOfAll]
    | cons entry entries =>
      obtain ⟨name, path, kind, children⟩ := entry
      cases children with
      | none =>
        rw [sizeAll, size] at enough
        rw [filesFrom, ih (by omega), filesOfAll, filesBelow, List.reverse_cons, List.append_assoc]
      | some children =>
        rw [sizeAll, size] at enough
        have left : sizeAll (children ++ entries) ≤ steps := by
          rw [sizeAll_append]
          omega
        rw [filesFrom, ih left, filesOfAll_append, filesOfAll, filesBelow]

/-- **The loop and the recursion give the same paths.** -/
theorem files_eq_filesBelow (entry : Entry) : entry.files = entry.filesBelow := by
  have enough : sizeAll [entry] ≤ entry.size := Nat.le_refl _
  rw [files, filesFrom_eq enough, filesOfAll, filesOfAll, List.append_nil]
  rfl

theorem flatMap_files (entries : List Entry) : entries.flatMap files = filesOfAll entries := by
  induction entries with
  | nil => rfl
  | cons entry entries ih => rw [List.flatMap_cons, ih, filesOfAll, files_eq_filesBelow]

/-! ### The paths of all entries -/

mutual

/-- The paths of an entry and of everything below it. -/
def pathsBelow : Entry → List Path
  | mk _ path _ none => [path]
  | mk _ path _ (some children) => path :: pathsOfAll children

/-- The paths of several entries and of everything below them. -/
def pathsOfAll : List Entry → List Path
  | [] => []
  | entry :: entries => entry.pathsBelow ++ pathsOfAll entries

end

theorem Fresh.pathsBelow_eq {entry : Entry} (fresh : entry.Fresh) :
    entry.pathsBelow = [entry.path] := by
  cases fresh <;> rfl

theorem pathsBelow_withChildren (children : List Entry) (entry : Entry) :
    (entry.withChildren children).pathsBelow = entry.path :: pathsOfAll children := by
  cases entry
  rfl

mutual

/-- The files are among the entries. -/
theorem filesBelow_sublist : ∀ entry : Entry, entry.filesBelow.Sublist entry.pathsBelow
  | mk _ _ _ none => List.Sublist.refl _
  | mk _ _ _ (some children) => (filesOfAll_sublist children).cons _

theorem filesOfAll_sublist : ∀ entries : List Entry,
    (filesOfAll entries).Sublist (pathsOfAll entries)
  | [] => .slnil
  | entry :: entries => (filesBelow_sublist entry).append (filesOfAll_sublist entries)

end

end Entry

/-! ### Different paths -/

theorem Path.same_eq_true_iff {other : Path} :
    path.same other = true ↔ path.components = other.components := by
  rw [same, beq_iff_eq]

theorem Path.same_eq_false_iff {other : Path} :
    path.same other = false ↔ path.components ≠ other.components := by
  rw [same, beq_eq_false_iff_ne]

namespace Tree

/-- **Paths that stand under some names in a directory**, no two of them the same. -/
structure Spread (directory : Path) (names : List String) (paths : List Path) : Prop where
  under : ∀ path ∈ paths, ∃ name ∈ names, ∃ rest,
    path.components = directory.components ++ .name name :: rest
  apart : paths.Pairwise fun path other => path.same other = false

namespace Spread

variable {directory : Path} {name : String} {names : List String} {paths : List Path}

theorem nil (directory : Path) (names : List String) : Spread directory names [] where
  under := by simp
  apart := .nil

theorem single (spelled : path.components = directory.components ++ [.name name]) :
    Spread directory [name] [path] where
  under := by
    intro other member
    rw [List.mem_singleton.mp member]
    exact ⟨name, List.mem_cons_self, [], spelled⟩
  apart := List.pairwise_singleton _ _

theorem mono {more : List String} (spread : Spread directory names paths) (fewer : names ⊆ more) :
    Spread directory more paths where
  under := by
    intro path member
    obtain ⟨name, isName, rest, spelled⟩ := spread.under path member
    exact ⟨name, fewer isName, rest, spelled⟩
  apart := spread.apart

/-- A directory and the paths below it stand under its name in the directory that holds it. -/
theorem above {deeper : Path} (spread : Spread deeper names paths)
    (spelled : deeper.components = directory.components ++ [.name name]) :
    Spread directory [name] (deeper :: paths) where
  under := by
    refine List.forall_mem_cons.mpr ⟨⟨name, List.mem_cons_self, [], spelled⟩, ?_⟩
    intro path member
    obtain ⟨other, _, rest, below⟩ := spread.under path member
    refine ⟨name, List.mem_cons_self, .name other :: rest, ?_⟩
    rw [below, spelled, List.append_assoc]
    rfl
  apart := by
    refine List.pairwise_cons.mpr ⟨fun path member => ?_, spread.apart⟩
    obtain ⟨other, _, rest, below⟩ := spread.under path member
    rw [Path.same_eq_false_iff, below]
    simp

/-- Paths under different names are different. -/
theorem append {more : List Path} (first : Spread directory [name] paths)
    (rest : Spread directory names more) (new : name ∉ names) :
    Spread directory (name :: names) (paths ++ more) where
  under := by
    intro path member
    rcases List.mem_append.mp member with here | later
    · exact (first.mono (List.cons_subset_cons _ (List.nil_subset _))).under path here
    · exact (rest.mono (List.subset_cons_self _ _)).under path later
  apart := by
    refine List.pairwise_append.mpr ⟨first.apart, rest.apart, fun path isFirst other isLater => ?_⟩
    obtain ⟨_, isName, behind, spelled⟩ := first.under path isFirst
    obtain ⟨otherName, isOther, otherBehind, otherSpelled⟩ := rest.under other isLater
    obtain rfl := List.mem_singleton.mp isName
    refine Path.same_eq_false_iff.mpr fun same => new ?_
    rw [spelled, otherSpelled, List.append_cancel_left_eq, List.cons.injEq,
      Component.name.injEq] at same
    exact same.1 ▸ isOther

end Spread

/-- **What grows from entries with different names is spread under these names:** what grows from
one of them stands under its name, all else under the other names. -/
theorem Grown.spread {isLink : Path → Bool} {directory : Path} {entries tree : List Entry}
    (grown : Grown isLink
      (fun directory tree => ∃ names, Spread directory names (Entry.pathsOfAll tree)) entries tree)
    (fresh : ∀ entry ∈ entries, entry.Fresh)
    (spelled : ∀ entry ∈ entries,
      entry.path.components = directory.components ++ [.name entry.name])
    (distinct : (entries.map Entry.name).Nodup) :
    Spread directory (entries.map Entry.name) (Entry.pathsOfAll tree) := by
  induction grown with
  | cut => exact .nil _ _
  | kept _ ih =>
    obtain ⟨new, distinctRest⟩ := List.nodup_cons.mp distinct
    obtain ⟨freshFirst, freshRest⟩ := List.forall_mem_cons.mp fresh
    obtain ⟨here, spelledRest⟩ := List.forall_mem_cons.mp spelled
    rw [Entry.pathsOfAll, freshFirst.pathsBelow_eq]
    exact (Spread.single here).append (ih freshRest spelledRest distinctRest) new
  | filled _ _ told _ ih =>
    obtain ⟨new, distinctRest⟩ := List.nodup_cons.mp distinct
    obtain ⟨here, spelledRest⟩ := List.forall_mem_cons.mp spelled
    obtain ⟨names, below⟩ := told
    rw [Entry.pathsOfAll, Entry.pathsBelow_withChildren]
    exact (below.above here).append
      (ih (List.forall_mem_cons.mp fresh).2 spelledRest distinctRest) new
  | dropped _ ih =>
    have rest := ih (List.forall_mem_cons.mp fresh).2 (List.forall_mem_cons.mp spelled).2
      (List.nodup_cons.mp distinct).2
    exact rest.mono (List.subset_cons_self _ _)

variable {files : FileSystem} {builder : Builder} {root : Path} {tree : List Entry}

theorem Builder.list_eq_ok_iff : builder.list files root = .ok tree ↔
    files.isDirectory root = true ∧
      Tree.list (fun _ => builder.level files) files.isLink builder.limits root = .ok tree := by
  unfold Builder.list
  split_ifs with directory <;> simp [directory]

/-- **No two entries of a tree have the same path.** -/
theorem Builder.pairwise_pathsOfAll (proper : files.Proper)
    (distinct : (files.items.map Prod.fst).Nodup) (lists : builder.list files root = .ok tree) :
    (Entry.pathsOfAll tree).Pairwise fun path other => path.same other = false := by
  obtain ⟨_, lists⟩ := Builder.list_eq_ok_iff.mp lists
  suffices spread : ∃ names, Spread root names (Entry.pathsOfAll tree) by
    obtain ⟨_, spread⟩ := spread
    exact spread.apart
  refine list_induction (motive := fun directory tree =>
    ∃ names, Spread directory names (Entry.pathsOfAll tree)) ?_ lists
  intro directory entries tree reads grown
  refine ⟨entries.map Entry.name, grown.spread (fun entry => fresh_of_mem_level reads) ?_
    (nodup_level distinct reads)⟩
  intro entry member
  obtain ⟨isName, path⟩ := spelled_of_mem_level proper reads member
  rw [path, Path.components_join isName]

/-- No two files of a tree have the same path. -/
theorem Builder.pairwise_filesOfAll (proper : files.Proper)
    (distinct : (files.items.map Prod.fst).Nodup) (lists : builder.list files root = .ok tree) :
    (Entry.filesOfAll tree).Pairwise fun path other => path.same other = false :=
  (pairwise_pathsOfAll proper distinct lists).sublist (Entry.filesOfAll_sublist tree)

end Tree

end DeclGraph
