/-
**One level of a directory.**

A level has one entry for each name in the directory that is listed. In a file system where no
location is told twice the names are different, and so their order is all that a level depends on.

* `FileSystem.names_eq_ok_iff`: what the names in a directory are;
* `Builder.accepts_ofExtensions_iff`: the files that are listed;
* `Builder.mem_level_iff`: the entries of a level;
* `Builder.nodup_level`: their names are different;
* **`AgreeOn.level_eq`**: a level depends on the contents of no file.
-/

import DeclGraph.Proofs.FileSystem.Contents
import DeclGraph.Proofs.FileSystem.Resolution
import DeclGraph.Tree.Directory
import Mathlib.Data.List.Nodup
import Mathlib.Data.String.Basic
import Mathlib.Tactic.SplitIfs

namespace DeclGraph

open FileSystem

variable {files : FileSystem} {path : Path} {location : Location} {name : String}

/-! ### The names in a directory -/

namespace FileSystem

theorem names_eq_ok_iff {found : List String} :
    files.names path = .ok found ↔
      ∃ location, files.resolve true path = .ok location ∧
        (∃ mode, files.item? location = some (.folder mode) ∧ mode.readable = true) ∧
          files.namesIn location = found := by
  unfold names
  cases files.resolve true path with
  | error fault => simp [bind, Except.bind]
  | ok location =>
    simp only [bind, Except.bind, Except.ok.injEq, exists_eq_left']
    cases files.item? location with
    | none => simp
    | some item =>
      cases item with
      | folder mode => by_cases readable : mode.readable <;> simp [readable]
      | _ => simp

theorem nameIn?_eq_some_iff {directory : Location} :
    nameIn? directory location = some name ↔ location = directory ++ [name] := by
  unfold nameIn?
  cases last : location.getLast? with
  | none =>
    rw [List.getLast?_eq_none_iff] at last
    simp [last]
  | some other =>
    obtain ⟨above, rfl⟩ := List.getLast?_eq_some_iff.mp last
    simp [List.append_eq_append_iff_of_size_eq_right]

/-- The names in a directory are those of the items in it. -/
theorem mem_namesIn_iff : name ∈ files.namesIn location ↔
    (files.item? (location ++ [name])).isSome := by
  rw [isSome_item?_iff]
  simp [namesIn, nameIn?_eq_some_iff]

theorem nodup_namesIn (distinct : (files.items.map Prod.fst).Nodup) (location : Location) :
    (files.namesIn location).Nodup := by
  have same : files.namesIn location =
      (files.items.map Prod.fst).filterMap (nameIn? location) := by
    rw [List.filterMap_map]
    rfl
  rw [same]
  refine distinct.filterMap fun first second name isFirst isSecond => ?_
  rw [nameIn?_eq_some_iff.mp isFirst, nameIn?_eq_some_iff.mp isSecond]

theorem Proper.isName_of_mem_names (proper : files.Proper) {names : List String}
    (isNames : files.names path = .ok names) (member : name ∈ names) : IsName name := by
  obtain ⟨location, _, _, rfl⟩ := names_eq_ok_iff.mp isNames
  exact proper.named _ (mem_namesIn_iff.mp member) name (by simp)

end FileSystem

/-! ### The entries of a level -/

namespace Tree.Builder

variable {builder : Builder} {directory : Path} {entries : List Entry} {entry : Entry}

/-- A file is listed if its extension is one of the given ones without the points in front. -/
theorem accepts_ofExtensions_iff {extensions : List String} {limits : Limits} {path : Path} :
    (ofExtensions extensions limits).accepts path = true ↔
      ∃ extension ∈ extensions, path.extension? = some (withoutPoints extension) := by
  unfold accepts ofExtensions
  cases path.extension? <;> simp [eq_comm]

/-- Entries in the order of their names are in that order. -/
theorem pairwise_byName (entries : List Entry) :
    (byName entries).Pairwise fun entry other => entry.name ≤ other.name := by
  refine (List.pairwise_mergeSort ?_ ?_ entries).imp of_decide_eq_true
  · intro first second third before behind
    exact decide_eq_true (le_trans (of_decide_eq_true before) (of_decide_eq_true behind))
  · intro first second
    simpa using le_total first.name second.name

/-- What is listed for a name. -/
theorem entry?_eq_some_iff {name : String} :
    builder.entry? files directory name = some entry ↔
      files.isDirectory (directory.join ⟨name⟩) = true ∧
          entry = .directory name (directory.join ⟨name⟩) ∨
        files.isDirectory (directory.join ⟨name⟩) = false ∧
          builder.accepts (directory.join ⟨name⟩) = true ∧
          entry = .file name (directory.join ⟨name⟩) := by
  unfold entry?
  dsimp only
  split_ifs with directory accepted
  · simp [directory, eq_comm (a := entry)]
  · simp [directory, accepted, eq_comm (a := entry)]
  · simp [directory, accepted]

/-- The entry for a name has that name, and stands under it in the directory. -/
theorem spelled_of_isEntry (isEntry : builder.entry? files directory name = some entry) :
    entry.name = name ∧ entry.path = directory.join ⟨name⟩ ∧ entry.Fresh := by
  rcases entry?_eq_some_iff.mp isEntry with ⟨_, rfl⟩ | ⟨_, _, rfl⟩
  · exact ⟨rfl, rfl, .directory _ _⟩
  · exact ⟨rfl, rfl, .file _ _⟩

theorem level_eq_ok_iff : builder.level files directory = .ok entries ↔
    ∃ names, files.names directory = .ok names ∧
      byName ((names.filterMap (builder.entry? files directory)).filter
          fun entry => entry.isDirectory) ++
        byName ((names.filterMap (builder.entry? files directory)).filter
          fun entry => !entry.isDirectory) = entries := by
  unfold level
  cases files.names directory <;> simp [bind, Except.bind, pure, Except.pure]

/-- A level has the entries for the names in the directory, in some order. -/
theorem perm_level {names : List String} (isNames : files.names directory = .ok names)
    (reads : builder.level files directory = .ok entries) :
    entries.Perm (names.filterMap (builder.entry? files directory)) := by
  obtain ⟨found, isFound, rfl⟩ := level_eq_ok_iff.mp reads
  rw [isNames] at isFound
  cases isFound
  exact ((List.mergeSort_perm _ _).append (List.mergeSort_perm _ _)).trans
    (List.filter_append_perm _ _)

theorem mem_level_iff (reads : builder.level files directory = .ok entries) :
    entry ∈ entries ↔ ∃ names, files.names directory = .ok names ∧
      ∃ name ∈ names, builder.entry? files directory name = some entry := by
  obtain ⟨names, isNames, _⟩ := level_eq_ok_iff.mp reads
  rw [(perm_level isNames reads).mem_iff, List.mem_filterMap, isNames]
  simp

theorem fresh_of_mem_level (reads : builder.level files directory = .ok entries)
    (member : entry ∈ entries) : entry.Fresh := by
  obtain ⟨_, _, _, _, isEntry⟩ := (mem_level_iff reads).mp member
  exact (spelled_of_isEntry isEntry).2.2

/-- An entry stands under its name in its directory. -/
theorem spelled_of_mem_level (proper : files.Proper)
    (reads : builder.level files directory = .ok entries) (member : entry ∈ entries) :
    IsName entry.name ∧ entry.path = directory.join ⟨entry.name⟩ := by
  obtain ⟨names, isNames, name, isName, isEntry⟩ := (mem_level_iff reads).mp member
  obtain ⟨rfl, path, _⟩ := spelled_of_isEntry isEntry
  exact ⟨proper.isName_of_mem_names isNames isName, path⟩

/-- The names of a level are different. -/
theorem nodup_level (distinct : (files.items.map Prod.fst).Nodup)
    (reads : builder.level files directory = .ok entries) : (entries.map Entry.name).Nodup := by
  obtain ⟨names, isNames, _⟩ := level_eq_ok_iff.mp reads
  obtain ⟨location, _, _, rfl⟩ := names_eq_ok_iff.mp isNames
  rw [((perm_level isNames reads).map Entry.name).nodup_iff, List.map_filterMap]
  refine (nodup_namesIn distinct location).filterMap fun first second name isFirst isSecond => ?_
  obtain ⟨entry, isEntry, rfl⟩ := Option.map_eq_some_iff.mp isFirst
  obtain ⟨other, isOther, same⟩ := Option.map_eq_some_iff.mp isSecond
  rw [← (spelled_of_isEntry isEntry).1, ← (spelled_of_isEntry isOther).1, same]

/-- A directory with one name in it. -/
theorem level_of_single {entry : Entry} (reads : files.names directory = .ok [name])
    (isEntry : builder.entry? files directory name = some entry) :
    builder.level files directory = .ok [entry] := by
  rw [level, reads]
  cases kind : entry.isDirectory <;>
    simp [bind, Except.bind, pure, Except.pure, isEntry, kind, byName]

end Tree.Builder

/-! ### Levels and the contents of files -/

section Agree

variable {watched : Location → Prop} {other : FileSystem}

/-- The names in a directory are the same whatever files hold, except for their order: only a
directory has names, and it is the same one in both. -/
theorem FileSystem.AgreeOn.names_cases (agree : AgreeOn watched files other)
    (distinct : (files.items.map Prod.fst).Nodup)
    (distinctOther : (other.items.map Prod.fst).Nodup) (path : Path) :
    (∃ fault, files.names path = .error fault ∧ other.names path = .error fault) ∨
      ∃ found otherFound, files.names path = .ok found ∧ other.names path = .ok otherFound ∧
        otherFound.Perm found := by
  have perm : ∀ location, (other.namesIn location).Perm (files.namesIn location) := by
    intro location
    refine (List.perm_ext_iff_of_nodup (nodup_namesIn distinctOther _)
      (nodup_namesIn distinct _)).mpr fun name => ?_
    rw [mem_namesIn_iff, mem_namesIn_iff]
    have same := congrArg Option.isSome (agree.emptied (location ++ [name]))
    rw [Option.isSome_map, Option.isSome_map] at same
    rw [same]
  unfold names
  rw [agree.resolve_eq]
  cases files.resolve true path with
  | error fault => exact Or.inl ⟨fault, rfl, rfl⟩
  | ok location =>
    simp only [bind, Except.bind]
    rcases agree.item_cases location with same | ⟨_, _, _, found, foundOther⟩
    · rw [same]
      cases files.item? location with
      | none => exact Or.inl ⟨_, rfl, rfl⟩
      | some item =>
        cases item with
        | folder mode =>
          by_cases readable : mode.readable = true
          · simp only [readable, if_true]
            exact Or.inr ⟨_, _, rfl, rfl, perm location⟩
          · simp only [readable, Bool.false_eq_true, if_false]
            exact Or.inl ⟨_, rfl, rfl⟩
        | _ => exact Or.inl ⟨_, rfl, rfl⟩
    · rw [found, foundOther]
      exact Or.inl ⟨_, rfl, rfl⟩

namespace Tree.Builder

/-- The order of names depends on the entries only if no two of them have the same name. -/
theorem byName_eq_of_perm {first second : List Entry} (perm : first.Perm second)
    (named : ∀ entry ∈ second, ∀ other ∈ second, entry.name = other.name → entry = other) :
    byName first = byName second := by
  have permuted : (byName first).Perm (byName second) :=
    (List.mergeSort_perm _ _).trans (perm.trans (List.mergeSort_perm _ _).symm)
  refine permuted.eq_of_pairwise (fun entry other isEntry isOther before behind => ?_)
    (pairwise_byName first) (pairwise_byName second)
  exact named entry (perm.mem_iff.mp (List.mem_mergeSort.mp isEntry)) other
    (List.mem_mergeSort.mp isOther) (le_antisymm before behind)

end Tree.Builder

/-- **What is listed in a directory depends on the contents of no file.** -/
theorem FileSystem.AgreeOn.level_eq (agree : AgreeOn watched files other)
    (distinct : (files.items.map Prod.fst).Nodup)
    (distinctOther : (other.items.map Prod.fst).Nodup) (builder : Tree.Builder)
    (directory : Path) : builder.level other directory = builder.level files directory := by
  have entry : builder.entry? other directory = builder.entry? files directory := by
    funext name
    simp only [Tree.Builder.entry?, agree.isDirectory_eq]
  unfold Tree.Builder.level
  rcases agree.names_cases distinct distinctOther directory with
    ⟨fault, fails, failsOther⟩ | ⟨found, otherFound, isNames, isOtherNames, perm⟩
  · rw [fails, failsOther]
    rfl
  · rw [isNames, isOtherNames, entry]
    have permuted := perm.filterMap (builder.entry? files directory)
    have named : ∀ entry ∈ found.filterMap (builder.entry? files directory),
        ∀ other ∈ found.filterMap (builder.entry? files directory),
          entry.name = other.name → entry = other := by
      intro entry isEntry other isOther same
      obtain ⟨name, _, isEntry⟩ := List.mem_filterMap.mp isEntry
      obtain ⟨otherName, _, isOther⟩ := List.mem_filterMap.mp isOther
      rw [(Tree.Builder.spelled_of_isEntry isEntry).1,
        (Tree.Builder.spelled_of_isEntry isOther).1] at same
      rw [same, isOther] at isEntry
      exact (Option.some.inj isEntry).symm
    have sorted : ∀ listed : Entry → Bool,
        Tree.Builder.byName ((otherFound.filterMap (builder.entry? files directory)).filter listed) =
          Tree.Builder.byName ((found.filterMap (builder.entry? files directory)).filter listed) := by
      intro listed
      refine Tree.Builder.byName_eq_of_perm (permuted.filter listed) ?_
      exact fun entry isEntry other isOther =>
        named entry (List.mem_filter.mp isEntry).1 other (List.mem_filter.mp isOther).1
    simp only [bind, Except.bind, pure, Except.pure, sorted]

end Agree

end DeclGraph
