/-
**The shape of a tree.**

In every directory of a tree the directories come first and names go up, an entry stands under its
name in its directory, a listed file has an accepted extension, and directories have children and
files have none. A level has all this when it is read. Cutting off entries, dropping them and giving
them children change neither the order of the others nor what they are.

* `Entry.Before`: the order of the entries of a directory;
* `Shaped`: what the entries of a directory are like;
* `LevelOf`: the directories of a tree with their entries;
* **`Grown.shaped`**: what grows from the entries of a directory is like them;
* **`Builder.shaped_list`**: every directory of a tree has this shape, and no two entries of the tree
  have the same path.
-/

import DeclGraph.Proofs.Tree.Paths

namespace DeclGraph

namespace Entry

variable {entry other : Entry}

/-- **The order of the entries of a directory**: directories come before files, and among directories
as among files names go up, in the order of their characters. -/
def Before (entry other : Entry) : Prop :=
  entry.isDirectory = true ∧ other.isDirectory = false ∨
    entry.isDirectory = other.isDirectory ∧ entry.name < other.name

theorem withChildren_before_iff {children : List Entry} :
    (entry.withChildren children).Before other ↔ entry.Before other := by
  cases entry
  rfl

theorem before_withChildren_iff {children : List Entry} :
    entry.Before (other.withChildren children) ↔ entry.Before other := by
  cases other
  rfl

end Entry

namespace Tree

variable {isLink : Path → Bool} {below : Path → List Entry → Prop} {entries tree : List Entry}
  {extensions : List String} {directory place : Path} {level : List Entry}

/-! ### One directory -/

/-- **What the entries of a directory are like.** -/
structure Shaped (extensions : List String) (directory : Path) (level : List Entry) : Prop where
  ordered : level.Pairwise Entry.Before
  placed : ∀ entry ∈ level, entry.path = directory.join ⟨entry.name⟩
  files : ∀ entry ∈ level, entry.kind = .file → entry.children = none ∧
    ∃ extension ∈ extensions, entry.path.extension? = some (Builder.withoutPoints extension)
  directories : ∀ entry ∈ level, entry.kind = .directory → ∃ children, entry.children = some children

theorem Shaped.nil (extensions : List String) (directory : Path) : Shaped extensions directory [] where
  ordered := .nil
  placed := by simp
  files := by simp
  directories := by simp

namespace Builder

variable {files : FileSystem} {builder : Builder} {limits : Limits}

/-- Entries of one kind are in order by their names if these are all different. -/
theorem pairwise_before_byName {isDirectory : Bool}
    (alike : ∀ entry ∈ entries, entry.isDirectory = isDirectory)
    (distinct : ((byName entries).map Entry.name).Nodup) :
    (byName entries).Pairwise Entry.Before := by
  refine ((pairwise_byName entries).and (List.pairwise_map.mp distinct)).imp_of_mem ?_
  rintro entry other isEntry isOther ⟨le, ne⟩
  refine Or.inr ⟨?_, lt_of_le_of_ne le ne⟩
  rw [alike entry (List.mem_mergeSort.mp isEntry), alike other (List.mem_mergeSort.mp isOther)]

/-- Directories by name, and behind them files by name, are in order if all names are different. -/
theorem pairwise_before {directories listed : List Entry}
    (first : ∀ entry ∈ directories, entry.isDirectory = true)
    (last : ∀ entry ∈ listed, entry.isDirectory = false)
    (distinct : ((byName directories ++ byName listed).map Entry.name).Nodup) :
    (byName directories ++ byName listed).Pairwise Entry.Before := by
  rw [List.map_append] at distinct
  obtain ⟨distinctFirst, distinctLast, _⟩ := List.nodup_append.mp distinct
  refine List.pairwise_append.mpr ⟨pairwise_before_byName first distinctFirst,
    pairwise_before_byName last distinctLast, fun entry isFirst other isLast => Or.inl ⟨?_, ?_⟩⟩
  · exact first entry (List.mem_mergeSort.mp isFirst)
  · exact last other (List.mem_mergeSort.mp isLast)

/-- **A directory has this shape when it is read.** -/
theorem shaped_level (proper : files.Proper) (distinct : (files.items.map Prod.fst).Nodup)
    (reads : (ofExtensions extensions limits).level files directory = .ok entries) :
    Shaped extensions directory entries where
  ordered := by
    have names := nodup_level distinct reads
    obtain ⟨_, _, rfl⟩ := level_eq_ok_iff.mp reads
    refine pairwise_before (fun entry member => (List.mem_filter.mp member).2) ?_ names
    exact fun entry member => by simpa using (List.mem_filter.mp member).2
  placed := fun entry member => (spelled_of_mem_level proper reads member).2
  files := by
    intro entry member isFile
    obtain ⟨_, _, name, _, isEntry⟩ := (mem_level_iff reads).mp member
    rcases entry?_eq_some_iff.mp isEntry with ⟨_, rfl⟩ | ⟨_, accepted, rfl⟩
    · cases isFile
    · exact ⟨rfl, accepts_ofExtensions_iff.mp accepted⟩
  directories := by
    intro entry member isDirectory
    cases fresh_of_mem_level reads member with
    | file => cases isDirectory
    | directory => exact ⟨[], rfl⟩

end Builder

/-! ### What grows -/

namespace Grown

/-- What grows from entries in order is in order. -/
theorem ordered (grown : Grown isLink below entries tree) (ordered : entries.Pairwise Entry.Before) :
    tree.Pairwise Entry.Before := by
  induction grown with
  | cut => exact .nil
  | kept grown ih =>
    obtain ⟨first, rest⟩ := List.pairwise_cons.mp ordered
    refine List.pairwise_cons.mpr ⟨grown.forall_mem ?_ first, ih rest⟩
    exact fun _ _ _ => Entry.before_withChildren_iff.mpr
  | filled _ _ _ grown ih =>
    obtain ⟨first, rest⟩ := List.pairwise_cons.mp ordered
    refine List.pairwise_cons.mpr ⟨fun other later => ?_, ih rest⟩
    refine Entry.withChildren_before_iff.mpr (grown.forall_mem ?_ first other later)
    exact fun _ _ _ => Entry.before_withChildren_iff.mpr
  | dropped _ ih => exact ih (List.pairwise_cons.mp ordered).2

/-- **What grows from the entries of a directory is like them.** -/
theorem shaped (grown : Grown isLink below entries tree)
    (shaped : Shaped extensions directory entries) : Shaped extensions directory tree where
  ordered := grown.ordered shaped.ordered
  placed := grown.forall_mem (fun entry _ _ placed => by cases entry; exact placed) shaped.placed
  files := by
    refine grown.forall_mem (fun entry children isDirectory _ isFile => ?_) shaped.files
    cases entry
    cases isFile
    cases isDirectory
  directories := by
    refine grown.forall_mem (fun entry children _ _ _ => ?_) shaped.directories
    cases entry
    exact ⟨children, rfl⟩

end Grown

/-! ### All directories of a tree -/

/-- **The directories of a tree with their entries**: the root, and every directory below it that is
one of the entries there. -/
inductive LevelOf : Path → List Entry → Path → List Entry → Prop
  | here (directory : Path) (tree : List Entry) : LevelOf directory tree directory tree
  | deeper {directory place : Path} {tree children level : List Entry} {entry : Entry} :
      entry ∈ tree → entry.children = some children → LevelOf entry.path children place level →
        LevelOf directory tree place level

/-- If everything that is told below a directory has this shape, then so has what grows from its
entries. -/
theorem Grown.shaped_levels
    (grown : Grown isLink (fun directory tree => ∀ place level, LevelOf directory tree place level →
      Shaped extensions place level) entries tree)
    (fresh : ∀ entry ∈ entries, entry.Fresh) (shaped : Shaped extensions directory entries)
    (isLevel : LevelOf directory tree place level) : Shaped extensions place level := by
  cases isLevel with
  | here => exact grown.shaped shaped
  | deeper member holds isLevel =>
    rcases grown.children_cases fresh member holds with rfl | told
    · cases isLevel with
      | here => exact .nil _ _
      | deeper none => cases none
    · exact told _ _ isLevel

namespace Builder

variable {files : FileSystem} {root : Path}

/-- **Every directory of a tree has this shape, and no two entries of the tree have the same path.**
Links and limits are arbitrary. -/
theorem shaped_list (extensions : List String) (limits : Limits) (proper : files.Proper)
    (distinct : (files.items.map Prod.fst).Nodup)
    (lists : (ofExtensions extensions limits).list files root = .ok tree) :
    (∀ directory level, LevelOf root tree directory level → Shaped extensions directory level) ∧
      (Entry.pathsOfAll tree).Pairwise fun path other => path.same other = false := by
  refine ⟨?_, pairwise_pathsOfAll proper distinct lists⟩
  obtain ⟨_, lists⟩ := list_eq_ok_iff.mp lists
  refine list_induction (motive := fun root tree => ∀ directory level,
    LevelOf root tree directory level → Shaped extensions directory level) ?_ lists
  intro directory entries tree reads grown place level isLevel
  exact grown.shaped_levels (fun _ => fresh_of_mem_level reads) (shaped_level proper distinct reads)
    isLevel

/-- A directory with a directory in it that holds a link back to the first one. -/
def looped : FileSystem where
  items := [(["b.py"], .file [] false), (["a"], .directory false), (["a", "m.py"], .file [] false),
    (["a", "c"], .directory false), (["a", "c", "up"], .link "../.."),
    (["a", "c", "n.py"], .file [] false)]

/-- The link is listed once and not entered, and no room is left for the last file. -/
theorem shaped_looped : ∃ tree,
    (ofExtensions [".py"] { entries := 5 }).list looped ⟨"."⟩ = .ok tree ∧
      Entry.pathsOfAll tree = [⟨"./a"⟩, ⟨"./a/c"⟩, ⟨"./a/c/up"⟩, ⟨"./a/m.py"⟩, ⟨"./b.py"⟩] ∧
      (∀ directory level, LevelOf ⟨"."⟩ tree directory level → Shaped [".py"] directory level) ∧
      (Entry.pathsOfAll tree).Pairwise fun path other => path.same other = false := by
  have proper : looped.Proper := by decide +kernel
  have distinct : (looped.items.map Prod.fst).Nodup := by decide +kernel
  have paths : ((ofExtensions [".py"] { entries := 5 }).list looped ⟨"."⟩).map Entry.pathsOfAll =
      .ok [⟨"./a"⟩, ⟨"./a/c"⟩, ⟨"./a/c/up"⟩, ⟨"./a/m.py"⟩, ⟨"./b.py"⟩] := by decide +kernel
  cases lists : (ofExtensions [".py"] { entries := 5 }).list looped ⟨"."⟩ with
  | error fault =>
    rw [lists] at paths
    cases paths
  | ok tree =>
    rw [lists] at paths
    exact ⟨tree, rfl, Except.ok.inj paths, shaped_list _ _ proper distinct lists⟩

end Builder

end Tree

end DeclGraph
