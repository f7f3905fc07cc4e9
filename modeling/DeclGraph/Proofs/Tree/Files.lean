/-
**The files of a tree.**

The files of an entry are found by a loop: it takes the first of the waiting entries, keeps its path if
it has no children, and else puts these in its place. Whatever the loop has come to, the entries taken
and those still waiting, with everything below them, are all entries in the order of the recursion; so
it takes every entry once and ends. Whether an entry counts as a file is told by its children, and in
the tree of a directory exactly the directories have some, be they empty, links, too deep or cut.

* `Entry.entriesBelow`: an entry and all entries below it, by recursion;
* `Entry.Reached`: what the loop comes to;
* `Entry.Flattens`, **`Entry.flattens`**: the loop takes every entry once, and gives the paths of the
  recursion;
* `Tree.Told`, **`Tree.Builder.told_of_list`**: the entries of a tree are told as what they are;
* **`Tree.Builder.files_of_list`**: so the files of a tree are its entries of this kind.
-/

import DeclGraph.Proofs.Tree.Paths

namespace DeclGraph

namespace Entry

/-! ### All entries -/

mutual

/-- An entry and all entries below it. -/
def entriesBelow : Entry → List Entry
  | mk name path kind none => [mk name path kind none]
  | mk name path kind (some children) => mk name path kind (some children) :: entriesOfAll children

/-- Several entries and all entries below them. -/
def entriesOfAll : List Entry → List Entry
  | [] => []
  | entry :: entries => entry.entriesBelow ++ entriesOfAll entries

end

theorem entriesOfAll_append (first second : List Entry) :
    entriesOfAll (first ++ second) = entriesOfAll first ++ entriesOfAll second := by
  induction first with
  | nil => rfl
  | cons entry entries ih =>
    rw [List.cons_append, entriesOfAll, entriesOfAll, ih, List.append_assoc]

theorem mem_entriesOfAll_iff {entries : List Entry} {entry : Entry} :
    entry ∈ entriesOfAll entries ↔ ∃ top ∈ entries, entry ∈ top.entriesBelow := by
  induction entries with
  | nil => simp [entriesOfAll]
  | cons first entries ih => simp [entriesOfAll, ih]

theorem Fresh.mem_entriesBelow_iff {entry other : Entry} (fresh : entry.Fresh) :
    other ∈ entry.entriesBelow ↔ other = entry := by
  cases fresh with
  | file => exact List.mem_singleton
  | directory => exact List.mem_singleton

theorem entriesBelow_withChildren (children : List Entry) (entry : Entry) :
    (entry.withChildren children).entriesBelow =
      entry.withChildren children :: entriesOfAll children := by
  cases entry
  rfl

mutual

theorem length_entriesBelow : ∀ entry : Entry, entry.entriesBelow.length = entry.size
  | mk _ _ _ none => rfl
  | mk _ _ _ (some children) => by
    rw [entriesBelow, size, List.length_cons, length_entriesOfAll children]

theorem length_entriesOfAll : ∀ entries : List Entry, (entriesOfAll entries).length = sizeAll entries
  | [] => rfl
  | entry :: entries => by
    rw [entriesOfAll, sizeAll, List.length_append, length_entriesBelow entry,
      length_entriesOfAll entries]

end

mutual

/-- The files are the entries that have no children. -/
theorem filesBelow_eq_filter : ∀ entry : Entry, entry.filesBelow =
    (entry.entriesBelow.filter fun entry => entry.children.isNone).map path
  | mk _ _ _ none => rfl
  | mk _ _ _ (some children) => filesOfAll_eq_filter children

theorem filesOfAll_eq_filter : ∀ entries : List Entry, filesOfAll entries =
    ((entriesOfAll entries).filter fun entry => entry.children.isNone).map path
  | [] => rfl
  | entry :: entries => by
    rw [filesOfAll, entriesOfAll, List.filter_append, List.map_append, filesBelow_eq_filter entry,
      filesOfAll_eq_filter entries]

end

/-! ### The loop -/

/-- **What the loop comes to**: the entries that it has taken, the paths that it has found, the last one
first, and the entries that wait. No number of turns is given: the loop goes on as long as an entry
waits. -/
inductive Reached (entry : Entry) : List Entry → List Path → List Entry → Prop
  | start : Reached entry [] [] [entry]
  | keep {taken waiting : List Entry} {found : List Path} {name : String} {path : Path}
      {kind : EntryKind} : Reached entry taken found (mk name path kind none :: waiting) →
        Reached entry (taken ++ [mk name path kind none]) (path :: found) waiting
  | enter {taken waiting children : List Entry} {found : List Path} {name : String} {path : Path}
      {kind : EntryKind} : Reached entry taken found (mk name path kind (some children) :: waiting) →
        Reached entry (taken ++ [mk name path kind (some children)]) found (children ++ waiting)

namespace Reached

variable {entry first : Entry} {taken waiting : List Entry} {found : List Path}

/-- **Every entry is taken or waits, in the order of the recursion.** -/
theorem entries_eq (reached : Reached entry taken found waiting) :
    taken ++ entriesOfAll waiting = entry.entriesBelow := by
  induction reached with
  | start => rw [entriesOfAll, entriesOfAll, List.append_nil, List.nil_append]
  | keep _ ih => rw [← ih, entriesOfAll, entriesBelow, List.append_assoc]
  | enter _ ih =>
    rw [← ih, entriesOfAll, entriesBelow, entriesOfAll_append, List.append_assoc]
    rfl

/-- What the loop has come to is what as many steps come to. -/
theorem filesFrom_eq (reached : Reached entry taken found waiting) (steps : Nat) :
    filesFrom (taken.length + steps) [] [entry] = filesFrom steps found waiting := by
  induction reached generalizing steps with
  | start => rw [List.length_nil, Nat.zero_add]
  | keep _ ih =>
    rw [List.length_append, List.length_singleton, Nat.add_assoc, Nat.add_comm 1, ih, filesFrom]
  | enter _ ih =>
    rw [List.length_append, List.length_singleton, Nat.add_assoc, Nat.add_comm 1, ih, filesFrom]

/-- As long as an entry waits, there is a next turn, and it takes this entry. -/
theorem next (reached : Reached entry taken found (first :: waiting)) :
    ∃ more left, Reached entry (taken ++ [first]) more left := by
  obtain ⟨name, path, kind, _ | children⟩ := first
  · exact ⟨_, _, reached.keep⟩
  · exact ⟨_, _, reached.enter⟩

/-- Every turn takes one of the entries that are left. -/
theorem length_eq (reached : Reached entry taken found waiting) :
    taken.length + sizeAll waiting = entry.size := by
  rw [← length_entriesBelow, ← reached.entries_eq, List.length_append, length_entriesOfAll]

/-- **The loop ends**, since fewer entries are left after every turn. -/
theorem ends (reached : Reached entry taken found waiting) :
    ∃ all paths, Reached entry all paths [] := by
  induction left : sizeAll waiting using Nat.strongRecOn generalizing taken found waiting with
  | ind left ih =>
    cases waiting with
    | nil => exact ⟨_, _, reached⟩
    | cons first waiting =>
      obtain ⟨more, rest, further⟩ := reached.next
      have before := reached.length_eq
      have after := further.length_eq
      rw [List.length_append, List.length_singleton] at after
      exact ih _ (by omega) further rfl

end Reached

/-- **The loop flattens an entry**: whatever it has come to, the entries taken and those left are all
entries in the order of the recursion; while an entry waits, it is taken next; and when all entries are
taken, none waits and the files are found, which are those of the recursion. -/
structure Flattens (entry : Entry) : Prop where
  each : ∀ taken found waiting, Reached entry taken found waiting →
    taken ++ entriesOfAll waiting = entry.entriesBelow ∧
      taken.length + sizeAll waiting = entry.size
  next : ∀ taken found first waiting, Reached entry taken found (first :: waiting) →
    ∃ more left, Reached entry (taken ++ [first]) more left
  ends : Reached entry entry.entriesBelow entry.files.reverse []
  files : entry.files = entry.filesBelow

/-- **The loop flattens every entry.** -/
theorem flattens (entry : Entry) : Flattens entry where
  each _ _ _ reached := ⟨reached.entries_eq, reached.length_eq⟩
  next _ _ _ _ reached := reached.next
  ends := by
    obtain ⟨taken, found, reached⟩ := (Reached.start : Reached entry [] [] [entry]).ends
    have all := reached.entries_eq
    rw [entriesOfAll, List.append_nil] at all
    have same : filesFrom (taken.length + 0) [] [entry] = found.reverse := reached.filesFrom_eq 0
    rw [Nat.add_zero, all, length_entriesBelow] at same
    rw [files, same, List.reverse_reverse, ← all]
    exact reached
  files := files_eq_filesBelow entry

end Entry

/-! ### The entries of a tree -/

namespace Tree

/-- **An entry is told as what it is**: as a directory exactly if there is one at its path, also one
that a link leads to, and with children exactly if it is told as a directory. -/
structure Told (files : FileSystem) (entry : Entry) : Prop where
  kind : entry.kind = .directory ↔ files.isDirectory entry.path = true
  children : entry.kind = .directory ↔ entry.children.isSome = true

namespace Told

variable {files : FileSystem} {entry : Entry}

theorem withChildren (told : Told files entry) (isDirectory : entry.isDirectory = true)
    (children : List Entry) : Told files (entry.withChildren children) := by
  cases entry
  exact ⟨told.kind, fun _ => rfl, fun _ => eq_of_beq isDirectory⟩

/-- Whether an entry has children says whether it is a file. -/
theorem isNone_children (told : Told files entry) :
    entry.children.isNone = (entry.kind == .file) := by
  have same := told.children
  obtain ⟨name, path, kind, children⟩ := entry
  cases kind with
  | file =>
    cases children with
    | none => rfl
    | some => cases same.mpr rfl
  | directory =>
    cases children with
    | none => cases same.mp rfl
    | some => rfl

/-- There is no directory where a file is told. -/
theorem isDirectory_eq_false (told : Told files entry) (isFile : entry.kind = .file) :
    files.isDirectory entry.path = false := by
  rw [Bool.eq_false_iff]
  intro isDirectory
  rw [told.kind.mpr isDirectory] at isFile
  cases isFile

end Told

namespace Builder

variable {builder : Builder} {files : FileSystem} {directory root : Path} {entries tree : List Entry}
  {entry : Entry}

/-- An entry is told as what it is when its directory is read. -/
theorem told_of_mem_level (reads : builder.level files directory = .ok entries)
    (member : entry ∈ entries) : Told files entry := by
  obtain ⟨_, _, name, _, isEntry⟩ := (mem_level_iff reads).mp member
  rcases entry?_eq_some_iff.mp isEntry with ⟨isDirectory, rfl⟩ | ⟨notDirectory, _, rfl⟩
  · exact ⟨⟨fun _ => isDirectory, fun _ => rfl⟩, fun _ => rfl, fun _ => rfl⟩
  · refine ⟨⟨fun isDirectory => ?_, fun isDirectory => ?_⟩, fun isDirectory => ?_, fun some => ?_⟩
    · cases isDirectory
    · rw [Entry.file, Entry.path, notDirectory] at isDirectory
      cases isDirectory
    · cases isDirectory
    · cases some

/-- **All entries of a tree are told as what they are**, whatever the limits are. -/
theorem told_of_list (lists : builder.list files root = .ok tree) :
    ∀ entry ∈ Entry.entriesOfAll tree, Told files entry := by
  obtain ⟨_, lists⟩ := list_eq_ok_iff.mp lists
  refine list_induction (motive := fun _ tree => ∀ entry ∈ Entry.entriesOfAll tree,
    Told files entry) ?_ lists
  intro directory entries tree reads grown entry member
  obtain ⟨top, isTop, below⟩ := Entry.mem_entriesOfAll_iff.mp member
  rcases grown.mem_cases isTop with same | ⟨read, isRead, isDirectory, _, children, told, rfl⟩
  · rw [(fresh_of_mem_level reads same).mem_entriesBelow_iff] at below
    rw [below]
    exact told_of_mem_level reads same
  · rw [Entry.entriesBelow_withChildren] at below
    rcases List.mem_cons.mp below with rfl | deeper
    · exact (told_of_mem_level reads isRead).withChildren isDirectory children
    · exact told entry deeper

/-- **The files of a tree are its entries of this kind**, in the order of the listing, and no directory
is among them. -/
theorem flatMap_files_of_list (lists : builder.list files root = .ok tree) :
    tree.flatMap Entry.files =
        ((Entry.entriesOfAll tree).filter fun entry => entry.kind == .file).map Entry.path ∧
      ∀ path ∈ tree.flatMap Entry.files, files.isDirectory path = false := by
  have told := told_of_list lists
  have same : tree.flatMap Entry.files =
      ((Entry.entriesOfAll tree).filter fun entry => entry.kind == .file).map Entry.path := by
    rw [Entry.flatMap_files, Entry.filesOfAll_eq_filter,
      List.filter_congr fun entry member => (told entry member).isNone_children]
  refine ⟨same, fun path isFile => ?_⟩
  rw [same] at isFile
  obtain ⟨entry, listed, rfl⟩ := List.mem_map.mp isFile
  obtain ⟨member, kind⟩ := List.mem_filter.mp listed
  exact (told entry member).isDirectory_eq_false (eq_of_beq kind)

/-- **The loop flattens every entry, and in a tree of directories it finds exactly the files.** The
entries of the tree are told as what they are, so a directory is never found, be it empty, a link, too
deep or without room for what it holds. -/
theorem files_of_list :
    (∀ entry, Entry.Flattens entry) ∧
      ∀ (builder : Builder) (files : FileSystem) (root : Path) (tree : List Entry),
        builder.list files root = .ok tree →
          (∀ entry ∈ Entry.entriesOfAll tree, Told files entry) ∧
          tree.flatMap Entry.files =
            ((Entry.entriesOfAll tree).filter fun entry => entry.kind == .file).map Entry.path ∧
          ∀ path ∈ tree.flatMap Entry.files, files.isDirectory path = false :=
  ⟨Entry.flattens, fun _ _ _ _ lists => ⟨told_of_list lists, flatMap_files_of_list lists⟩⟩

/-- A directory in a directory, and a file at each level. -/
def nested : FileSystem where
  items := [(["b.py"], .file [] false), (["a"], .directory false), (["a", "m.py"], .file [] false),
    (["a", "c"], .directory false), (["a", "c", "n.py"], .file [] false)]

/-- The inner directory is too deep and is not found, and no room is left for the file next to it. -/
theorem files_of_nested : ∃ tree,
    (ofExtensions [".py"] { depth := 1, entries := 3 }).list nested ⟨"."⟩ = .ok tree ∧
      (Entry.entriesOfAll tree).map Entry.path = [⟨"./a"⟩, ⟨"./a/c"⟩, ⟨"./b.py"⟩] ∧
      tree.flatMap Entry.files = [⟨"./b.py"⟩] ∧
      (∀ entry ∈ Entry.entriesOfAll tree, Told nested entry) ∧
      tree.flatMap Entry.files =
        ((Entry.entriesOfAll tree).filter fun entry => entry.kind == .file).map Entry.path ∧
      ∀ path ∈ tree.flatMap Entry.files, nested.isDirectory path = false := by
  have found : ((ofExtensions [".py"] { depth := 1, entries := 3 }).list nested ⟨"."⟩).map
      (fun tree => ((Entry.entriesOfAll tree).map Entry.path, tree.flatMap Entry.files)) =
        .ok ([⟨"./a"⟩, ⟨"./a/c"⟩, ⟨"./b.py"⟩], [⟨"./b.py"⟩]) := by decide +kernel
  cases lists : (ofExtensions [".py"] { depth := 1, entries := 3 }).list nested ⟨"."⟩ with
  | error fault =>
    rw [lists] at found
    cases found
  | ok tree =>
    rw [lists] at found
    obtain ⟨paths, files⟩ := Prod.mk.inj (Except.ok.inj found)
    exact ⟨tree, rfl, paths, files, files_of_list.2 _ _ _ _ lists⟩

end Builder

end Tree

end DeclGraph
