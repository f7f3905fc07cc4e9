/-
**Places in a file system without links.**

Where there are no links, a path leads to the place that its components spell, or nowhere.

* `LinkFree`: a file system without links;
* `placeOf`: the place that a path spells from the current directory;
* **`LinkFree.resolve_eq`**: a path leads there if it leads anywhere;
* **`LinkFree.isPrefix_of_inside`**: a path that stays inside a base leads below the place of it.
-/

import DeclGraph.Proofs.Path.Inside
import Mathlib.Tactic.SplitIfs

namespace DeclGraph.FileSystem

variable {files : FileSystem} {follow spelled : Bool} {here location : Location}
  {pieces : List String} {path base : Path}

/-- No item of a file system is a link. -/
def LinkFree (files : FileSystem) : Prop :=
  ∀ location target, files.item? location ≠ some (.link target)

theorem linkFree_of_items (items : ∀ entry ∈ files.items, ∀ target, entry.2 ≠ .link target) :
    files.LinkFree := by
  intro location target found
  unfold item? at found
  cases first : files.items.find? fun entry => entry.1 == location with
  | none =>
    rw [first] at found
    dsimp only [Option.map_none] at found
    split_ifs at found
    cases found
  | some entry =>
    rw [first, Option.map_some] at found
    exact items entry (List.mem_of_find?_eq_some first) target (Option.some.inj found)

/-- The place that a path spells from the current directory. -/
def placeOf (files : FileSystem) (path : Path) : Location := placeFrom files.current path.components

/-- The component that a piece stands for, where a slash at the end of a path leaves an empty one. -/
def componentOf? (piece : String) : Option Component :=
  if piece = "" then none else Path.innerComponent? piece

theorem placeFrom_cons (here : Location) (piece : String) (rest : List String) :
    placeFrom here ((piece :: rest).filterMap componentOf?) =
      placeFrom (placeFrom here (componentOf? piece).toList) (rest.filterMap componentOf?) := by
  rw [← placeFrom_append, List.filterMap_cons]
  cases componentOf? piece <;> rfl

theorem LinkFree.move_cases (free : files.LinkFree) {piece : String} {moved : Move}
    (moves : files.move spelled here piece = .ok moved) :
    moved = .absent ∨ moved = .place (placeFrom here (componentOf? piece).toList) := by
  unfold move at moves
  cases state : files.closed? here with
  | none =>
    rw [state] at moves
    cases moves
  | some closed =>
    simp only [state] at moves
    split_ifs at moves with empty _ current parent
    · cases moves
      exact Or.inr (by simp [componentOf?, empty, placeFrom])
    · cases moves
      exact Or.inr (by simp [componentOf?, current, Path.innerComponent?, placeFrom])
    · cases moves
      exact Or.inr (by simp [componentOf?, parent, Path.innerComponent?, placeFrom])
    · cases found : files.item? (here ++ [piece]) with
      | none =>
        rw [found] at moves
        cases moves
        exact Or.inl rfl
      | some item =>
        rw [found] at moves
        cases item with
        | link target => exact absurd found (free _ target)
        | regular _ _ | folder _ | device _ =>
          cases moves
          exact Or.inr (by simp [componentOf?, empty, current, parent, Path.innerComponent?,
            placeFrom])

/-- **A walk that meets no link ends where its pieces spell.** -/
theorem LinkFree.walk_cases (free : files.LinkFree) {stop : Stop}
    (walks : files.walk follow spelled here pieces = .ok stop) :
    (∃ location, stop = .absent location) ∨
      stop = .found (placeFrom here (pieces.filterMap componentOf?)) := by
  induction pieces generalizing here with
  | nil =>
    cases walks
    exact Or.inr rfl
  | cons piece rest ih =>
    unfold walk at walks
    cases moves : files.move spelled here piece with
    | error fault =>
      rw [moves] at walks
      cases walks
    | ok moved =>
      rw [moves] at walks
      rcases free.move_cases moves with rfl | rfl
      · dsimp only at walks
        split_ifs at walks
        cases walks
        exact Or.inl ⟨_, rfl⟩
      · rw [placeFrom_cons]
        exact ih walks

theorem empty_not_mem_pieces (path : Path) : "" ∉ path.pieces := by
  intro member
  obtain ⟨piece, inside, same⟩ := List.mem_filterMap.mp member
  split_ifs at same
  have empty : piece = [] := by simpa using Option.some.inj same
  exact List.ne_nil_of_mem_splitBy inside empty

theorem filterMap_piecesOf (path : Path) :
    (piecesOf path).filterMap componentOf? = path.innerComponents := by
  have last : (if path.text.toList.getLast? = some '/' then [""] else []).filterMap componentOf? =
      [] := by
    split <;> rfl
  rw [piecesOf, List.filterMap_append, last, List.append_nil]
  refine List.filterMap_congr fun piece member => if_neg ?_
  rintro rfl
  exact empty_not_mem_pieces path member

/-- **Without links a path leads to the place that it spells, or nowhere.** -/
theorem LinkFree.resolve_eq (free : files.LinkFree)
    (leads : files.resolve follow path spelled = .ok location) : location = files.placeOf path := by
  have start : placeFrom (startOf files.current path) path.innerComponents = files.placeOf path := by
    unfold placeOf startOf Path.components Path.innerComponents
    split
    · rfl
    · split <;> rfl
  unfold resolve stop at leads
  split at leads
  · rename_i found stops
    cases leads
    split_ifs at stops
    rw [walkLinks] at stops
    cases walked : files.walk follow spelled (startOf files.current path) (piecesOf path) with
    | error fault =>
      rw [walked] at stops
      cases stops
    | ok stop =>
      rw [walked] at stops
      rcases free.walk_cases walked with ⟨absent, rfl⟩ | rfl
      · cases stops
      · cases stops
        rw [filterMap_piecesOf, start]
  · cases leads
  · cases leads

/-- **A path that stays inside a base leads below the place of the base.** -/
theorem LinkFree.isPrefix_of_inside (free : files.LinkFree) (inside : path.Inside base)
    (leads : files.resolve follow path spelled = .ok location) : files.placeOf base <+: location := by
  rw [free.resolve_eq leads]
  exact inside.isPrefix_place files.current

end DeclGraph.FileSystem
