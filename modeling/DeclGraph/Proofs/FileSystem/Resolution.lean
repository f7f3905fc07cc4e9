/-
**Where paths lead.**

A walk along the pieces of a path goes from directory to directory, and what it finds is no link. In
a proper file system the path of the place that is found leads to the same place, or nowhere.

* `Proper`: every item lies in a directory and has a name;
* `Stands`: a location without a link;
* `move_tells`, **`walkLinks_invariant`**: where one piece leads, and what every piece keeps;
* **`Proper.stands_resolve`**: a path that is followed to its end leads to such a location;
* **`Proper.resolve_pathOf`**: the path of such a location leads nowhere else.
-/

import DeclGraph.Proofs.Path.Pieces
import Mathlib.Data.List.Nodup

namespace DeclGraph.FileSystem

variable {files : FileSystem} {follow : Bool} {spelled : Bool} {here location : Location}
  {pieces : List String}

/-! ### Proper file systems -/

/-- **A proper file system:** every item lies in a directory, as the root and the current directory
do, and every name is one. -/
structure Proper (files : FileSystem) : Prop where
  current : (files.closed? files.current).isSome
  parent : ∀ location, (files.item? location).isSome → (files.closed? location.dropLast).isSome
  named : ∀ location, (files.item? location).isSome → ∀ name ∈ location, IsName name

theorem isSome_item?_iff :
    (files.item? location).isSome ↔ location = [] ∨ ∃ entry ∈ files.items, entry.1 = location := by
  unfold item?
  cases found : files.items.find? fun entry => entry.1 == location with
  | none =>
    rw [List.find?_eq_none] at found
    by_cases root : location = []
    · simp [root]
    · simpa [root, Prod.forall] using fun item member => found (location, item) member
  | some entry =>
    have member := List.mem_of_find?_eq_some found
    have same : entry.1 = location := by simpa using List.find?_some found
    simp only [Option.map_some, Option.isSome_some, true_iff]
    exact Or.inr ⟨entry, member, same⟩

/-- An item is found at its location, if no location occurs twice. -/
theorem item?_of_mem (distinct : (files.items.map Prod.fst).Nodup) {item : Item}
    (member : (location, item) ∈ files.items) : files.item? location = some item := by
  unfold item?
  cases found : files.items.find? fun entry => entry.1 == location with
  | none => simpa using List.find?_eq_none.mp found _ member
  | some entry =>
    have same : entry.1 = location := by simpa using List.find?_some found
    have equal := List.inj_on_of_nodup_map distinct (List.mem_of_find?_eq_some found) member same
    rw [equal]
    rfl

theorem proper_iff : files.Proper ↔
    (files.closed? files.current).isSome ∧ (files.closed? []).isSome ∧
      ∀ entry ∈ files.items, (files.closed? entry.1.dropLast).isSome ∧
        ∀ name ∈ entry.1, IsName name := by
  constructor
  · rintro ⟨current, parent, named⟩
    have root : (files.item? []).isSome := isSome_item?_iff.mpr (Or.inl rfl)
    refine ⟨current, parent [] root, fun entry member => ?_⟩
    have there : (files.item? entry.1).isSome := isSome_item?_iff.mpr (Or.inr ⟨entry, member, rfl⟩)
    exact ⟨parent _ there, named _ there⟩
  · rintro ⟨current, root, items⟩
    refine ⟨current, fun location there => ?_, fun location there => ?_⟩ <;>
      rcases isSome_item?_iff.mp there with rfl | ⟨entry, member, rfl⟩
    · exact root
    · exact (items entry member).1
    · simp
    · exact (items entry member).2

instance (files : FileSystem) : Decidable files.Proper := decidable_of_iff _ proper_iff.symm

/-- Something other than a link stands at a location. -/
def Stands (files : FileSystem) (location : Location) : Prop :=
  ∃ item, files.item? location = some item ∧ ∀ target, item ≠ .link target

theorem Stands.isSome (stands : files.Stands location) : (files.item? location).isSome := by
  obtain ⟨item, found, _⟩ := stands
  rw [found]
  rfl

theorem closed?_eq_some_iff {closed : Bool} :
    files.closed? location = some closed ↔
      ∃ mode : Mode, files.item? location = some (.folder mode) ∧ (!mode.executable) = closed := by
  unfold closed?
  cases files.item? location with
  | none => simp
  | some item => cases item <;> simp

/-- A directory is no link. -/
theorem stands_of_directory (directory : (files.closed? location).isSome) :
    files.Stands location := by
  obtain ⟨closed, state⟩ := Option.isSome_iff_exists.mp directory
  obtain ⟨mode, found, _⟩ := closed?_eq_some_iff.mp state
  exact ⟨.folder mode, found, by simp⟩

/-- The root is a directory. -/
theorem Proper.root (proper : files.Proper) : (files.closed? []).isSome :=
  proper.parent [] (isSome_item?_iff.mpr (Or.inl rfl))

/-- Whatever lies above an item is a directory: what the item lies in is one, and so on upwards. -/
theorem Proper.directory_of_prefix (proper : files.Proper) {base : Location}
    (there : (files.item? location).isSome) (above : base <+: location)
    (other : base ≠ location) : (files.closed? base).isSome := by
  induction location using List.reverseRecOn with
  | nil => exact absurd (List.prefix_nil.mp above) other
  | append_singleton location name ih =>
    have parent := proper.parent _ there
    rw [List.dropLast_concat] at parent
    by_cases same : base = location
    · rwa [same]
    · exact ih (stands_of_directory parent).isSome
        ((List.prefix_concat_iff.mp above).resolve_left other) same

/-! ### What a walk finds -/

/-- An empty piece stays in a directory. -/
theorem move_empty (directory : (files.closed? here).isSome) :
    files.move spelled here "" = .ok (.place here) := by
  obtain ⟨closed, state⟩ := Option.isSome_iff_exists.mp directory
  rw [move, state]
  rfl

/-- What a piece tells of the place it leads to, seen from a directory: it stays, goes up, or finds
what stands under a name. -/
def Move.Tells (files : FileSystem) (here : Location) (piece : String) : Move → Prop
  | .place there => there = here ∨ there = here.dropLast ∨ there = here ++ [piece] ∧ files.Stands there
  | .absent => files.item? (here ++ [piece]) = none
  | .link target => files.item? (here ++ [piece]) = some (.link target)

/-- One piece leads on from a directory only. -/
theorem move_tells {piece : String} {moved : Move}
    (moves : files.move spelled here piece = .ok moved) :
    (files.closed? here).isSome ∧ moved.Tells files here piece := by
  unfold move at moves
  cases state : files.closed? here with
  | none =>
    rw [state] at moves
    cases moves
  | some closed =>
    refine ⟨rfl, ?_⟩
    simp only [state] at moves
    split_ifs at moves
    · cases moves
      exact Or.inl rfl
    · cases moves
      exact Or.inl rfl
    · cases moves
      exact Or.inr (Or.inl rfl)
    · cases found : files.item? (here ++ [piece]) with
      | none =>
        rw [found] at moves
        cases moves
        exact found
      | some item =>
        rw [found] at moves
        cases item with
        | link target =>
          cases moves
          exact found
        | regular _ _ | folder _ | device _ =>
          cases moves
          exact Or.inr (Or.inr ⟨rfl, _, found, by simp⟩)

/-- A walk through links ends without one, or goes on behind the first link with its target. -/
theorem walkLinks_cases {links : Nat} {stop : Stop}
    (walks : files.walkLinks true spelled links here pieces = .ok stop) :
    files.walk true spelled here pieces = .ok stop ∨
      ∃ left directory target rest, links = left + 1 ∧
        files.walk true spelled here pieces = .ok (.atLink directory target rest) ∧
        target.isEmpty = false ∧
        files.walkLinks true spelled left (startOf directory ⟨target⟩) (piecesOf ⟨target⟩ ++ rest) =
          .ok stop := by
  unfold walkLinks at walks
  cases stops : files.walk true spelled here pieces with
  | error fault =>
    rw [stops] at walks
    cases walks
  | ok first =>
    rw [stops] at walks
    cases first with
    | found _ | absent _ => exact Or.inl walks
    | atLink directory target rest =>
      cases links with
      | zero => cases walks
      | succ left =>
        dsimp only at walks
        split_ifs at walks with empty
        exact Or.inr ⟨left, directory, target, rest, rfl, rfl, Bool.eq_false_iff.mpr empty, walks⟩

/-- A stop at a place, or at a link in a directory, for which something holds. A name that a walk
does not find is not there. -/
def Stop.Keeps (files : FileSystem) (holds : Location → Prop) : Stop → Prop
  | .found place => holds place
  | .absent place => files.item? place = none
  | .atLink directory _ _ => holds directory ∧ (files.closed? directory).isSome

section Invariant

variable (holds : Location → Prop)
  (keeps : ∀ here piece there, holds here → files.move spelled here piece = .ok (.place there) →
    holds there)

include keeps

/-- What every piece keeps holds where a walk stops. -/
theorem walk_invariant (start : holds here) {stop : Stop}
    (walks : files.walk true spelled here pieces = .ok stop) : stop.Keeps files holds := by
  induction pieces generalizing here with
  | nil =>
    cases walks
    exact start
  | cons piece rest ih =>
    unfold walk at walks
    cases moves : files.move spelled here piece with
    | error fault =>
      rw [moves] at walks
      cases walks
    | ok moved =>
      rw [moves] at walks
      cases moved with
      | place there => exact ih (keeps here piece there start moves) walks
      | absent =>
        dsimp only at walks
        split_ifs at walks
        cases walks
        exact (move_tells moves).2
      | link target =>
        simp only [Bool.not_true, Bool.and_false, Bool.false_eq_true, if_false] at walks
        cases walks
        exact ⟨start, (move_tells moves).1⟩

/-- **What every piece keeps, and what holds of the root, holds where a walk through links
ends.** -/
theorem walkLinks_invariant (root : holds []) (start : holds here) {links : Nat} {stop : Stop}
    (walks : files.walkLinks true spelled links here pieces = .ok stop) :
    stop.Keeps files holds := by
  induction links using Nat.strongRecOn generalizing here pieces with
  | ind links ih =>
    rcases walkLinks_cases walks with ends | ⟨left, directory, target, rest, rfl, stops, _, goesOn⟩
    · exact walk_invariant holds keeps start ends
    · refine ih left (Nat.lt_succ_self _) ?_ goesOn
      unfold startOf
      split_ifs
      · exact root
      · exact (walk_invariant holds keeps start stops).1

end Invariant

/-- One piece leads from a directory to something other than a link, or to a link in it. -/
theorem Proper.sound_move (proper : files.Proper) (stands : files.Stands here) {piece : String}
    {moved : Move} (moves : files.move spelled here piece = .ok moved) :
    (files.closed? here).isSome ∧ ∀ there, moved = .place there → files.Stands there := by
  obtain ⟨directory, tells⟩ := move_tells moves
  refine ⟨directory, ?_⟩
  rintro there rfl
  rcases tells with rfl | rfl | ⟨rfl, found⟩
  · exact stands
  · exact stands_of_directory (proper.parent _ stands.isSome)
  · exact found

/-- A walk stops at something other than a link, or in the directory of a link. -/
def Stop.Sound (files : FileSystem) : Stop → Prop
  | .found location => files.Stands location
  | .absent _ => True
  | .atLink directory _ _ => (files.closed? directory).isSome

theorem Stop.Keeps.sound {stop : Stop} (kept : stop.Keeps files files.Stands) :
    stop.Sound files := by
  cases stop with
  | found _ => exact kept
  | absent _ => trivial
  | atLink _ _ _ => exact kept.2

/-- A path starts in a directory. -/
theorem Proper.stands_startOf (proper : files.Proper) (stands : files.Stands here) (path : Path) :
    files.Stands (startOf here path) := by
  unfold startOf
  split
  · exact stands_of_directory proper.root
  · exact stands

/-- **A walk from a directory stays in directories.** -/
theorem Proper.sound_walkLinks (proper : files.Proper) (stands : files.Stands here) {links : Nat}
    {stop : Stop} (walks : files.walkLinks true spelled links here pieces = .ok stop) :
    stop.Sound files :=
  (walkLinks_invariant files.Stands (fun _ _ there standing moves =>
    (proper.sound_move standing moves).2 there rfl) (stands_of_directory proper.root) stands
      walks).sound

/-- **A path that is followed to its end leads to something other than a link.** -/
theorem Proper.stands_resolve (proper : files.Proper) {path : Path}
    (leads : files.resolve true path spelled = .ok location) : files.Stands location := by
  have start := proper.stands_startOf (stands_of_directory proper.current) path
  unfold resolve stop at leads
  split at leads
  · rename_i found stops
    cases leads
    split_ifs at stops
    exact proper.sound_walkLinks start stops
  · cases leads
  · cases leads

/-! ### Paths of locations -/

/-- **Where a name leads:** to what an open directory holds under it. A name that is looked up by
its own path has one that is short enough and passes open directories only. -/
theorem move_name_cases {name : String} (isName : IsName name) {moved : Move}
    (moves : files.move spelled here name = .ok moved) :
    files.closed? here = some false ∧
      (spelled = true → (pathOf (here ++ [name])).text.utf8ByteSize ≤ pathLimit ∧
        files.isOpenTo here = true) ∧
      (moved = .absent ∧ files.item? (here ++ [name]) = none ∨
        (∃ target, moved = .link target ∧ files.item? (here ++ [name]) = some (.link target)) ∨
        moved = .place (here ++ [name]) ∧ files.Stands (here ++ [name])) := by
  unfold move at moves
  cases state : files.closed? here with
  | none =>
    rw [state] at moves
    cases moves
  | some closed =>
    simp only [state, if_neg isName.nonempty, if_neg isName.not_current, if_neg isName.not_parent]
      at moves
    split_ifs at moves with isClosed _ long shut
    refine ⟨?_, fun isSpelled => ?_, ?_⟩
    · simpa [isName.not_current, isName.not_parent] using isClosed
    · simpa [isSpelled] using And.intro long shut
    · cases found : files.item? (here ++ [name]) with
      | none =>
        rw [found] at moves
        exact Or.inl ⟨(Except.ok.inj moves).symm, rfl⟩
      | some item =>
        rw [found] at moves
        cases item with
        | link target => exact Or.inr (Or.inl ⟨target, (Except.ok.inj moves).symm, rfl⟩)
        | regular _ _ | folder _ | device _ =>
          exact Or.inr (Or.inr ⟨(Except.ok.inj moves).symm, _, found, by simp⟩)

/-- In an open directory a name is looked up. -/
theorem move_of_open {name : String} (isName : IsName name)
    (isOpen : files.closed? here = some false) :
    files.move false here name =
      match files.item? (here ++ [name]) with
      | none => .ok .absent
      | some (.link target) => .ok (.link target)
      | some _ => .ok (.place (here ++ [name])) := by
  rw [move, isOpen]
  dsimp only
  rw [Bool.false_and, if_neg isName.nonempty, if_neg Bool.false_ne_true, if_neg isName.not_current,
    if_neg isName.not_parent, if_neg (Nat.not_lt.mpr isName.short)]
  rfl

theorem move_name {name : String} (isName : IsName name) (isOpen : files.closed? here = some false)
    (stands : files.Stands (here ++ [name])) :
    files.move false here name = .ok (.place (here ++ [name])) := by
  obtain ⟨item, found, other⟩ := stands
  rw [move_of_open isName isOpen, found]
  cases item with
  | link target => exact absurd rfl (other target)
  | regular _ _ | folder _ | device _ => rfl

/-- Names lead down to what stands below, or nowhere. -/
theorem Proper.walk_names (proper : files.Proper) {names : List String}
    (stands : files.Stands (here ++ names)) :
    files.walk follow spelled here names = .ok (.found (here ++ names)) ∨
      ∃ fault, files.walk follow spelled here names = .error fault := by
  induction names generalizing here with
  | nil => exact Or.inl (by rw [List.append_nil, walk])
  | cons name names ih =>
    have isName : IsName name := proper.named _ stands.isSome name (by simp)
    rw [List.append_cons] at stands ⊢
    have next : files.Stands (here ++ [name]) := by
      by_cases last : names = []
      · simpa [last] using stands
      · refine stands_of_directory
          (proper.directory_of_prefix stands.isSome (List.prefix_append _ _) ?_)
        simpa using last
    rw [walk]
    cases moves : files.move spelled here name with
    | error fault => exact Or.inr ⟨fault, rfl⟩
    | ok moved =>
      obtain ⟨item, found, other⟩ := next
      obtain ⟨-, -, ⟨_, absent⟩ | ⟨target, _, link⟩ | ⟨rfl, _⟩⟩ := move_name_cases isName moves
      · rw [absent] at found
        cases found
      · rw [link] at found
        exact absurd (Option.some.inj found).symm (other target)
      · exact ih stands

theorem Proper.walk_pathOf (proper : files.Proper) (follow spelled : Bool)
    (stands : files.Stands location) :
    files.walk follow spelled [] (piecesOf (pathOf location)) = .ok (.found location) ∨
      ∃ fault, files.walk follow spelled [] (piecesOf (pathOf location)) = .error fault := by
  by_cases root : location = []
  · have pieces : piecesOf (pathOf []) = [""] := by decide
    rw [root, pieces, walk, move_empty proper.root]
    exact Or.inl rfl
  · have names := proper.named _ stands.isSome
    rw [piecesOf_pathOf names root]
    exact proper.walk_names stands

/-- **The path of what stands at a location leads there, or nowhere.** -/
theorem Proper.resolve_pathOf (proper : files.Proper) (stands : files.Stands location) {found}
    (leads : files.resolve follow (pathOf location) spelled = .ok found) :
    found = location := by
  unfold resolve stop at leads
  split at leads
  · rename_i last stops
    cases leads
    split_ifs at stops
    unfold startOf at stops
    rw [if_pos (isAbsolute_pathOf location), walkLinks] at stops
    rcases proper.walk_pathOf follow spelled stands with walks | ⟨fault, fails⟩
    · rw [walks] at stops
      cases stops
      rfl
    · rw [fails] at stops
      cases stops
  · cases leads
  · cases leads

end DeclGraph.FileSystem
