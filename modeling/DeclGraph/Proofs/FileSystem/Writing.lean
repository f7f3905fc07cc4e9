/-
**Writing to a path.**

A write puts bytes at one place, where a file stood or nothing. No walk passes through such a place:
it is no directory, and a link that is followed is left behind for good. So the path still leads
there afterwards, and the file at its end holds what was written. A device takes the bytes and is
what it was.

* `item?_of_absent`, **`not_found_link`**: a name that a walk does not find is not there, and no
  walk comes back to a link from outside;
* **`walkLinks_insert`**: a walk ends at the place it ended at when a file is put there;
* `Wrote`: only the file that a path leads to has changed, and it holds the bytes;
* **`write_cases`**: what a write that succeeds has done.
-/

import DeclGraph.Proofs.FileSystem.Contents
import DeclGraph.Proofs.FileSystem.Resolution

namespace DeclGraph.FileSystem

variable {files other : FileSystem} {spelled : Bool} {here location : Location} {piece : String}
  {pieces : List String} {links : Nat} {stop : Stop} {path : Path} {bytes : List UInt8}
  {mode : Mode}

/-! ### Where a walk ends -/

/-- A path starts where it is or above. -/
theorem startOf_above (here : Location) (path : Path) : startOf here path <+: here := by
  unfold startOf
  split_ifs
  · exact List.nil_prefix
  · exact List.prefix_refl _

/-- A name that a walk does not find is not there. -/
theorem item?_of_absent
    (walks : files.walkLinks true spelled links here pieces = .ok (.absent location)) :
    files.item? location = none :=
  walkLinks_invariant (fun _ => True) (fun _ _ _ _ _ => trivial) trivial trivial walks

/-- **A followed link is left for good:** a walk that starts outside of what would lie below it does
not end at its place. -/
theorem not_found_link {target : String} (link : files.item? location = some (.link target))
    (outside : ¬ location <+: here) :
    files.walkLinks true spelled links here pieces ≠ .ok (.found location) := by
  intro walks
  have root : ¬ location <+: [] := fun isAbove =>
    outside (by rw [List.prefix_nil.mp isAbove]; exact List.nil_prefix)
  refine walkLinks_invariant (fun place => ¬ location <+: place) ?_ root outside walks
    (List.prefix_refl _)
  intro here piece there outside moves isAbove
  rcases (move_tells moves).2 with rfl | rfl | ⟨rfl, item, found, other⟩
  · exact outside isAbove
  · exact outside (isAbove.trans (List.dropLast_prefix _))
  · rcases List.prefix_concat_iff.mp isAbove with rfl | isAbove
    · rw [link] at found
      exact other target (Option.some.inj found).symm
    · exact outside isAbove

/-! ### Walks to a place at which a file is put -/

section Insert

variable (noDirectory : files.closed? location = none)

include noDirectory

theorem closed?_insert (place : Location) :
    (files.insert location (.regular bytes mode)).closed? place = files.closed? place := by
  unfold closed?
  rw [item?_insert]
  by_cases same : place = location
  · subst same
    rw [if_pos rfl]
    exact noDirectory.symm
  · rw [if_neg same]

/-- A piece leads where it led, or to the file where it led to nothing or into a link. -/
theorem move_insert (here : Location) (piece : String) :
    (files.insert location (.regular bytes mode)).move spelled here piece =
        files.move spelled here piece ∨
      here ++ [piece] = location ∧
        (files.insert location (.regular bytes mode)).move spelled here piece =
          .ok (.place location) ∧
        (files.move spelled here piece = .ok .absent ∨
          ∃ target, files.move spelled here piece = .ok (.link target)) := by
  unfold move isOpenTo
  simp only [closed?_insert noDirectory, item?_insert]
  by_cases same : here ++ [piece] = location
  · rw [if_pos same, same]
    cases files.closed? here with
    | none => exact Or.inl rfl
    | some closed =>
      dsimp only
      split_ifs
      any_goals exact Or.inl rfl
      cases files.item? location with
      | none => exact Or.inr ⟨rfl, rfl, Or.inl rfl⟩
      | some item =>
        cases item with
        | link target => exact Or.inr ⟨rfl, rfl, Or.inr ⟨target, rfl⟩⟩
        | regular _ _ | folder _ | device _ => exact Or.inl rfl
  · rw [if_neg same]
    exact Or.inl rfl

/-- What a stop says of the same walk with a file put at a place: it ends at the file if it did not
find the name before, and it still finds what it found and follows every other link. -/
def Stop.Passes (files : FileSystem) (location : Location) (walked : Except FileFault Stop) :
    Stop → Prop
  | .found place => walked = .ok (.found place)
  | .absent place => place = location → walked = .ok (.found location)
  | .atLink directory target rest =>
    walked = .ok (.atLink directory target rest) ∨
      ∃ piece, directory ++ [piece] = location ∧ files.item? location = some (.link target)

theorem walk_insert (bytes : List UInt8) (mode : Mode)
    (walks : files.walk true spelled here pieces = .ok stop) :
    stop.Passes files location
      ((files.insert location (.regular bytes mode)).walk true spelled here pieces) := by
  induction pieces generalizing here with
  | nil =>
    cases walks
    rfl
  | cons piece rest ih =>
    unfold walk at walks ⊢
    rcases move_insert noDirectory here piece with same | ⟨rfl, goes, absent | ⟨target, link⟩⟩
    · rw [same]
      cases moves : files.move spelled here piece with
      | error fault =>
        rw [moves] at walks
        cases walks
      | ok moved =>
        rw [moves] at walks
        cases moved with
        | place there => exact ih walks
        | absent =>
          dsimp only at walks
          split_ifs at walks
          cases walks
          intro here
          have there := (move_tells (same.trans moves)).2
          rw [Move.Tells, here, item?_insert, if_pos rfl] at there
          cases there
        | link target =>
          simp only [Bool.not_true, Bool.and_false, Bool.false_eq_true, if_false] at walks ⊢
          cases walks
          exact Or.inl rfl
    · rw [absent] at walks
      rw [goes]
      cases rest with
      | nil =>
        cases walks
        intro _
        rfl
      | cons _ _ => cases walks
    · rw [link] at walks
      simp only [Bool.not_true, Bool.and_false, Bool.false_eq_true, if_false] at walks
      cases walks
      exact Or.inr ⟨piece, rfl, (move_tells link).2⟩

/-- **A walk that ends at a place ends there when a file is put at it**, whether it found something
or nothing there. -/
theorem walkLinks_insert (walks : files.walkLinks true spelled links here pieces = .ok stop)
    (ends : stop = .found location ∨ stop = .absent location) :
    (files.insert location (.regular bytes mode)).walkLinks true spelled links here pieces =
      .ok (.found location) := by
  induction links using Nat.strongRecOn generalizing here pieces with
  | ind links ih =>
    rw [walkLinks]
    rcases walkLinks_cases walks with
      stops | ⟨left, directory, target, rest, rfl, stops, nonempty, goesOn⟩
    · have passes := walk_insert noDirectory bytes mode stops
      rcases ends with rfl | rfl
      · rw [Stop.Passes] at passes
        rw [passes]
      · rw [passes rfl]
    · rcases walk_insert noDirectory bytes mode stops with
        passes | ⟨piece, rfl, link⟩
      · rw [passes]
        dsimp only
        rw [nonempty, if_neg Bool.false_ne_true]
        exact ih left (Nat.lt_succ_self _) goesOn
      · have outside : ¬ directory ++ [piece] <+: startOf directory ⟨target⟩ := by
          intro isAbove
          have shorter := (isAbove.trans (startOf_above directory ⟨target⟩)).length_le
          rw [List.length_append] at shorter
          exact Nat.not_succ_le_self _ shorter
        rcases ends with rfl | rfl
        · exact absurd goesOn (not_found_link link outside)
        · have absent := item?_of_absent goesOn
          rw [link] at absent
          cases absent

end Insert

/-! ### What a write has done -/

/-- **Only the file that a path leads to has changed, and it holds the bytes.** Before, the path led
to the place of that file, where another file may have been, or to a name that was not there. -/
structure Wrote (files other : FileSystem) (path : Path) (bytes : List UInt8)
    (location : Location) : Prop where
  led : files.stop true path = .ok (.found location) ∨ files.stop true path = .ok (.absent location)
  leads : other.resolve true path = .ok location
  holds : ∃ mode, other.item? location = some (.regular bytes mode)
  elsewhere : ∀ place, place ≠ location → other.item? place = files.item? place
  current : other.current = files.current

/-- A path that leads to a place or to a name that is not there leads to the file put there. -/
theorem stop_insert (noDirectory : files.closed? location = none)
    (stops : files.stop true path spelled = .ok stop)
    (ends : stop = .found location ∨ stop = .absent location) :
    (files.insert location (.regular bytes mode)).stop true path spelled =
      .ok (.found location) := by
  unfold FileSystem.stop at stops ⊢
  split_ifs at stops ⊢
  exact walkLinks_insert noDirectory stops ends

theorem wrote_insert (noDirectory : files.closed? location = none)
    (led : files.stop true path = .ok (.found location) ∨
      files.stop true path = .ok (.absent location)) :
    Wrote files (files.insert location (.regular bytes mode)) path bytes location := by
  have leads : (files.insert location (.regular bytes mode)).resolve true path =
      .ok location := by
    unfold resolve
    rcases led with led | led
    · rw [stop_insert noDirectory led (Or.inl rfl)]
    · rw [stop_insert noDirectory led (Or.inr rfl)]
  have there : (files.insert location (.regular bytes mode)).item? location =
      some (.regular bytes mode) := by
    rw [item?_insert, if_pos rfl]
  refine ⟨led, leads, ⟨mode, there⟩, fun place elsewhere => ?_, rfl⟩
  rw [item?_insert, if_neg elsewhere]

/-- A write at a place puts a file there, unless a directory or a device stands there. -/
theorem writeAt_cases (writes : files.writeAt location bytes = .ok other) :
    (∃ device, files.item? location = some (.device device)) ∧ other = files ∨
      (∀ device, files.item? location ≠ some (.device device)) ∧ files.closed? location = none ∧
        ∃ mode, other = files.insert location (.regular bytes mode) := by
  unfold writeAt at writes
  unfold closed?
  cases found : files.item? location with
  | none =>
    rw [found] at writes
    dsimp only at writes
    split_ifs at writes
    exact Or.inr ⟨fun _ => (Option.some_ne_none _).symm, rfl, _, (Except.ok.inj writes).symm⟩
  | some item =>
    rw [found] at writes
    cases item with
    | regular _ _ =>
      dsimp only at writes
      split_ifs at writes
      refine Or.inr ⟨fun device => ?_, rfl, _, (Except.ok.inj writes).symm⟩
      simp
    | folder _ | link _ => cases writes
    | device device =>
      dsimp only at writes
      split at writes
      · cases writes
      · exact Or.inl ⟨⟨device, rfl⟩, (Except.ok.inj writes).symm⟩

/-- **What a write that succeeds has done:** it has put the bytes into the one file that the path
leads to, or a device stands there and nothing has changed. -/
theorem write_cases (writes : files.write path bytes = .ok other) :
    (∃ device, files.itemAt? true path = some (.device device)) ∧ other = files ∨
      (∀ device, files.itemAt? true path ≠ some (.device device)) ∧
        ∃ location, Wrote files other path bytes location := by
  unfold write at writes
  cases stops : files.stop true path with
  | error fault =>
    rw [stops] at writes
    cases fault
    case missing =>
      dsimp only at writes
      split at writes <;> cases writes
    all_goals cases writes
  | ok stop =>
    rw [stops] at writes
    cases stop with
    | found location =>
      have there : files.itemAt? true path = files.item? location := by
        simp only [itemAt?, resolve, stops]
      rw [there]
      rcases writeAt_cases writes with found | ⟨noDevice, noDirectory, mode, rfl⟩
      · exact Or.inl found
      · exact Or.inr ⟨noDevice, location, wrote_insert noDirectory (Or.inl stops)⟩
    | absent location =>
      have nowhere : files.itemAt? true path = none := by
        simp only [itemAt?, resolve, stops]
      rw [nowhere]
      rcases writeAt_cases writes with ⟨⟨device, found⟩, _⟩ | ⟨_, noDirectory, mode, rfl⟩
      · have absent : files.item? location = none := by
          unfold FileSystem.stop at stops
          split_ifs at stops
          exact item?_of_absent stops
        rw [absent] at found
        cases found
      · exact Or.inr ⟨fun _ => (Option.some_ne_none _).symm, location,
          wrote_insert noDirectory (Or.inr stops)⟩
    | atLink _ _ _ => cases writes

end DeclGraph.FileSystem
