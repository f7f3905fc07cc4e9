/-
**Names behind a path.**

When a path leads to a directory, then a longer path goes on from there: its walk is the walk of the
first path and behind it the walk of the rest, with the links that are left. A path that is spelled
out on the way leads to the same place, unless one of the spelled paths is barred.

* `walk_append`, **`walkLinks_append`**: walks along pieces in two parts;
* `Barred`, **`resolve_spelled`**: what may keep a path that is spelled out from its place;
* `Reaches`: the pieces of a path lead to a place;
* **`Reaches.join`**: a name behind a path;
* **`Proper.resolve_of_open`**: a place whose path is short enough and open is found by that path.
-/

import DeclGraph.Proofs.FileSystem.Resolution

namespace DeclGraph.FileSystem

variable {files : FileSystem} {follow spelled : Bool} {here location : Location}
  {pieces rest : List String} {links : Nat} {path : Path} {fault : FileFault}

/-! ### Walks in two parts -/

/-- A walk along pieces and more pieces. -/
theorem walk_append (more : rest ≠ []) :
    files.walk follow spelled here (pieces ++ rest) =
      match files.walk true spelled here pieces with
      | .ok (.found there) => files.walk follow spelled there rest
      | .ok (.absent _) => .error .missing
      | .ok (.atLink directory target behind) => .ok (.atLink directory target (behind ++ rest))
      | .error fault => .error fault := by
  induction pieces generalizing here with
  | nil => rfl
  | cons piece pieces ih =>
    have goesOn : (pieces ++ rest).isEmpty = false := by simp [more]
    rw [List.cons_append, walk, walk]
    cases files.move spelled here piece with
    | error fault => rfl
    | ok moved =>
      cases moved with
      | place there => exact ih
      | absent =>
        simp only [goesOn, Bool.false_eq_true, if_false]
        cases pieces <;> rfl
      | link target => simp [goesOn]

/-- The walk along more pieces, from where the walk along the first ones ended, with so many links
left. -/
def walkOn (files : FileSystem) (follow spelled : Bool) (links : Nat) (rest : List String) :
    Except FileFault Stop → Except FileFault Stop
  | .ok (.found there) => files.walkLinks follow spelled links there rest
  | .ok _ => .error .missing
  | .error fault => .error fault

/-- **A walk through links goes on where the walk along its first part ends.** The target of a link
is put in front of the pieces behind it, so those of the second part stay at the end. -/
theorem walkLinks_append (files : FileSystem) (spelled : Bool) (links : Nat) (here : Location)
    (pieces : List String) :
    ∃ left, ∀ follow rest, rest ≠ [] →
      files.walkLinks follow spelled links here (pieces ++ rest) =
        files.walkOn follow spelled left rest (files.walkLinks true spelled links here pieces) := by
  induction links using Nat.strongRecOn generalizing here pieces with
  | ind links ih =>
    cases walked : files.walk true spelled here pieces with
    | error fault =>
      refine ⟨links, fun follow rest more => ?_⟩
      rw [walkLinks, walkLinks, walk_append more, walked]
      rfl
    | ok stop =>
      cases stop with
      | found there =>
        refine ⟨links, fun follow rest more => ?_⟩
        rw [walkLinks, walkLinks, walk_append more, walked]
        simp only [walkOn]
        rw [walkLinks]
      | absent there =>
        refine ⟨links, fun follow rest more => ?_⟩
        rw [walkLinks, walkLinks, walk_append more, walked]
        rfl
      | atLink directory target behind =>
        cases links with
        | zero =>
          refine ⟨0, fun follow rest more => ?_⟩
          rw [walkLinks, walkLinks, walk_append more, walked]
          rfl
        | succ links =>
          obtain ⟨left, goesOn⟩ := ih links (Nat.lt_succ_self _) (startOf directory ⟨target⟩)
            (piecesOf ⟨target⟩ ++ behind)
          refine ⟨left, fun follow rest more => ?_⟩
          rw [walkLinks, walkLinks, walk_append more, walked]
          dsimp only
          split_ifs
          · rfl
          · rw [← goesOn follow rest more, List.append_assoc]

/-- One piece that leads to a place. -/
theorem walkLinks_cons {piece : String} {there : Location}
    (moves : files.move spelled here piece = .ok (.place there)) :
    files.walkLinks follow spelled links here (piece :: rest) =
      files.walkLinks follow spelled links there rest := by
  rw [walkLinks, walkLinks, walk, moves]

/-- No pieces lead nowhere else. -/
theorem walkLinks_nil :
    files.walkLinks follow spelled links here [] = .ok (.found here) := by
  rw [walkLinks, walk]

/-- A slash at the end of a path stays in a directory. -/
theorem walkLinks_slash (directory : (files.closed? here).isSome) :
    files.walkLinks follow spelled links here [""] = .ok (.found here) := by
  rw [walkLinks_cons (move_empty directory), walkLinks_nil]

/-- What a path with a slash at its end leads to, it leads to without. -/
theorem walkLinks_of_slash
    (walks : files.walkLinks true spelled links here (pieces ++ [""]) = .ok (.found location)) :
    files.walkLinks true spelled links here pieces = .ok (.found location) := by
  obtain ⟨left, goesOn⟩ := walkLinks_append files spelled links here pieces
  rw [goesOn true [""] (by simp)] at walks
  cases first : files.walkLinks true spelled links here pieces with
  | error fault =>
    rw [first] at walks
    cases walks
  | ok stop =>
    rw [first] at walks
    cases stop with
    | found there =>
      simp only [walkOn] at walks
      cases state : files.closed? there with
      | none =>
        rw [walkLinks, walk, move, state] at walks
        cases walks
      | some closed =>
        rw [walkLinks_slash (by rw [state]; rfl)] at walks
        cases walks
        rfl
    | absent _ => cases walks
    | atLink _ _ _ => cases walks

/-! ### Paths that are spelled out -/

/-- What may keep a path that is spelled out from its place: it is too long, or a directory above is
closed. -/
def Barred (fault : FileFault) : Prop := fault = .nameTooLong ∨ fault = .denied

/-- A piece leads to the same place with its path spelled out, unless that path is barred. -/
theorem move_spelled {piece : String} {moved : Move}
    (moves : files.move false here piece = .ok moved) :
    files.move true here piece = .ok moved ∨
      ∃ fault, files.move true here piece = .error fault ∧ Barred fault := by
  unfold move at moves ⊢
  cases state : files.closed? here with
  | none =>
    rw [state] at moves
    cases moves
  | some closed =>
    simp only [state, Bool.false_and, Bool.not_false, Bool.and_true, Bool.true_and,
      Bool.false_eq_true, if_false] at moves ⊢
    by_cases empty : piece = ""
    · rw [if_pos empty] at moves ⊢
      exact Or.inl moves
    · cases closed with
      | true => simp [empty] at moves
      | false =>
        simp only [empty, Bool.false_and, Bool.false_eq_true, if_false] at moves ⊢
        split_ifs at moves ⊢
        · exact Or.inl moves
        · exact Or.inl moves
        · exact Or.inr ⟨_, rfl, Or.inl rfl⟩
        · exact Or.inr ⟨_, rfl, Or.inr rfl⟩
        · exact Or.inl moves

theorem walk_spelled {stop : Stop} (walks : files.walk follow false here pieces = .ok stop) :
    files.walk follow true here pieces = .ok stop ∨
      ∃ fault, files.walk follow true here pieces = .error fault ∧ Barred fault := by
  induction pieces generalizing here with
  | nil => exact Or.inl walks
  | cons piece pieces ih =>
    rw [walk] at walks ⊢
    cases moves : files.move false here piece with
    | error fault =>
      rw [moves] at walks
      cases walks
    | ok moved =>
      rw [moves] at walks
      rcases move_spelled moves with same | ⟨fault, fails, barred⟩
      · rw [same]
        cases moved with
        | place there => exact ih walks
        | absent => exact Or.inl walks
        | link target => exact Or.inl walks
      · rw [fails]
        exact Or.inr ⟨fault, rfl, barred⟩

/-- **A path leads to the same place with all paths spelled out, unless one of them is barred.** -/
theorem walkLinks_spelled {stop : Stop}
    (walks : files.walkLinks follow false links here pieces = .ok stop) :
    files.walkLinks follow true links here pieces = .ok stop ∨
      ∃ fault, files.walkLinks follow true links here pieces = .error fault ∧ Barred fault := by
  induction links using Nat.strongRecOn generalizing here pieces with
  | ind links ih =>
    rw [walkLinks] at walks ⊢
    cases stops : files.walk follow false here pieces with
    | error fault =>
      rw [stops] at walks
      cases walks
    | ok first =>
      rw [stops] at walks
      rcases walk_spelled stops with same | ⟨fault, fails, barred⟩
      · rw [same]
        cases first with
        | found there => exact Or.inl walks
        | absent there => exact Or.inl walks
        | atLink directory target behind =>
          cases links with
          | zero => exact Or.inl walks
          | succ links =>
            dsimp only at walks ⊢
            split_ifs at walks ⊢
            exact ih links (Nat.lt_succ_self _) walks
      · rw [fails]
        exact Or.inr ⟨fault, rfl, barred⟩

/-! ### Paths that lead somewhere -/

/-- A text that a file system takes for a path. One that is spelled out may be long. -/
structure Admissible (spelled : Bool) (path : Path) : Prop where
  no_zero : '\x00' ∉ path.text.toList
  nonempty : path.text ≠ ""
  short : spelled = false → path.text.utf8ByteSize ≤ pathLimit

theorem Admissible.of_plain (admissible : Admissible false path) : Admissible spelled path :=
  ⟨admissible.no_zero, admissible.nonempty, fun _ => admissible.short rfl⟩

theorem resolve_eq_ok_iff :
    files.resolve follow path spelled = .ok location ↔ Admissible spelled path ∧
      files.walkLinks follow spelled linkLimit (startOf files.current path) (piecesOf path) =
        .ok (.found location) := by
  unfold resolve stop
  constructor
  · intro leads
    split at leads
    · rename_i stops
      cases leads
      split_ifs at stops with zero empty long
      refine ⟨⟨?_, ?_, fun plain => ?_⟩, stops⟩
      · simpa using zero
      · simpa [String.isEmpty_iff] using empty
      · simpa [plain] using long
    · cases leads
    · cases leads
  · rintro ⟨⟨noZero, nonempty, short⟩, walks⟩
    have fits : ¬ (!spelled && pathLimit < path.text.utf8ByteSize) = true := by
      cases spelled with
      | true => simp
      | false => simpa using short rfl
    rw [if_neg (by simpa using noZero), if_neg (by simpa [String.isEmpty_iff] using nonempty),
      if_neg fits, walks]

theorem resolve_spelled (leads : files.resolve follow path = .ok location) :
    files.resolve follow path true = .ok location ∨
      ∃ fault, files.resolve follow path true = .error fault ∧ Barred fault := by
  obtain ⟨admissible, walks⟩ := resolve_eq_ok_iff.mp leads
  rcases walkLinks_spelled walks with same | ⟨fault, fails, barred⟩
  · exact Or.inl (resolve_eq_ok_iff.mpr ⟨admissible.of_plain, same⟩)
  · refine Or.inr ⟨fault, ?_, barred⟩
    unfold resolve stop
    rw [if_neg (by simpa using admissible.no_zero),
      if_neg (by simpa [String.isEmpty_iff] using admissible.nonempty), if_neg (by simp), fails]

/-- The pieces of a path lead to a place. -/
def Reaches (files : FileSystem) (spelled : Bool) (path : Path) (location : Location) : Prop :=
  files.walkLinks true spelled linkLimit (startOf files.current path) path.pieces =
    .ok (.found location)

theorem reaches_of_resolve (leads : files.resolve true path spelled = .ok location) :
    files.Reaches spelled path location := by
  have walks := (resolve_eq_ok_iff.mp leads).2
  unfold piecesOf at walks
  split_ifs at walks
  · exact walkLinks_of_slash walks
  · rwa [List.append_nil] at walks

namespace Reaches

/-- Pieces lead to one place. -/
theorem unique {other : Location} (reaches : files.Reaches spelled path location)
    (reachesOther : files.Reaches spelled path other) : location = other := by
  unfold Reaches at reaches reachesOther
  rw [reaches] at reachesOther
  cases reachesOther
  rfl

/-- Spelled out or not, pieces lead to one place. -/
theorem eq_of_spelled {other : Location} (reaches : files.Reaches true path location)
    (reachesOther : files.Reaches false path other) : location = other := by
  unfold Reaches at reaches reachesOther
  rcases walkLinks_spelled reachesOther with same | ⟨fault, fails, _⟩
  · rw [reaches] at same
    cases same
    rfl
  · rw [fails] at reaches
    cases reaches

/-- A path that reaches a directory leads there, with a slash at its end or not. -/
theorem resolve (reaches : files.Reaches spelled path location)
    (admissible : Admissible spelled path)
    (directory : (files.closed? location).isSome) :
    files.resolve true path spelled = .ok location := by
  refine resolve_eq_ok_iff.mpr ⟨admissible, ?_⟩
  unfold piecesOf
  split_ifs
  · obtain ⟨left, goesOn⟩ := walkLinks_append files spelled linkLimit
      (startOf files.current path) path.pieces
    rw [goesOn true [""] (by simp), reaches]
    exact walkLinks_slash directory
  · rwa [List.append_nil]

/-- A path that goes on behind another one passes the place of that one. -/
theorem above {base : Path} (reaches : files.Reaches spelled path location)
    (absolute : path.isAbsolute = base.isAbsolute) (split : path.pieces = base.pieces ++ rest)
    (more : rest ≠ []) : ∃ place, files.Reaches spelled base place := by
  obtain ⟨left, goesOn⟩ := walkLinks_append files spelled linkLimit
    (startOf files.current base) base.pieces
  unfold Reaches at reaches ⊢
  have start : startOf files.current path = startOf files.current base := by
    rw [startOf, startOf, absolute]
  rw [start, split, goesOn true rest more] at reaches
  cases walks : files.walkLinks true spelled linkLimit (startOf files.current base) base.pieces with
  | error fault =>
    rw [walks] at reaches
    cases reaches
  | ok stop =>
    rw [walks] at reaches
    cases stop with
    | found place => exact ⟨place, rfl⟩
    | absent _ => cases reaches
    | atLink _ _ _ => cases reaches

/-- The walk along a joined name goes on from the place of the path. -/
theorem walkLinks_join (reaches : files.Reaches spelled path location) {name : String}
    (isName : IsName name) :
    ∃ left, ∀ follow, files.walkLinks follow spelled linkLimit
      (startOf files.current (path.join ⟨name⟩)) (path.join ⟨name⟩).pieces =
        files.walkLinks follow spelled left location [name] := by
  obtain ⟨left, goesOn⟩ := walkLinks_append files spelled linkLimit
    (startOf files.current path) path.pieces
  refine ⟨left, fun follow => ?_⟩
  rw [startOf, Path.isAbsolute_join isName, ← startOf, Path.pieces_join isName,
    goesOn follow [name] (List.cons_ne_nil _ _), reaches]
  rfl

/-- **A name behind a path leads to the place below**, unless a link stands there. -/
theorem join {name : String} {found : Location} (reaches : files.Reaches false path location)
    (isName : IsName name) (leads : files.resolve true (path.join ⟨name⟩) = .ok found)
    (own : files.isLink (path.join ⟨name⟩) = false) : found = location ++ [name] := by
  obtain ⟨left, walks⟩ := reaches.walkLinks_join isName
  have pieces : piecesOf (path.join ⟨name⟩) = (path.join ⟨name⟩).pieces := by
    rw [piecesOf, if_neg (Path.getLast?_join isName), List.append_nil]
  obtain ⟨admissible, leads⟩ := resolve_eq_ok_iff.mp leads
  rw [pieces, walks, walkLinks, walk] at leads
  cases moves : files.move false location name with
  | error fault =>
    rw [moves] at leads
    cases leads
  | ok moved =>
    rw [moves] at leads
    obtain ⟨-, -, ⟨rfl, _⟩ | ⟨target, rfl, link⟩ | ⟨rfl, _⟩⟩ := move_name_cases isName moves
    · cases leads
    · have stays : files.resolve false (path.join ⟨name⟩) = .ok (location ++ [name]) := by
        refine resolve_eq_ok_iff.mpr ⟨admissible, ?_⟩
        rw [pieces, walks, walkLinks, walk, moves]
        rfl
      simp [isLink, itemAt?, stays, link] at own
    · cases leads
      rfl

/-- A name is looked up by its own path, which must be short enough and open. -/
theorem spelled_join {name : String} {found : Location}
    (reaches : files.Reaches true (path.join ⟨name⟩) found)
    (isName : IsName name) (reachesPath : files.Reaches false path location) :
    (pathOf (location ++ [name])).text.utf8ByteSize ≤ pathLimit ∧
      files.isOpenTo location = true := by
  obtain ⟨place, above⟩ := reaches.above (Path.isAbsolute_join isName) (Path.pieces_join isName)
    (List.cons_ne_nil _ _)
  obtain rfl := above.eq_of_spelled reachesPath
  obtain ⟨left, walks⟩ := above.walkLinks_join isName
  rw [Reaches, walks, walkLinks, walk] at reaches
  cases moves : files.move true place name with
  | error fault =>
    rw [moves] at reaches
    cases reaches
  | ok moved =>
    exact (move_name_cases isName moves).2.1 rfl

end Reaches

/-! ### Places that are found again -/

theorem closed?_of_isOpenTo {directory above : Location} (isOpen : files.isOpenTo directory = true)
    (isAbove : above <+: directory) : files.closed? above = some false := by
  have known := List.all_eq_true.mp isOpen above.length
    (List.mem_range.mpr (Nat.lt_succ_of_le isAbove.length_le))
  rw [List.prefix_iff_eq_take.mp isAbove]
  exact beq_iff_eq.mp known

/-- Names lead down through open directories. -/
theorem Proper.walk_open (proper : files.Proper) {names : List String}
    (stands : files.Stands (here ++ names))
    (isOpen : ∀ above, above <+: here ++ names → above ≠ here ++ names →
      files.closed? above = some false) :
    files.walk follow false here names = .ok (.found (here ++ names)) := by
  induction names generalizing here with
  | nil => rw [List.append_nil, walk]
  | cons name names ih =>
    have isName : IsName name := proper.named _ stands.isSome name (by simp)
    have isOpenHere := isOpen here (List.prefix_append _ _) (by simp)
    rw [List.append_cons] at stands isOpen ⊢
    have next : files.Stands (here ++ [name]) := by
      by_cases last : names = []
      · simpa [last] using stands
      · refine stands_of_directory ?_
        rw [isOpen _ (List.prefix_append _ _) (by simpa using last)]
        rfl
    rw [walk, move_name isName isOpenHere next]
    exact ih stands isOpen

/-- **A place with a path that is short enough and open is found by its path.** -/
theorem Proper.resolve_of_open (proper : files.Proper) {name : String}
    (stands : files.Stands (location ++ [name])) (isOpen : files.isOpenTo location = true)
    (short : (pathOf (location ++ [name])).text.utf8ByteSize ≤ pathLimit) :
    files.resolve true (pathOf (location ++ [name])) = .ok (location ++ [name]) := by
  have names := proper.named _ stands.isSome
  have below : location ++ [name] ≠ [] := by simp
  have isOpenAbove : ∀ above, above <+: [] ++ (location ++ [name]) →
      above ≠ [] ++ (location ++ [name]) → files.closed? above = some false := by
    intro above isAbove other
    exact closed?_of_isOpenTo isOpen ((List.prefix_concat_iff.mp isAbove).resolve_left other)
  have noZero : '\x00' ∉ (pathOf (location ++ [name])).text.toList := fun member => by
    rcases mem_toList_pathOf member with slash | ⟨other, isPart, zero⟩
    · cases slash
    · exact (names other isPart).no_zero zero
  have nonempty : (pathOf (location ++ [name])).text ≠ "" := fun empty => by
    have text := toList_pathOf (location ++ [name])
    rw [empty] at text
    cases text
  refine resolve_eq_ok_iff.mpr ⟨⟨noZero, nonempty, fun _ => short⟩, ?_⟩
  have walks : files.walk true false [] (location ++ [name]) = .ok (.found (location ++ [name])) :=
    proper.walk_open stands isOpenAbove
  rw [startOf, if_pos (isAbsolute_pathOf _), piecesOf_pathOf names below, walkLinks, walks]

end DeclGraph.FileSystem
