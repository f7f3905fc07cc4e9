/-
**Paths that stay inside another path.**

A path stays inside a base if its components are those of the base and behind them others that never
climb out: among the first of them there are never more `..` than names. A path that is joined to the
base and stays inside does so because of what it says itself, whatever the base is.

* `Path.descends`: components that never climb out of where they start;
* `Path.Inside`: a path that stays inside a base;
* **`Path.components_join_of_relative`**: a relative path behind another path;
* **`Path.inside_join_iff`**: which paths stay inside when they are joined;
* `placeFrom`: the place that components spell;
* **`Path.Inside.isPrefix_place`**: a path that stays inside spells a place below that of the base.
-/

import DeclGraph.Proofs.Path.Pieces
import Mathlib.Data.List.TakeWhile

namespace DeclGraph

namespace Path

variable {path base other : Path} {level : Nat} {first second : List Component}

/-! ### Components that never climb out -/

/-- Whether components never climb higher than so many levels. -/
def descends : Nat → List Component → Bool
  | _, [] => true
  | level, .name _ :: rest => descends (level + 1) rest
  | level, .current :: rest => descends level rest
  | level + 1, .parent :: rest => descends level rest
  | 0, .parent :: _ => false
  | _, .root :: _ => false

theorem descends_concat_name (name : String) (descends : descends level first = true) :
    Path.descends level (first ++ [.name name]) = true := by
  induction first generalizing level with
  | nil => rfl
  | cons component rest ih =>
    cases component with
    | root => cases descends
    | current => exact ih descends
    | name text => exact ih descends
    | parent =>
      cases level with
      | zero => cases descends
      | succ level => exact ih descends

/-- **A path stays inside a base.** -/
def Inside (path base : Path) : Prop :=
  ∃ rest, path.components = base.components ++ rest ∧ descends 0 rest = true

instance (path base : Path) : Decidable (path.Inside base) :=
  decidable_of_iff
    (base.components <+: path.components ∧
      descends 0 (path.components.drop base.components.length) = true) <| by
    constructor
    · rintro ⟨⟨rest, same⟩, stays⟩
      rw [← same, List.drop_left] at stays
      exact ⟨rest, same.symm, stays⟩
    · rintro ⟨rest, same, stays⟩
      rw [same, List.drop_left]
      exact ⟨List.prefix_append _ _, stays⟩

/-- A name behind a path that stays inside. -/
theorem Inside.join (inside : path.Inside base) {name : String} (isName : IsName name) :
    (path.join ⟨name⟩).Inside base := by
  obtain ⟨rest, same, stays⟩ := inside
  refine ⟨rest ++ [.name name], ?_, descends_concat_name name stays⟩
  rw [components_join isName, same, List.append_assoc]

/-! ### A relative path behind a path -/

/-- What does not begin with a slash has a first piece. -/
theorem piecesIn_ne_nil {text : List Char} (nonempty : text ≠ []) (starts : text.head? ≠ some '/') :
    piecesIn text ≠ [] := by
  obtain ⟨c, rest, rfl⟩ := List.exists_cons_of_ne_nil nonempty
  have notSlash : (c != '/') = true := by simpa using starts
  have split : c :: rest =
      (c :: rest.takeWhile (· != '/')) ++ rest.dropWhile (· != '/') := by
    rw [List.cons_append, List.takeWhile_append_dropWhile]
  have plain : '/' ∉ c :: rest.takeWhile (· != '/') := by
    intro member
    rcases List.mem_cons.mp member with rfl | member
    · exact absurd notSlash (by simp)
    · have own := List.mem_takeWhile_imp member
      exact absurd own (by simp)
  rw [split, piecesIn_append, piecesIn_plain (List.cons_ne_nil _ _) plain]
  · exact List.cons_ne_nil _ _
  · intro x _ y isHead
    have slash := List.head?_dropWhile_not (· != '/') rest
    rw [Option.mem_def] at isHead
    rw [isHead] at slash
    have isSlash : (y != '/') = false := by simpa using slash
    rw [isSlash, Bool.and_false]

/-- The components of a path behind another one. -/
def innerComponents (path : Path) : List Component := path.pieces.filterMap innerComponent?

theorem toList_join_of_relative (nonempty : path.text ≠ "") (relative : other.isAbsolute = false) :
    ∃ before, (path.text.toList = before ∨ path.text.toList = before ++ ['/']) ∧
      (path.join other).text.toList = before ++ '/' :: other.text.toList := by
  unfold join
  rw [if_neg (by rw [relative]; exact Bool.false_ne_true)]
  by_cases slash : path.text.toList.getLast? = some '/'
  · obtain ⟨before, ends⟩ := List.getLast?_eq_some_iff.mp slash
    rw [if_pos (by simp [slash])]
    exact ⟨before, Or.inr ends, by simp [ends]⟩
  · rw [if_neg (by simp [nonempty, slash])]
    exact ⟨path.text.toList, Or.inl rfl, by simp⟩

/-- **A relative path behind another one puts its components behind those of that one.** -/
theorem components_join_of_relative (nonempty : path.text ≠ "")
    (relative : other.isAbsolute = false) :
    (path.join other).components = path.components ++ other.innerComponents := by
  obtain ⟨before, spelled, text⟩ := toList_join_of_relative nonempty relative
  have nothing : piecesIn [] = [] := rfl
  have own : path.pieces = piecesIn before := by
    rw [pieces_eq]
    rcases spelled with spelled | spelled <;> rw [spelled]
    rw [piecesIn_append_slash, nothing, List.append_nil]
  have pieces : (path.join other).pieces = path.pieces ++ other.pieces := by
    rw [pieces_eq, text, piecesIn_append_slash, own, pieces_eq]
  have notEmpty : path.text.toList ≠ [] := by simpa using nonempty
  have absolute : (path.join other).isAbsolute = path.isAbsolute := by
    unfold isAbsolute
    rw [text]
    rcases spelled with spelled | spelled <;> rw [spelled] at notEmpty ⊢ <;> cases before <;>
      first | rfl | exact absurd rfl notEmpty
  unfold components innerComponents
  simp only [pieces, absolute, List.filterMap_append]
  by_cases starts : path.isAbsolute = true
  · rw [if_pos starts, if_pos starts, List.cons_append]
  · have some : path.pieces ≠ [] := piecesIn_ne_nil notEmpty (by simpa [isAbsolute] using starts)
    rw [if_neg starts, if_neg starts, List.head?_append_of_ne_nil _ some]
    split <;> rfl

/-- Whether a path that is joined to another one never climbs out of it. -/
def neverClimbs (path : Path) : Bool := descends 0 path.innerComponents

theorem descends_components (relative : path.isAbsolute = false) :
    descends 0 path.components = path.neverClimbs := by
  unfold components neverClimbs innerComponents
  rw [relative]
  simp only [Bool.false_eq_true, if_false]
  split <;> rfl

theorem components_empty : (⟨""⟩ : Path).components = [] := by rfl

theorem inside_iff_of_components {rest : List Component}
    (same : path.components = base.components ++ rest) :
    path.Inside base ↔ descends 0 rest = true := by
  constructor
  · rintro ⟨other, sameOther, stays⟩
    rw [same] at sameOther
    rw [List.append_cancel_left sameOther]
    exact stays
  · exact fun stays => ⟨rest, same, stays⟩

/-- **Which paths stay inside when they are joined**: relative ones that never climb out, and absolute
ones that are already spelled inside. -/
theorem inside_join_iff : (base.join other).Inside base ↔
    other.isAbsolute = false ∧ other.neverClimbs = true ∨
      other.isAbsolute = true ∧ other.Inside base := by
  cases absolute : other.isAbsolute with
  | true => simp [join, absolute]
  | false =>
    have stays : (base.join other).Inside base ↔ other.neverClimbs = true := by
      by_cases empty : base.text = ""
      · obtain rfl : base = ⟨""⟩ := by
          cases base
          exact congrArg Path.mk empty
        have joined : (⟨""⟩ : Path).join other = other := by simp [join, absolute]
        rw [joined, ← descends_components absolute]
        exact inside_iff_of_components (by rw [components_empty, List.nil_append])
      · exact inside_iff_of_components (components_join_of_relative empty absolute)
    simp [stays]

end Path

/-! ### Spelled places -/

/-- The place that components spell, from a place on. -/
def placeFrom : Location → List Component → Location
  | here, [] => here
  | _, .root :: rest => placeFrom [] rest
  | here, .current :: rest => placeFrom here rest
  | here, .parent :: rest => placeFrom here.dropLast rest
  | here, .name name :: rest => placeFrom (here ++ [name]) rest

theorem placeFrom_append {here : Location} {first second : List Component} :
    placeFrom here (first ++ second) = placeFrom (placeFrom here first) second := by
  induction first generalizing here with
  | nil => rfl
  | cons component rest ih => cases component <;> exact ih

/-- **Components that never climb out stay below the place where they start.** -/
theorem isPrefix_placeFrom {base deeper : Location} {rest : List Component}
    (stays : Path.descends deeper.length rest = true) : base <+: placeFrom (base ++ deeper) rest := by
  induction rest generalizing deeper with
  | nil => exact List.prefix_append _ _
  | cons component rest ih =>
    cases component with
    | root => cases deeper <;> cases stays
    | current => exact ih stays
    | name name =>
      rw [placeFrom, List.append_assoc]
      refine ih ?_
      rw [List.length_append]
      exact stays
    | parent =>
      rcases List.eq_nil_or_concat deeper with rfl | ⟨above, last, rfl⟩
      · cases stays
      · rw [List.concat_eq_append] at stays ⊢
        rw [placeFrom, ← List.append_assoc, List.dropLast_concat]
        rw [List.length_append, List.length_singleton] at stays
        exact ih stays

/-- **A path that stays inside spells a place below that of the base.** -/
theorem Path.Inside.isPrefix_place {path base : Path} (inside : path.Inside base)
    (here : Location) : placeFrom here base.components <+: placeFrom here path.components := by
  obtain ⟨rest, same, stays⟩ := inside
  rw [same, placeFrom_append]
  have below : placeFrom here base.components <+:
      placeFrom (placeFrom here base.components ++ []) rest := isPrefix_placeFrom stays
  rwa [List.append_nil] at below

end DeclGraph
