/-
**Places of a source.**

A place is what comes of stepping over the characters of a source from its beginning. Rows count
line feeds, and each character moves the place on, so places are in the order of what stands before
them.

* `place`, `IsPlace`: the place behind some characters, the places of a source;
* `row_place`: rows count line feeds;
* **`prefix_of_place_lt`**: of two places of one source, the earlier one has less before it;
* `Position.rowBefore`: the row of the character before a place;
* **`row_lt_length_lines`**: the row of a character is the place of a line.
-/

import DeclGraph.Proofs.Text.Lines
import DeclGraph.Syntax.Cursor
import Mathlib.Order.Defs.LinearOrder

namespace DeclGraph.Syntax

namespace Position

/-! ### The order of places -/

instance : LE Position where
  le first second := first.row < second.row ∨ first.row = second.row ∧ first.column ≤ second.column

instance : LT Position where
  lt first second := first.row < second.row ∨ first.row = second.row ∧ first.column < second.column

instance (first second : Position) : Decidable (first ≤ second) :=
  inferInstanceAs (Decidable (_ ∨ _))

instance (first second : Position) : Decidable (first < second) :=
  inferInstanceAs (Decidable (_ ∨ _))

variable {first second : Position}

theorem le_def : first ≤ second ↔
    first.row < second.row ∨ first.row = second.row ∧ first.column ≤ second.column := Iff.rfl

theorem lt_def : first < second ↔
    first.row < second.row ∨ first.row = second.row ∧ first.column < second.column := Iff.rfl

instance : LinearOrder Position where
  le_refl _ := Or.inr ⟨rfl, Nat.le_refl _⟩
  le_trans first second third before behind := by
    rw [le_def] at *
    omega
  le_antisymm first second before behind := by
    rw [le_def] at before behind
    cases first
    cases second
    simp only [mk.injEq] at *
    omega
  le_total first second := by
    rw [le_def, le_def]
    omega
  lt_iff_le_not_ge first second := by
    rw [le_def, le_def, lt_def]
    omega
  toDecidableLE := inferInstance

theorem zero_le (position : Position) : {} ≤ position := by
  rw [le_def]
  show 0 < position.row ∨ 0 = position.row ∧ 0 ≤ position.column
  omega

theorem row_le (before : first ≤ second) : first.row ≤ second.row := by
  rw [le_def] at before
  omega

/-- A character moves a place on. -/
theorem lt_after (position : Position) (c : Char) : position < position.after c := by
  have wide := c.utf8Size_pos
  rw [lt_def]
  unfold after
  split
  · exact Or.inl (Nat.lt_succ_self _)
  · exact Or.inr ⟨rfl, Nat.lt_add_of_pos_right wide⟩

end Position

/-! ### Places of a source -/

/-- The place behind some characters. -/
def place (chars : List Char) : Position := chars.foldl Position.after {}

/-- A place of a source: what stands before it is where the source begins. -/
def IsPlace (chars : List Char) (position : Position) : Prop :=
  ∃ before, before <+: chars ∧ place before = position

instance (chars : List Char) (position : Position) : Decidable (IsPlace chars position) :=
  have counted :
      position ∈ (List.range (chars.length + 1)).map (fun count => place (chars.take count)) ↔
        IsPlace chars position := by
    constructor
    · intro member
      obtain ⟨count, _, same⟩ := List.mem_map.mp member
      exact ⟨chars.take count, List.take_prefix count chars, same⟩
    · rintro ⟨before, isPrefix, same⟩
      refine List.mem_map.mpr ⟨before.length, ?_, ?_⟩
      · exact List.mem_range.mpr (Nat.lt_succ_of_le isPrefix.length_le)
      · rw [← List.prefix_iff_eq_take.mp isPrefix, same]
  decidable_of_iff _ counted

variable {before chars first second : List Char} {c : Char}

theorem place_concat (before : List Char) (c : Char) :
    place (before ++ [c]) = (place before).after c := List.foldl_append ..

theorem row_foldl_after (position : Position) (chars : List Char) :
    (chars.foldl Position.after position).row = position.row + chars.count '\n' := by
  induction chars generalizing position with
  | nil => rfl
  | cons c rest ih =>
    rw [List.foldl_cons, ih, List.count_cons]
    unfold Position.after
    by_cases feed : c = '\n'
    · simp [feed]
      omega
    · simp [feed]

/-- **Rows count line feeds.** -/
theorem row_place (chars : List Char) : (place chars).row = chars.count '\n' := by
  unfold place
  rw [row_foldl_after, Nat.zero_add]

theorem le_foldl_after (position : Position) (chars : List Char) :
    position ≤ chars.foldl Position.after position := by
  induction chars generalizing position with
  | nil => exact le_refl position
  | cons c rest ih => exact le_trans (le_of_lt (position.lt_after c)) (ih _)

theorem place_le_place (isPrefix : first <+: second) : place first ≤ place second := by
  obtain ⟨rest, rfl⟩ := isPrefix
  unfold place
  rw [List.foldl_append]
  exact le_foldl_after _ _

/-- **Of two places of one source, the earlier one has less before it.** -/
theorem prefix_of_place_lt (isFirst : first <+: chars) (isSecond : second <+: chars)
    (less : place first < place second) : first <+: second := by
  rcases List.prefix_or_prefix_of_prefix isFirst isSecond with shorter | longer
  · exact shorter
  · exact absurd less (not_lt_of_ge (place_le_place longer))

/-- Nothing stands between a character and the place behind it. -/
theorem place_le_of_lt_concat (isFirst : first <+: chars) (isSecond : before ++ [c] <+: chars)
    (less : place first < place (before ++ [c])) : place first ≤ place before := by
  have shorter := prefix_of_place_lt isFirst isSecond less
  rcases List.prefix_concat_iff.mp shorter with rfl | shorter
  · exact absurd less (lt_irrefl _)
  · exact place_le_place shorter

/-! ### The row before a place -/

/-- The row of the character before a place: at the beginning of a row this is the line feed of the
row above. -/
def Position.rowBefore (position : Position) : Nat :=
  if position.column = 0 then position.row - 1 else position.row

theorem rowBefore_place_concat (before : List Char) (c : Char) :
    (place (before ++ [c])).rowBefore = (place before).row := by
  have wide := c.utf8Size_pos
  rw [place_concat]
  unfold Position.after Position.rowBefore
  split
  · rfl
  · rw [if_neg (by show ¬ _ + _ = 0; omega)]

theorem Position.rowBefore_le {first second : Position} (before : first ≤ second) :
    first.rowBefore ≤ second.rowBefore := by
  rw [le_def] at before
  unfold rowBefore
  split <;> split <;> omega

/-- **The row of a character is the place of a line.** -/
theorem row_lt_length_lines {source : String} (isPrefix : before ++ [c] <+: source.toList) :
    (place before).row < (Text.lines source).length := by
  obtain ⟨rest, whole⟩ := isPrefix
  have bound : before.count '\n' < (Text.linesOf (before ++ c :: rest)).length :=
    Text.count_lt_length_linesOf (List.cons_ne_nil c rest)
  unfold Text.lines
  rw [List.length_map, row_place, ← whole, List.append_assoc]
  exact bound

/-- A place has a character before it, unless the source begins there. -/
theorem IsPlace.exists_concat {position : Position} (isPlace : IsPlace chars position)
    (behind : position ≠ {}) :
    ∃ before c, before ++ [c] <+: chars ∧ place (before ++ [c]) = position := by
  obtain ⟨before, isPrefix, rfl⟩ := isPlace
  have nonempty : before ≠ [] := by
    rintro rfl
    exact behind rfl
  rw [← List.dropLast_concat_getLast nonempty] at isPrefix ⊢
  exact ⟨_, _, isPrefix, rfl⟩

end DeclGraph.Syntax
