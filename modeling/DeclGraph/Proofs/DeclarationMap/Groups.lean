/-
**The groups of a receiver are gone after one pass.**

A pass goes over a text from the left and takes out every group that it meets. What stood on both
sides of a group meets then, but it never forms a new one. An opening bracket stays only where no
closing one is behind it on its line; so no group begins behind it on that line either, and the line
stays as it is, with its line feed.

* `Opens`: a text begins with an opening bracket that is closed on its line;
* `Ungrouped`: that holds nowhere in a text;
* `Pruning`: a pass, told by the groups that it takes out and by the characters that it leaves;
* **`pruning_iff`**: `withoutGroups` gives what such a pass leaves;
* `behindBracket?_withoutGroups`: a line without a closing bracket stays one;
* **`ungrouped_withoutGroups`**: what a pass leaves is without groups;
* **`one_pass_prunes_receiver`**: the same for the receivers of all keys.
-/

import DeclGraph.DeclarationMap.Key
import Mathlib.Data.List.Infix

namespace DeclGraph.Key

/-! ### Groups -/

/-- A text begins with an opening bracket, and a closing one is behind it on the same line. -/
def Opens (chars : List Char) : Prop :=
  ∃ inside after, chars = '[' :: (inside ++ ']' :: after) ∧ '\n' ∉ inside

/-- Nowhere in a text is an opening bracket with a closing one behind it on the same line. -/
def Ungrouped (chars : List Char) : Prop := ∀ rest, rest <:+ chars → ¬ Opens rest

/-- A pass over a text from the left, and what it leaves. Where a group begins, everything up to its
first closing bracket is taken out; every other character stays, in its place among the others. -/
inductive Pruning : List Char → List Char → Prop
  | done : Pruning [] []
  | keep {c : Char} {chars kept : List Char} (outside : ¬ Opens (c :: chars))
      (behind : Pruning chars kept) : Pruning (c :: chars) (c :: kept)
  | remove {inside after kept : List Char} (shortest : ∀ c ∈ inside, c ≠ ']' ∧ c ≠ '\n')
      (behind : Pruning after kept) : Pruning ('[' :: (inside ++ ']' :: after)) kept

section Groups

variable {c : Char} {chars inside after : List Char}

theorem not_opens_of_ne (other : c ≠ '[') : ¬ Opens (c :: chars) := by
  rintro ⟨inside, after, same, -⟩
  exact other (List.cons.inj same).1

theorem Opens.append (opens : Opens chars) (behind : List Char) : Opens (chars ++ behind) := by
  obtain ⟨inside, after, rfl, oneLine⟩ := opens
  exact ⟨inside, after ++ behind, by simp, oneLine⟩

theorem ungrouped_nil : Ungrouped [] := by
  intro rest suffix opens
  obtain ⟨inside, after, rfl, -⟩ := opens
  exact List.cons_ne_nil _ _ (List.suffix_nil.mp suffix)

theorem ungrouped_cons_iff : Ungrouped (c :: chars) ↔ ¬ Opens (c :: chars) ∧ Ungrouped chars := by
  simp only [Ungrouped, List.suffix_cons_iff, forall_eq_or_imp]

/-- A part of a text without groups has none. -/
theorem Ungrouped.of_isInfix {part : List Char} (ungrouped : Ungrouped chars)
    (isInfix : part <:+: chars) : Ungrouped part := by
  obtain ⟨front, back, rfl⟩ := isInfix
  rintro rest ⟨before, rfl⟩ opens
  have isSuffix : rest ++ back <:+ front ++ (before ++ rest) ++ back := ⟨front ++ before, by simp⟩
  exact ungrouped _ isSuffix (opens.append back)

/-! ### The end of a group -/

theorem behindBracket?_append (after : List Char) (closed : ∀ c ∈ inside, c ≠ ']' ∧ c ≠ '\n') :
    behindBracket? (inside ++ ']' :: after) = some after := by
  induction inside with
  | nil => simp [behindBracket?]
  | cons c inside ih =>
    obtain ⟨⟨bracket, feed⟩, closed⟩ := List.forall_mem_cons.mp closed
    rw [List.cons_append, behindBracket?, if_neg bracket, if_neg feed, ih closed]

theorem behindBracket?_cons_eq_none_iff :
    behindBracket? (c :: chars) = none ↔ c ≠ ']' ∧ (c = '\n' ∨ behindBracket? chars = none) := by
  rw [behindBracket?]
  split
  next bracket => simp [bracket]
  next other =>
    split
    next feed => simp [feed]
    next noFeed => simp [other, noFeed]

theorem behindBracket?_eq_some_iff : behindBracket? chars = some after ↔
    ∃ inside, chars = inside ++ ']' :: after ∧ ∀ c ∈ inside, c ≠ ']' ∧ c ≠ '\n' := by
  constructor
  · intro found
    induction chars with
    | nil => cases found
    | cons c chars ih =>
      unfold behindBracket? at found
      split at found
      next bracket =>
        obtain rfl := Option.some.inj found
        exact ⟨[], by rw [bracket, List.nil_append], List.forall_mem_nil _⟩
      next other =>
        split at found
        next => cases found
        next noFeed =>
          obtain ⟨inside, rfl, closed⟩ := ih found
          exact ⟨c :: inside, rfl, List.forall_mem_cons.mpr ⟨⟨other, noFeed⟩, closed⟩⟩
  · rintro ⟨inside, rfl, closed⟩
    exact behindBracket?_append after closed

/-- The search for the end of a group fails only where no group begins. -/
theorem behindBracket?_eq_none_iff : behindBracket? chars = none ↔ ¬ Opens ('[' :: chars) := by
  constructor
  · rintro unclosed ⟨inside, after, same, oneLine⟩
    obtain rfl := (List.cons.inj same).2
    clear same
    induction inside with
    | nil => exact (behindBracket?_cons_eq_none_iff.mp unclosed).1 rfl
    | cons c inside ih =>
      rw [List.mem_cons, not_or] at oneLine
      rcases (behindBracket?_cons_eq_none_iff.mp unclosed).2 with feed | unclosed
      · exact oneLine.1 feed.symm
      · exact ih oneLine.2 unclosed
  · intro closed
    cases found : behindBracket? chars with
    | none => rfl
    | some after =>
      obtain ⟨inside, rfl, plain⟩ := behindBracket?_eq_some_iff.mp found
      exact absurd ⟨inside, after, rfl, fun feed => (plain _ feed).2 rfl⟩ closed

/-! ### What a pass leaves -/

/-- A character stays where no group begins. -/
theorem withoutGroups_of_not_opens (outside : ¬ Opens (c :: chars)) :
    withoutGroups (c :: chars) = c :: withoutGroups chars := by
  by_cases opening : c = '['
  · subst opening
    have unclosed := behindBracket?_eq_none_iff.mpr outside
    rw [withoutGroups, if_pos rfl]
    split
    next after found => rw [unclosed] at found; cases found
    next => rfl
  · rw [withoutGroups, if_neg opening]

theorem withoutGroups_append {word : List Char} (rest : List Char) (plain : '[' ∉ word) :
    withoutGroups (word ++ rest) = word ++ withoutGroups rest := by
  induction word with
  | nil => rfl
  | cons c word ih =>
    rw [List.mem_cons, not_or] at plain
    rw [List.cons_append, withoutGroups_of_not_opens (not_opens_of_ne (Ne.symm plain.1)),
      ih plain.2, List.cons_append]

theorem withoutGroups_of_notMem {word : List Char} (plain : '[' ∉ word) :
    withoutGroups word = word := by
  have all := withoutGroups_append [] plain
  rwa [List.append_nil, withoutGroups.eq_1, List.append_nil] at all

/-- A group goes. -/
theorem withoutGroups_group (after : List Char) (closed : ∀ c ∈ inside, c ≠ ']' ∧ c ≠ '\n') :
    withoutGroups ('[' :: (inside ++ ']' :: after)) = withoutGroups after := by
  have found := behindBracket?_append after closed
  rw [withoutGroups, if_pos rfl]
  split
  next rest same =>
    obtain rfl : after = rest := Option.some.inj (found.symm.trans same)
    rfl
  next none => rw [found] at none; cases none

/-- **The pass and its description.** Every text has one pass over it. -/
theorem pruning_iff {kept : List Char} : Pruning chars kept ↔ kept = withoutGroups chars := by
  constructor
  · intro pruning
    induction pruning with
    | done => exact withoutGroups.eq_1.symm
    | keep outside _ ih => rw [withoutGroups_of_not_opens outside, ih]
    | remove shortest _ ih => rw [withoutGroups_group _ shortest, ih]
  · rintro rfl
    fun_induction withoutGroups chars with
    | case1 => exact .done
    | case2 rest after found _ ih =>
      obtain ⟨inside, rfl, shortest⟩ := behindBracket?_eq_some_iff.mp found
      exact .remove shortest ih
    | case3 rest unclosed ih => exact .keep (behindBracket?_eq_none_iff.mp unclosed) ih
    | case4 c rest other ih => exact .keep (not_opens_of_ne other) ih

/-- A pass over a text without groups leaves all of it. -/
theorem Ungrouped.pruning (ungrouped : Ungrouped chars) : Pruning chars chars := by
  induction chars with
  | nil => exact .done
  | cons c chars ih =>
    obtain ⟨outside, ungrouped⟩ := ungrouped_cons_iff.mp ungrouped
    exact .keep outside (ih ungrouped)

/-- Where a line closes nothing up to its end, a pass leaves it so: no group begins on it, so the
line feed at its end is still there. -/
theorem behindBracket?_withoutGroups (unclosed : behindBracket? chars = none) :
    behindBracket? (withoutGroups chars) = none := by
  fun_induction withoutGroups chars with
  | case1 => exact unclosed
  | case2 rest after found =>
    rcases (behindBracket?_cons_eq_none_iff.mp unclosed).2 with feed | unclosed
    · cases feed
    · rw [found] at unclosed
      cases unclosed
  | case3 rest unclosed ih =>
    exact behindBracket?_cons_eq_none_iff.mpr ⟨by decide, Or.inr (ih unclosed)⟩
  | case4 c rest _ ih =>
    obtain ⟨other, behind⟩ := behindBracket?_cons_eq_none_iff.mp unclosed
    exact behindBracket?_cons_eq_none_iff.mpr ⟨other, behind.imp_right ih⟩

/-- **One pass takes out all groups.** -/
theorem ungrouped_withoutGroups (chars : List Char) : Ungrouped (withoutGroups chars) := by
  fun_induction withoutGroups chars with
  | case1 => exact ungrouped_nil
  | case2 rest after found _ ih => exact ih
  | case3 rest unclosed ih =>
    have outside : ¬ Opens ('[' :: withoutGroups rest) :=
      behindBracket?_eq_none_iff.mp (behindBracket?_withoutGroups unclosed)
    exact ungrouped_cons_iff.mpr ⟨outside, ih⟩
  | case4 c rest other ih => exact ungrouped_cons_iff.mpr ⟨not_opens_of_ne other, ih⟩

end Groups

/-! ### Receivers -/

theorem trimChars_isInfix (chars : List Char) : Text.trimChars chars <:+: chars := by
  have front : chars.dropWhile Text.isBlank <:+: chars := (List.dropWhile_suffix _).isInfix
  have back := List.reverse_prefix.mpr
    (List.dropWhile_suffix (l := (chars.dropWhile Text.isBlank).reverse) Text.isBlank)
  rw [List.reverse_reverse] at back
  exact back.isInfix.trans front

/-- **The receiver of a key is what one pass over its spelling leaves**, without the blanks at the
ends. It has no groups, whatever the brackets of the key are, so another pass leaves all of it. -/
theorem one_pass_prunes_receiver (key : String) :
    (∃ kept, Pruning (spelledReceiver key.toList) kept ∧
      (receiver key).toList = Text.trimChars kept) ∧
    Ungrouped (receiver key).toList ∧
    withoutGroups (receiver key).toList = (receiver key).toList := by
  have own : (receiver key).toList =
      Text.trimChars (withoutGroups (spelledReceiver key.toList)) := String.toList_ofList
  have ungrouped : Ungrouped (receiver key).toList := by
    rw [own]
    exact (ungrouped_withoutGroups _).of_isInfix (trimChars_isInfix _)
  exact ⟨⟨_, pruning_iff.mpr rfl, own⟩, ungrouped, (pruning_iff.mp ungrouped.pruning).symm⟩

/-- Brackets in brackets, brackets without a partner, and brackets on two lines. -/
example : (["Box[Pair[K]].Get", "]Box[[T.Get", "Box[T\n]U[V].Get"].map receiver) =
    ["Box]", "]Box[[T", "Box[T\n]U"] := by decide +kernel

end DeclGraph.Key
