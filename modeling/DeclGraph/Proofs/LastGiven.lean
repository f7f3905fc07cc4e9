/-
**What is given last for a key.**

Elements are given one after the other, each with its key, and of several elements with one key the
last one counts. One element more counts from then on and takes the place of the one with its key.

* `LastGiven`: an element is the last one with its key;
* **`lastGiven_concat_iff`**: what one element more changes;
* `exists_lastGiven`, `LastGiven.unique`: every key that is given has one last element;
* `lastGiven_iff_getLast?`: what is given for other keys does not matter;
* `lastGiven_without`: nor does an element that has another one with its key behind it;
* `LastBefore`, **`lastBefore_concat_iff`**: the order of keys by their last elements.
-/

import Mathlib.Data.List.Basic
import Mathlib.Data.List.Induction

namespace DeclGraph

variable {α κ : Type} {key : α → κ} {elements before after : List α} {element given new other : α}
  {first second : κ}

/-! ### Last elements -/

/-- **An element is the last one with its key.** -/
def LastGiven (key : α → κ) (elements : List α) (element : α) : Prop :=
  ∃ before after, elements = before ++ element :: after ∧ ∀ later ∈ after, key later ≠ key element

theorem not_lastGiven_nil : ¬ LastGiven key [] element := by
  rintro ⟨before, after, same, _⟩
  exact List.append_ne_nil_of_right_ne_nil before (List.cons_ne_nil element after) same.symm

theorem LastGiven.mem (last : LastGiven key elements element) : element ∈ elements := by
  obtain ⟨before, after, rfl, _⟩ := last
  exact List.mem_append_right _ List.mem_cons_self

/-- **One element more is the last one with its key**, and the others stay what they are for theirs. -/
theorem lastGiven_concat_iff : LastGiven key (elements ++ [new]) element ↔
    element = new ∨ key element ≠ key new ∧ LastGiven key elements element := by
  constructor
  · rintro ⟨before, after, same, alone⟩
    rcases List.eq_nil_or_concat' after with rfl | ⟨rest, last, rfl⟩
    · obtain ⟨_, lastIsNew⟩ := List.append_inj' same rfl
      exact Or.inl (List.singleton_inj.mp lastIsNew).symm
    · rw [← List.cons_append, ← List.append_assoc] at same
      obtain ⟨rfl, lastIsNew⟩ := List.append_inj' same rfl
      obtain rfl := List.singleton_inj.mp lastIsNew
      refine Or.inr ⟨(alone new (List.mem_append_right _ List.mem_cons_self)).symm, before, rest, rfl,
        fun later member => alone later (List.mem_append_left _ member)⟩
  · rintro (rfl | ⟨differs, before, after, rfl, alone⟩)
    · exact ⟨elements, [], rfl, by simp⟩
    · refine ⟨before, after ++ [new], by simp, fun later member => ?_⟩
      rcases List.mem_append.mp member with inside | isNew
      · exact alone later inside
      · rw [List.mem_singleton.mp isNew]
        exact differs.symm

/-- Every key that is given has a last element. -/
theorem exists_lastGiven (member : given ∈ elements) :
    ∃ last, LastGiven key elements last ∧ key last = key given := by
  induction elements using List.reverseRecOn with
  | nil => cases member
  | append_singleton elements new ih =>
    by_cases same : key new = key given
    · exact ⟨new, lastGiven_concat_iff.mpr (Or.inl rfl), same⟩
    · rcases List.mem_append.mp member with earlier | isNew
      · obtain ⟨last, isLast, sameKey⟩ := ih earlier
        refine ⟨last, lastGiven_concat_iff.mpr (Or.inr ⟨?_, isLast⟩), sameKey⟩
        rw [sameKey]
        exact Ne.symm same
      · rw [List.mem_singleton.mp isNew] at same
        exact absurd rfl same

section DecidableEq

variable [DecidableEq κ]

/-- **What is given for other keys does not matter.** -/
theorem lastGiven_iff_getLast? : LastGiven key elements element ↔
    (elements.filter fun other => key other == key element).getLast? = some element := by
  induction elements using List.reverseRecOn with
  | nil => simp [not_lastGiven_nil]
  | append_singleton elements new ih =>
    rw [lastGiven_concat_iff, ih, List.filter_append]
    by_cases same : key new = key element
    · simp [same, eq_comm]
    · have differs : element ≠ new := fun isNew => same (by rw [isNew])
      simp [same, Ne.symm same, differs]

/-- **A key has one last element only.** -/
theorem LastGiven.unique (last : LastGiven key elements element)
    (isOther : LastGiven key elements other) (same : key element = key other) : element = other := by
  rw [lastGiven_iff_getLast?] at last isOther
  rw [same, isOther] at last
  exact (Option.some.inj last).symm

/-- An element that has another one with its key behind it does not matter. -/
theorem lastGiven_without (hidden : ∃ later ∈ after, key later = key given) :
    LastGiven key (before ++ given :: after) element ↔ LastGiven key (before ++ after) element := by
  rw [lastGiven_iff_getLast?, lastGiven_iff_getLast?, List.filter_append, List.filter_append]
  by_cases same : key given = key element
  · obtain ⟨later, isLater, sameKey⟩ := hidden
    have left : (after.filter fun other => key other == key element) ≠ [] :=
      List.ne_nil_of_mem (List.mem_filter.mpr ⟨isLater, by simp [sameKey, same]⟩)
    rw [List.filter_cons_of_pos (by simpa using same),
      List.getLast?_append_of_ne_nil _ (List.cons_ne_nil _ _), List.getLast?_cons_of_ne_nil left,
      List.getLast?_append_of_ne_nil _ left]
  · rw [List.filter_cons_of_neg (by simpa using same)]

end DecidableEq

/-! ### The order of keys -/

/-- **The last element for a key comes before the last one for another key**: from some element on, the
second key is given and the first one is not. -/
def LastBefore (key : α → κ) (elements : List α) (first second : κ) : Prop :=
  ∃ before after, elements = before ++ after ∧ (∀ later ∈ after, key later ≠ first) ∧
    ∃ later ∈ after, key later = second

theorem LastBefore.ne (before : LastBefore key elements first second) : first ≠ second := by
  obtain ⟨_, _, _, none, later, member, rfl⟩ := before
  exact (none later member).symm

/-- **The key of one element more comes last**, and the other keys keep their order. -/
theorem lastBefore_concat_iff : LastBefore key (elements ++ [new]) first second ↔
    key new ≠ first ∧ (key new = second ∨ LastBefore key elements first second) := by
  constructor
  · rintro ⟨before, after, same, none, later, member, isSecond⟩
    rcases List.eq_nil_or_concat' after with rfl | ⟨rest, last, rfl⟩
    · cases member
    · rw [← List.append_assoc] at same
      obtain ⟨rfl, lastIsNew⟩ := List.append_inj' same rfl
      obtain rfl := List.singleton_inj.mp lastIsNew
      refine ⟨none new (List.mem_append_right _ List.mem_cons_self), ?_⟩
      rcases List.mem_append.mp member with inside | isNew
      · exact Or.inr ⟨before, rest, rfl, fun later member => none later (List.mem_append_left _ member),
          later, inside, isSecond⟩
      · rw [← List.mem_singleton.mp isNew]
        exact Or.inl isSecond
  · rintro ⟨differs, isSecond | ⟨before, after, rfl, none, later, member, isSecond⟩⟩
    · exact ⟨elements, [new], rfl, by simpa using differs, new, List.mem_cons_self, isSecond⟩
    · refine ⟨before, after ++ [new], by simp, fun other isOther => ?_, later,
        List.mem_append_left _ member, isSecond⟩
      rcases List.mem_append.mp isOther with inside | isNew
      · exact none other inside
      · rw [List.mem_singleton.mp isNew]
        exact differs

end DeclGraph
