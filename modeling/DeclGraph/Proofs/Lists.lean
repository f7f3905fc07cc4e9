/-
**Lists.**

Facts about lists of any elements that several parts of the theory use.

* `filter_eq_find?`: choosing one element at most;
* `filter_eq_filter_iff_of_sublist`: a filter on some of the members;
* `mapM_map_eq_some`: reading element by element what was written;
* `without`: a list without the elements at some places.
-/

import Mathlib.Data.List.Basic
import Mathlib.Data.List.Count

namespace DeclGraph

/-- Where one element at most is chosen, choosing finds it. -/
theorem filter_eq_find? {α : Type} (choose : α → Bool) {elements : List α}
    (once : elements.Pairwise fun first second => ¬ (choose first = true ∧ choose second = true)) :
    elements.filter choose = (elements.find? choose).toList := by
  induction elements with
  | nil => rfl
  | cons element elements ih =>
    obtain ⟨alone, once⟩ := List.pairwise_cons.mp once
    by_cases chosen : choose element = true
    · have others : elements.filter choose = [] :=
        List.filter_eq_nil_iff.mpr fun other member isChosen =>
          alone other member ⟨chosen, isChosen⟩
      rw [List.filter_cons_of_pos chosen, List.find?_cons_of_pos chosen, others]
      rfl
    · rw [List.filter_cons_of_neg chosen, List.find?_cons_of_neg chosen, ih once]

/-- A filter gives the same for a list and for some of its members exactly if it admits none of those
left out. -/
theorem filter_eq_filter_iff_of_sublist {α : Type} [DecidableEq α] {kept all : List α}
    (fewer : kept.Sublist all) (admits : α → Bool) :
    kept.filter admits = all.filter admits ↔ ∀ left ∈ all.diff kept, admits left = false := by
  have parts : (kept ++ all.diff kept).Perm all :=
    List.subperm_append_diff_self_of_count_le fun entry _ => fewer.count_le entry
  have lengths : (kept.filter admits).length + ((all.diff kept).filter admits).length =
      (all.filter admits).length := by
    rw [← List.length_append, ← List.filter_append]
    exact (parts.filter admits).length_eq
  have none : (∀ left ∈ all.diff kept, admits left = false) ↔
      ((all.diff kept).filter admits).length = 0 := by
    rw [List.length_eq_zero_iff, List.filter_eq_nil_iff]
    simp
  rw [none]
  constructor
  · intro same
    rw [same] at lengths
    omega
  · intro empty
    exact (fewer.filter admits).eq_of_length (by omega)

/-- What was written is read element by element. -/
theorem mapM_map_eq_some {α β γ : Type} {read : β → Option γ} {write : α → β} {shown : α → γ}
    (reads : ∀ a, read (write a) = some (shown a)) (elements : List α) :
    (elements.map write).mapM read = some (elements.map shown) := by
  induction elements with
  | nil => rfl
  | cons a elements ih => rw [List.map_cons, List.mapM_cons, reads, ih]; rfl

/-- A list without the elements at some places. -/
def without {α : Type} (dropped : Nat → Bool) : List α → List α
  | [] => []
  | first :: rest =>
    if dropped 0 then without (fun place => dropped (place + 1)) rest
    else first :: without (fun place => dropped (place + 1)) rest

end DeclGraph
