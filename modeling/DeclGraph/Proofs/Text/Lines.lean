/-
**The lines of a text.**

A text is cut at its line feeds, so there is one piece more than there are line feeds. Only the last
piece may be left out, and only if it is empty: the row of every character is the place of a line.

* `cutLines_eq_splitOn`: the pieces of a text;
* **`count_lt_length_linesOf`**: a character has a line, in the row that the line feeds before it
  count;
* `feed_not_mem_of_mem_lines`: a line holds no line feed;
* **`splitOn_joined`**: lines that are joined can be told apart again.
-/

import DeclGraph.Text.Lines

namespace DeclGraph.Text

/-! ### Pieces -/

section Pieces

variable {c : Char} {chars piece suffix : List Char}

theorem modifyHead_nil_append (pieces : List (List Char)) :
    pieces.modifyHead ([] ++ ·) = pieces := by
  cases pieces <;> rfl

theorem cutLinesFrom_eq (chars line : List Char) (done : List (List Char)) :
    cutLinesFrom line done chars =
      done.reverse ++ (chars.splitOn '\n').modifyHead (line.reverse ++ ·) := by
  induction chars generalizing line done with
  | nil => simp [cutLinesFrom]
  | cons c rest ih =>
    rw [cutLinesFrom, List.splitOn_cons_eq_if_modifyHead]
    by_cases feed : c = '\n'
    · rw [if_pos feed, if_pos (beq_iff_eq.mpr feed), ih, List.reverse_nil, modifyHead_nil_append]
      simp
    · rw [if_neg feed, if_neg (by simpa using feed), ih, List.modifyHead_modifyHead]
      simp [Function.comp_def]

/-- **The pieces of a text** are what its line feeds separate. -/
theorem cutLines_eq_splitOn (chars : List Char) : cutLines chars = chars.splitOn '\n' := by
  unfold cutLines
  rw [cutLinesFrom_eq, List.reverse_nil, List.reverse_nil, modifyHead_nil_append]
  rfl

/-- There is one piece more than there are separators. -/
theorem length_splitOn (c : Char) (chars : List Char) :
    (chars.splitOn c).length = chars.count c + 1 := by
  induction chars with
  | nil => rfl
  | cons first rest ih =>
    rw [List.splitOn_cons_eq_if_modifyHead, List.count_cons]
    split
    · rw [List.length_cons, ih]
    · rw [List.length_modifyHead, ih]

theorem not_mem_of_mem_splitOn (member : piece ∈ chars.splitOn c) : c ∉ piece := by
  induction chars generalizing piece with
  | nil =>
    obtain rfl := List.mem_singleton.mp member
    exact List.not_mem_nil
  | cons first rest ih =>
    rw [List.splitOn_cons_eq_if_modifyHead] at member
    split at member
    · rcases List.mem_cons.mp member with rfl | later
      · exact List.not_mem_nil
      · exact ih later
    · rename_i other
      obtain ⟨head, pieces, cut⟩ := List.exists_cons_of_ne_nil (List.splitOn_ne_nil c rest)
      rw [cut, List.modifyHead_cons] at member
      rw [cut] at ih
      rcases List.mem_cons.mp member with rfl | later
      · have different : c ≠ first := fun same => other (beq_iff_eq.mpr same.symm)
        exact List.not_mem_cons_of_ne_of_not_mem different (ih List.mem_cons_self)
      · exact ih (List.mem_cons_of_mem _ later)

/-- What holds no separator stays whole, at the end of the last piece. -/
theorem splitOn_append_of_not_mem (before : List Char) (absent : c ∉ suffix) :
    ∃ pieces last, (before ++ suffix).splitOn c = pieces ++ [last ++ suffix] := by
  induction before with
  | nil => exact ⟨[], [], List.splitOn_eq_singleton absent⟩
  | cons first rest ih =>
    obtain ⟨pieces, last, cut⟩ := ih
    rw [List.cons_append, List.splitOn_cons_eq_if_modifyHead, cut]
    split
    · exact ⟨[] :: pieces, last, rfl⟩
    · cases pieces with
      | nil => exact ⟨[], first :: last, rfl⟩
      | cons piece pieces => exact ⟨(first :: piece) :: pieces, last, rfl⟩

end Pieces

/-! ### Lines -/

variable {before rest : List Char} {line text : String} {lines : List String}

/-- **Every character has a line**, in the row that the line feeds before it count. -/
theorem count_lt_length_linesOf (nonempty : rest ≠ []) :
    before.count '\n' < (linesOf (before ++ rest)).length := by
  have pieces := length_splitOn '\n' (before ++ rest)
  rw [List.count_append] at pieces
  unfold linesOf
  rw [cutLines_eq_splitOn]
  by_cases feed : '\n' ∈ rest
  · have behind := List.count_pos_iff.mpr feed
    simp only [List.length_append, List.length_map, List.length_dropLast]
    omega
  · obtain ⟨front, last, cut⟩ := splitOn_append_of_not_mem before feed
    rw [cut, List.length_append, List.length_singleton] at pieces
    have kept : (last ++ rest).isEmpty = false :=
      List.isEmpty_eq_false_iff.mpr (List.append_ne_nil_of_right_ne_nil last nonempty)
    simp only [cut, List.dropLast_concat, List.getLastD_concat, kept, Bool.false_eq_true, if_false,
      List.length_append, List.length_map, List.length_singleton]
    omega

theorem feed_not_mem_dropReturn {piece : List Char} (absent : '\n' ∉ piece) :
    '\n' ∉ dropReturn piece := by
  unfold dropReturn
  split
  · exact fun member => absent (List.dropLast_subset _ member)
  · exact absent

theorem feed_not_mem_of_mem_linesOf {chars piece : List Char} (member : piece ∈ linesOf chars) :
    '\n' ∉ piece := by
  unfold linesOf at member
  rw [cutLines_eq_splitOn] at member
  rcases List.mem_append.mp member with front | last
  · obtain ⟨whole, isPiece, rfl⟩ := List.mem_map.mp front
    exact feed_not_mem_dropReturn (not_mem_of_mem_splitOn (List.dropLast_subset _ isPiece))
  · have some := List.splitOn_ne_nil '\n' chars
    rw [List.getLastD_eq_getLast?, List.getLast?_eq_some_getLast some, Option.getD_some] at last
    split at last
    · cases last
    · obtain rfl := List.mem_singleton.mp last
      exact not_mem_of_mem_splitOn (List.getLast_mem some)

/-- A line holds no line feed. -/
theorem feed_not_mem_of_mem_lines (member : line ∈ Text.lines text) : '\n' ∉ line.toList := by
  obtain ⟨chars, isLine, rfl⟩ := List.mem_map.mp member
  rw [String.toList_ofList]
  exact feed_not_mem_of_mem_linesOf isLine

/-- **Lines that are joined can be told apart again.** -/
theorem splitOn_joined (whole : ∀ line ∈ lines, '\n' ∉ line.toList) (some : lines ≠ []) :
    ("\n".intercalate lines).toList.splitOn '\n' = lines.map String.toList := by
  have feed : "\n".toList = ['\n'] := rfl
  rw [String.toList_intercalate, feed]
  refine List.splitOn_intercalate '\n' ?_ ?_
  · intro chars isLine
    obtain ⟨line, member, rfl⟩ := List.mem_map.mp isLine
    exact whole line member
  · exact fun empty => some (List.map_eq_nil_iff.mp empty)

end DeclGraph.Text
