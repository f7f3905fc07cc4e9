/-
**Well-formed trees of a source.**

Every node begins and ends at places of the source, and its children stand one behind the other
between them. A token is what holds nothing but comments. So the rightmost of the tokens of a node
is found by going to its last child that is not a comment, again and again, and it ends behind all
others.

* `Fits`, `WellFormed`: one node, and all nodes of a tree, in a source;
* `WellFormed.bounds`: what stands in a node stands between its beginning and its end;
* `IsToken`, `IsLastToken`: tokens, and the one behind all others;
* **`isLastToken_lastToken`**: the last token of a node is found;
* `Touches`, `IsLastRow`: the rows of a node;
* **`isLastRow_rowBefore`**: a node ends in the row of the character before its end.
-/

import DeclGraph.Proofs.Syntax.Places
import DeclGraph.Proofs.Syntax.Traversal

namespace DeclGraph.Syntax.Tree

variable {chars : List Char} {tree node child token other : Tree}

/-! ### Well-formed trees -/

/-- A node fits into a source: it stands between two places, its children stand between them in the
order of the source, and comments are leaves. No leaf is empty, unless it stands behind something in
its row. -/
structure Fits (chars : List Char) (tree : Tree) : Prop where
  start : IsPlace chars tree.start
  stop : IsPlace chars tree.stop
  forward : tree.start ≤ tree.stop
  between : ∀ child ∈ tree.children, tree.start ≤ child.start ∧ child.stop ≤ tree.stop
  inOrder : tree.children.Pairwise fun first second => first.stop ≤ second.start
  leaf : tree.children = [] → tree.start < tree.stop ∨ 0 < tree.stop.column
  comment : tree.kind = .comment → tree.children = []

/-- **A well-formed tree of a source**: every node fits. -/
def WellFormed (chars : List Char) (tree : Tree) : Prop :=
  ∀ node, Inside node tree → Fits chars node

instance (chars : List Char) (tree : Tree) : Decidable (Fits chars tree) :=
  decidable_of_iff
    (IsPlace chars tree.start ∧ IsPlace chars tree.stop ∧ tree.start ≤ tree.stop ∧
      (∀ child ∈ tree.children, tree.start ≤ child.start ∧ child.stop ≤ tree.stop) ∧
      (tree.children.Pairwise fun first second => first.stop ≤ second.start) ∧
      (tree.children.isEmpty = true → tree.start < tree.stop ∨ 0 < tree.stop.column) ∧
      (tree.kind = .comment → tree.children.isEmpty = true)) <| by
    simp only [List.isEmpty_iff]
    constructor
    · rintro ⟨start, stop, forward, between, inOrder, leaf, comment⟩
      exact ⟨start, stop, forward, between, inOrder, leaf, comment⟩
    · rintro ⟨start, stop, forward, between, inOrder, leaf, comment⟩
      exact ⟨start, stop, forward, between, inOrder, leaf, comment⟩

instance (chars : List Char) (tree : Tree) : Decidable (WellFormed chars tree) :=
  decidable_of_iff (∀ node ∈ tree.nodes, Fits chars node) <| by
    simp only [mem_nodes_iff]
    rfl

namespace WellFormed

variable (wellFormed : WellFormed chars tree)

include wellFormed

theorem here : Fits chars tree := wellFormed tree .here

theorem inside (inside : Inside node tree) : WellFormed chars node :=
  fun other inner => wellFormed other (inner.trans inside)

/-- What stands in a node stands between its beginning and its end. -/
theorem bounds (inside : Inside node tree) : tree.start ≤ node.start ∧ node.stop ≤ tree.stop := by
  induction inside with
  | here => exact ⟨le_refl _, le_refl _⟩
  | child member _ ih =>
    have outer := wellFormed.here.between _ member
    have inner := ih (wellFormed.inside (.child member .here))
    exact ⟨le_trans outer.1 inner.1, le_trans inner.2 outer.2⟩

end WellFormed

/-! ### Tokens -/

/-- A token holds nothing but comments, and is none itself. -/
def IsToken (tree : Tree) : Prop :=
  tree.kind ≠ .comment ∧ ∀ child ∈ tree.children, child.kind = .comment

/-- The last token of a tree: all others stop before it. -/
structure IsLastToken (tree token : Tree) : Prop where
  inside : Inside token tree
  isToken : token.IsToken
  last : ∀ other, Inside other tree → other.IsToken → other = token ∨ other.stop ≤ token.start

/-- Where the last token of several trees comes from: the last tree that is not a comment. -/
theorem lastTokenOf_cases (trees : List Tree) :
    (lastTokenOf trees = none ∧ ∀ tree ∈ trees, tree.kind = .comment) ∨
      ∃ before child behind, trees = before ++ child :: behind ∧ child.kind ≠ .comment ∧
        (∀ tree ∈ behind, tree.kind = .comment) ∧ lastTokenOf trees = some child.lastToken := by
  induction trees with
  | nil => exact Or.inl ⟨rfl, fun _ member => absurd member List.not_mem_nil⟩
  | cons tree trees ih =>
    rw [lastTokenOf]
    rcases ih with ⟨found, comments⟩ | ⟨before, child, behind, rfl, isChild, comments, found⟩
    · rw [found]
      by_cases comment : tree.kind = .comment
      · exact Or.inl ⟨if_pos comment, List.forall_mem_cons.mpr ⟨comment, comments⟩⟩
      · exact Or.inr ⟨[], tree, trees, rfl, comment, comments, if_neg comment⟩
    · rw [found]
      exact Or.inr ⟨tree :: before, child, behind, rfl, isChild, comments, rfl⟩

theorem lastToken_eq (tree : Tree) : tree.lastToken = (lastTokenOf tree.children).getD tree := by
  cases tree
  rw [lastToken]
  rfl

/-- Nothing in a comment is a token. -/
theorem not_isToken_of_inside_comment (wellFormed : WellFormed chars tree)
    (comment : tree.kind = .comment) (inside : Inside node tree) : ¬ node.IsToken := by
  cases inside with
  | here => exact fun isToken => isToken.1 comment
  | child member _ =>
    rw [wellFormed.here.comment comment] at member
    cases member

/-- **The last token of a node is found.** -/
theorem isLastToken_lastToken {tree : Tree} (wellFormed : WellFormed chars tree)
    (kind : tree.kind ≠ .comment) : IsLastToken tree tree.lastToken := by
  rw [lastToken_eq]
  rcases lastTokenOf_cases tree.children with
    ⟨found, comments⟩ | ⟨before, child, behind, split, isChild, comments, found⟩
  · rw [found]
    refine ⟨.here, ⟨kind, comments⟩, ?_⟩
    intro other inside isToken
    cases inside with
    | here => exact Or.inl rfl
    | child member inner =>
      have below := wellFormed.inside (.child member .here)
      exact absurd isToken (not_isToken_of_inside_comment below (comments _ member) inner)
  · rw [found, Option.getD_some]
    have member : child ∈ tree.children := by simp [split]
    have below := wellFormed.inside (.child member .here)
    have lastBelow := isLastToken_lastToken below isChild
    refine ⟨.child member lastBelow.inside, lastBelow.isToken, ?_⟩
    intro other inside isToken
    cases inside with
    | here => exact absurd (isToken.2 child member) isChild
    | @child _ first isFirst inner =>
      have within := wellFormed.inside (.child isFirst .here)
      rw [split] at isFirst
      rcases List.mem_append.mp isFirst with earlier | later
      · have inOrder := wellFormed.here.inOrder
        rw [split, List.pairwise_append] at inOrder
        have stops := (within.bounds inner).2
        have begins := (below.bounds lastBelow.inside).1
        have apart := inOrder.2.2 first earlier child List.mem_cons_self
        exact Or.inr (le_trans stops (le_trans apart begins))
      · rcases List.mem_cons.mp later with rfl | isBehind
        · exact lastBelow.last other inner isToken
        · exact absurd isToken (not_isToken_of_inside_comment within (comments _ isBehind) inner)
termination_by tree.size
decreasing_by exact size_lt_of_mem_children member

/-- Two last tokens of a tree stop at the same place. -/
theorem IsLastToken.stop_eq (wellFormed : WellFormed chars tree) (first : IsLastToken tree token)
    (second : IsLastToken tree other) : token.stop = other.stop := by
  have fits := wellFormed token first.inside
  have otherFits := wellFormed other second.inside
  rcases second.last token first.inside first.isToken with rfl | before
  · rfl
  · rcases first.last other second.inside second.isToken with rfl | behind
    · rfl
    · exact le_antisymm (le_trans before otherFits.forward)
        (le_trans behind fits.forward)

/-- A token is not empty, unless it stands behind something in its row. -/
theorem IsToken.reaches (isToken : tree.IsToken) (wellFormed : WellFormed chars tree) :
    tree.start < tree.stop ∨ 0 < tree.stop.column := by
  cases holds : tree.children with
  | nil => exact wellFormed.here.leaf holds
  | cons comment rest =>
    have member : comment ∈ tree.children := by simp [holds]
    have fits := (wellFormed.inside (.child member .here)).here
    obtain ⟨begins, stops⟩ := wellFormed.here.between comment member
    have forward := fits.forward
    have reaches := fits.leaf (fits.comment (isToken.2 comment member))
    simp only [Position.le_def, Position.lt_def] at *
    omega

/-! ### Rows -/

/-- The rows that a node touches: those of its characters, or if it is empty the one where it
stands. -/
inductive Touches (chars : List Char) (node : Tree) : Nat → Prop
  | character {before : List Char} {c : Char} (isPrefix : before ++ [c] <+: chars)
      (begun : node.start ≤ place before) (ahead : place before < node.stop) :
      Touches chars node (place before).row
  | empty (nothing : node.start = node.stop) : Touches chars node node.start.row

/-- The last row that a node touches. -/
structure IsLastRow (chars : List Char) (node : Tree) (row : Nat) : Prop where
  touched : Touches chars node row
  last : ∀ other, Touches chars node other → other ≤ row

theorem IsLastRow.unique {first second : Nat} (isFirst : IsLastRow chars node first)
    (isSecond : IsLastRow chars node second) : first = second :=
  Nat.le_antisymm (isSecond.last first isFirst.touched) (isFirst.last second isSecond.touched)

theorem isLastRow_of_empty (nothing : node.start = node.stop) :
    IsLastRow chars node node.start.row := by
  refine ⟨.empty nothing, ?_⟩
  intro other touched
  cases touched with
  | character _ begun ahead =>
    rw [nothing] at begun
    exact absurd ahead (not_lt_of_ge begun)
  | empty _ => exact Nat.le_refl _

theorem isLastRow_of_lt {before : List Char} {c : Char} (fits : Fits chars node)
    (less : node.start < node.stop) (isPrefix : before ++ [c] <+: chars)
    (stops : place (before ++ [c]) = node.stop) : IsLastRow chars node (place before).row := by
  obtain ⟨first, isFirst, starts⟩ := fits.start
  constructor
  · refine .character isPrefix ?_ ?_
    · rw [← starts, ← stops] at less
      rw [← starts]
      exact place_le_of_lt_concat isFirst isPrefix less
    · rw [← stops, place_concat]
      exact Position.lt_after _ c
  · intro other touched
    cases touched with
    | character inside _ ahead =>
      rw [← stops] at ahead
      have within := (List.prefix_append _ _).trans inside
      exact Position.row_le (place_le_of_lt_concat within isPrefix ahead)
    | empty nothing => exact absurd nothing (ne_of_lt less)

/-- A node ends behind a character of the source. -/
theorem exists_stop_concat (fits : Fits chars node)
    (reaches : node.start < node.stop ∨ 0 < node.stop.column) :
    ∃ before c, before ++ [c] <+: chars ∧ place (before ++ [c]) = node.stop := by
  refine fits.stop.exists_concat ?_
  intro beginning
  rw [beginning] at reaches
  rcases reaches with less | column
  · exact not_lt_of_ge (Position.zero_le _) less
  · exact absurd column (Nat.lt_irrefl 0)

/-- **A node ends in the row of the character before its end.** -/
theorem isLastRow_rowBefore (fits : Fits chars node)
    (reaches : node.start < node.stop ∨ 0 < node.stop.column) :
    IsLastRow chars node node.stop.rowBefore := by
  by_cases nothing : node.start = node.stop
  · have column : node.stop.column ≠ 0 := by
      rw [nothing, Position.lt_def] at reaches
      omega
    have row : node.stop.rowBefore = node.start.row := by
      rw [nothing]
      exact if_neg column
    rw [row]
    exact isLastRow_of_empty nothing
  · obtain ⟨before, c, isPrefix, stops⟩ := exists_stop_concat fits reaches
    have less := lt_of_le_of_ne fits.forward nothing
    rw [← stops, rowBefore_place_concat]
    exact isLastRow_of_lt fits less isPrefix stops

end DeclGraph.Syntax.Tree
