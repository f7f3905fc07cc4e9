/-
**Trees without some of their comments.**

A comment is a leaf that plays no part in its parent. Taking comments out of a tree, some or all of
them, changes no other node: its label stays, and so does the order of what is left. What is asked
of a tree by the labels of its nodes does not notice it: its parts, the label of its last token, and
whatever is read off the nodes in the order of the source.

* `IsComment`: a comment;
* `UncommentedAll`, `Uncommented`: trees, and a tree, without some of their comments;
* **`lastToken_label`**: the last token, which goes by comments anyway;
* `rel_part?`, `rel_find?`: the parts of a tree;
* **`UncommentedAll.preorderAll`**: the nodes in the order of the source;
* **`UncommentedAll.flatMap_eq`**: what is read off a list of trees that ignores comments;
* `withoutComments`: a tree without any comment.
-/

import DeclGraph.Declarations.OfTree
import DeclGraph.Proofs.Syntax.Traversal
import Mathlib.Data.List.Basic

namespace DeclGraph.Syntax.Tree

@[simp] theorem label_node (label : Label) (children : List Tree) :
    (node label children).label = label := rfl

/-! ### Taking comments out -/

/-- A comment: a leaf that plays no part in its parent. -/
structure IsComment (tree : Tree) : Prop where
  kind : tree.kind = .comment
  role : tree.role = none
  leaf : tree.children = []

theorem IsComment.not_role {tree : Tree} (isComment : tree.IsComment) (role : Role) :
    (tree.label.role == some role) = false := by
  show (tree.role == some role) = false
  rw [isComment.role]
  rfl

/-- **Trees without some of their comments**, at any depth: a tree keeps its label and may lose
comments below it, or is itself a comment and goes. -/
inductive UncommentedAll : List Tree → List Tree → Prop
  | nil : UncommentedAll [] []
  | keep (label : Label) {children rest trees others : List Tree}
      (below : UncommentedAll children rest) (behind : UncommentedAll trees others) :
      UncommentedAll (.node label children :: trees) (.node label rest :: others)
  | drop {comment : Tree} {trees others : List Tree} (isComment : comment.IsComment)
      (behind : UncommentedAll trees others) : UncommentedAll (comment :: trees) others

/-- A tree without some of the comments below it. -/
structure Uncommented (tree rest : Tree) : Prop where
  label : tree.label = rest.label
  below : UncommentedAll tree.children rest.children

namespace Uncommented

variable {tree rest : Tree} (uncommented : Uncommented tree rest)

include uncommented

theorem kind : tree.kind = rest.kind := congrArg Label.kind uncommented.label

theorem role : tree.role = rest.role := congrArg Label.role uncommented.label

theorem start : tree.start = rest.start := congrArg Label.start uncommented.label

theorem text : tree.text = rest.text := congrArg Label.text uncommented.label

end Uncommented

/-! ### The last token -/

theorem lastToken_label_eq (label : Label) (children : List Tree) :
    (node label children).lastToken.label =
      ((lastTokenOf children).map Tree.label).getD label := by
  unfold lastToken
  cases lastTokenOf children <;> rfl

theorem lastTokenOf_cons (tree : Tree) (trees : List Tree) :
    (lastTokenOf (tree :: trees)).map Tree.label = ((lastTokenOf trees).map Tree.label).or
      (if tree.kind = .comment then none else some tree.lastToken.label) := by
  rw [lastTokenOf]
  cases lastTokenOf trees with
  | some token => rfl
  | none =>
    by_cases comment : tree.kind = .comment
    · simp [comment]
    · simp [comment]

theorem UncommentedAll.lastTokenOf_label {trees others : List Tree}
    (uncommented : UncommentedAll trees others) :
    (lastTokenOf trees).map Tree.label = (lastTokenOf others).map Tree.label := by
  induction uncommented with
  | nil => rfl
  | keep label _ _ below behind =>
    rw [lastTokenOf_cons, lastTokenOf_cons, behind, lastToken_label_eq, lastToken_label_eq, below]
    rfl
  | drop isComment _ behind =>
    rw [lastTokenOf_cons, if_pos isComment.kind, Option.or_none, behind]

/-- **The last token keeps its label.** -/
theorem Uncommented.lastToken_label {tree rest : Tree} (uncommented : Uncommented tree rest) :
    tree.lastToken.label = rest.lastToken.label := by
  obtain ⟨label, children⟩ := tree
  obtain ⟨own, others⟩ := rest
  have same : label = own := uncommented.label
  have below : UncommentedAll children others := uncommented.below
  rw [lastToken_label_eq, lastToken_label_eq, below.lastTokenOf_label, same]

/-! ### Parts -/

section

variable {first second : Option Tree}

theorem bind_eq_of_rel {α : Type} {read? : Tree → Option α}
    (same : ∀ tree rest, Uncommented tree rest → read? tree = read? rest)
    (both : Option.Rel Uncommented first second) : first.bind read? = second.bind read? := by
  cases both with
  | none => rfl
  | some both => exact same _ _ both

theorem map_eq_of_rel {α : Type} {read : Tree → α}
    (same : ∀ tree rest, Uncommented tree rest → read tree = read rest)
    (both : Option.Rel Uncommented first second) : first.map read = second.map read := by
  cases both with
  | none => rfl
  | some both => exact congrArg some (same _ _ both)

theorem rel_filter (choose : Label → Bool) (both : Option.Rel Uncommented first second) :
    Option.Rel Uncommented (first.filter fun tree => choose tree.label)
      (second.filter fun tree => choose tree.label) := by
  cases both with
  | none => exact .none
  | some both =>
    rw [Option.filter_some, Option.filter_some, both.label]
    split
    · exact .some both
    · exact .none

end

/-- The first tree that is chosen by its label, where comments are not chosen. -/
theorem UncommentedAll.rel_find? (choose : Label → Bool) {trees others : List Tree}
    (uncommented : UncommentedAll trees others)
    (comments : ∀ tree : Tree, tree.IsComment → choose tree.label = false) :
    Option.Rel Uncommented (trees.find? fun tree => choose tree.label)
      (others.find? fun tree => choose tree.label) := by
  induction uncommented with
  | nil => exact .none
  | keep label below _ _ behind =>
    simp only [List.find?_cons, label_node]
    split
    · exact .some ⟨rfl, below⟩
    · exact behind
  | drop isComment _ behind =>
    rw [List.find?_cons, comments _ isComment]
    exact behind

/-! ### Lists of trees -/

namespace UncommentedAll

variable {trees others : List Tree}

theorem append {first second : List Tree} (uncommented : UncommentedAll trees others)
    (more : UncommentedAll first second) : UncommentedAll (trees ++ first) (others ++ second) := by
  induction uncommented with
  | nil => exact more
  | keep label below _ _ behind => exact .keep label below behind
  | drop isComment _ behind => exact .drop isComment behind

theorem filter (keep : Label → Bool) (uncommented : UncommentedAll trees others) :
    UncommentedAll (trees.filter fun tree => keep tree.label)
      (others.filter fun tree => keep tree.label) := by
  induction uncommented with
  | nil => exact .nil
  | keep label below _ _ behind =>
    by_cases kept : keep label = true
    · simp only [List.filter_cons, label_node, kept, ↓reduceIte]
      exact .keep label below behind
    · simp only [List.filter_cons, label_node, kept]
      exact behind
  | drop isComment _ behind =>
    rw [List.filter_cons]
    split
    · exact .drop isComment behind
    · exact behind

/-- **The nodes of trees, in the order of the source**: a comment stands for itself alone. -/
theorem preorderAll (keep : Label → Bool) (uncommented : UncommentedAll trees others) :
    UncommentedAll (Tree.preorderAll (fun tree => keep tree.label) trees)
      (Tree.preorderAll (fun tree => keep tree.label) others) := by
  induction uncommented with
  | nil => exact .nil
  | keep label below _ nodesBelow behind =>
    by_cases kept : keep label = true
    · simp only [Tree.preorderAll, preorder, label_node, kept, ↓reduceIte]
      exact (UncommentedAll.keep label below nodesBelow).append behind
    · simp only [Tree.preorderAll, label_node, kept]
      exact behind
  | @drop comment trees _ isComment _ behind =>
    have alone : comment.preorder (fun tree => keep tree.label) = [comment] := by
      rw [preorder_eq, isComment.leaf]
      rfl
    rw [Tree.preorderAll, alone]
    split
    · exact .drop isComment behind
    · exact behind

/-- **What is read off trees without looking at comments stays the same.** -/
theorem flatMap_eq {α : Type} {read : Tree → List α} (uncommented : UncommentedAll trees others)
    (same : ∀ tree rest, Uncommented tree rest → read tree = read rest)
    (comments : ∀ tree : Tree, tree.IsComment → read tree = []) :
    trees.flatMap read = others.flatMap read := by
  induction uncommented with
  | nil => rfl
  | @keep label children rest _ _ below _ _ behind =>
    have first : read (.node label children) = read (.node label rest) := same _ _ ⟨rfl, below⟩
    rw [List.flatMap_cons, List.flatMap_cons, behind, first]
  | drop isComment _ behind =>
    rw [List.flatMap_cons, comments _ isComment, List.nil_append, behind]

theorem filterMap_eq {α : Type} {read? : Tree → Option α}
    (uncommented : UncommentedAll trees others)
    (same : ∀ tree rest, Uncommented tree rest → read? tree = read? rest)
    (comments : ∀ tree : Tree, tree.IsComment → read? tree = none) :
    trees.filterMap read? = others.filterMap read? := by
  rw [List.filterMap_eq_flatMap_toList, List.filterMap_eq_flatMap_toList]
  refine uncommented.flatMap_eq ?_ ?_
  · intro tree rest both
    rw [same tree rest both]
  · intro tree isComment
    rw [comments tree isComment]
    rfl

/-- What is read off the trees that are chosen by their labels, where comments are not chosen. -/
theorem map_filter_eq {α : Type} {read : Tree → α} (choose : Label → Bool)
    (uncommented : UncommentedAll trees others)
    (same : ∀ tree rest, Uncommented tree rest → read tree = read rest)
    (comments : ∀ tree : Tree, tree.IsComment → choose tree.label = false) :
    (trees.filter fun tree => choose tree.label).map read =
      (others.filter fun tree => choose tree.label).map read := by
  rw [← List.filterMap_eq_map, List.filterMap_filter, List.filterMap_filter]
  refine uncommented.filterMap_eq (fun tree rest both => ?_) fun tree isComment => ?_
  · rw [Function.comp_apply, Function.comp_apply, same tree rest both, both.label]
  · rw [comments tree isComment]
    rfl

end UncommentedAll

namespace Uncommented

variable {tree rest : Tree} (uncommented : Uncommented tree rest)

include uncommented

/-- The first child that plays a part, which no comment is. -/
theorem rel_part? (role : Role) :
    Option.Rel Uncommented (tree.part? role) (rest.part? role) :=
  uncommented.below.rel_find? (fun label => label.role == some role)
    fun _ isComment => isComment.not_role role

/-- What is read off the children that play a part. -/
theorem map_parts_eq {α : Type} {read : Tree → α}
    (same : ∀ tree rest, Uncommented tree rest → read tree = read rest) (role : Role) :
    (tree.parts role).map read = (rest.parts role).map read :=
  uncommented.below.map_filter_eq (fun label => label.role == some role) same
    fun _ isComment => isComment.not_role role

/-- The named children of a tree, its comments among them. -/
theorem namedChildren : UncommentedAll tree.namedChildren rest.namedChildren :=
  uncommented.below.filter fun label => label.kind.isNamed

theorem preorder (keep : Label → Bool) :
    UncommentedAll (tree.preorder fun tree => keep tree.label)
      (rest.preorder fun tree => keep tree.label) := by
  obtain ⟨label, children⟩ := tree
  obtain ⟨own, others⟩ := rest
  have same : label = own := uncommented.label
  have below : UncommentedAll children others := uncommented.below
  rw [Tree.preorder, Tree.preorder, same]
  exact .keep own below (below.preorderAll keep)

theorem namedNodes : UncommentedAll tree.namedNodes rest.namedNodes := by
  rw [namedNodes_eq_preorder, namedNodes_eq_preorder]
  exact uncommented.preorder fun label => label.kind.isNamed

theorem nodes : UncommentedAll tree.nodes rest.nodes := by
  rw [nodes_eq_preorder, nodes_eq_preorder]
  exact uncommented.preorder fun _ => true

end Uncommented

/-! ### Taking all comments out -/

instance (tree : Tree) : Decidable tree.IsComment :=
  decidable_of_iff (tree.kind = .comment ∧ tree.role = none ∧ tree.children.isEmpty = true)
    ⟨fun ⟨kind, role, leaf⟩ => ⟨kind, role, List.isEmpty_iff.mp leaf⟩,
      fun ⟨kind, role, leaf⟩ => ⟨kind, role, List.isEmpty_iff.mpr leaf⟩⟩

mutual

/-- A tree without any comment below it. -/
def withoutComments : Tree → Tree
  | node label children => node label (withoutCommentsAll children)

/-- Trees without any comment among them or below them. -/
def withoutCommentsAll : List Tree → List Tree
  | [] => []
  | tree :: trees =>
    if tree.IsComment then withoutCommentsAll trees
    else tree.withoutComments :: withoutCommentsAll trees

end

mutual

theorem uncommented_withoutComments : ∀ tree : Tree, Uncommented tree tree.withoutComments
  | node label children => by
    rw [withoutComments]
    exact ⟨rfl, uncommentedAll_withoutCommentsAll children⟩

theorem uncommentedAll_withoutCommentsAll :
    ∀ trees : List Tree, UncommentedAll trees (withoutCommentsAll trees)
  | [] => .nil
  | node label children :: trees => by
    have behind := uncommentedAll_withoutCommentsAll trees
    rw [withoutCommentsAll]
    split
    · exact .drop ‹_› behind
    · rw [withoutComments]
      exact .keep label (uncommentedAll_withoutCommentsAll children) behind

end

end DeclGraph.Syntax.Tree
