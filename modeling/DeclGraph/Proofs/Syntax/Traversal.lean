/-
**Traversals of syntax trees.**

* `Tree.preorder`: the nodes of a tree, each before those below it, by recursion;
* `Tree.Within`: a node stands anywhere in a tree;
* `Tree.Inside`: so it does if words and marks are gone into as well;
* **`Tree.walk_eq_preorder`**: taking nodes from a list of waiting ones gives the recursive order,
  and the size of the tree is enough steps for it;
* **`Tree.mem_namedNodes_iff`**, `Tree.mem_nodes_iff`: the traversals find exactly the nodes that
  stand in the tree.
-/

import DeclGraph.Syntax.Tree

namespace DeclGraph.Syntax.Tree

/-! ### Sizes -/

theorem sizeAll_append (first second : List Tree) :
    sizeAll (first ++ second) = sizeAll first + sizeAll second := by
  induction first with
  | nil => simp [sizeAll]
  | cons tree trees ih =>
    rw [List.cons_append, sizeAll, sizeAll, ih]
    omega

theorem sizeAll_filter_le (keep : Tree → Bool) (trees : List Tree) :
    sizeAll (trees.filter keep) ≤ sizeAll trees := by
  induction trees with
  | nil => exact Nat.le_refl _
  | cons tree trees ih =>
    rw [List.filter_cons]
    split
    · exact Nat.add_le_add_left ih _
    · exact Nat.le_trans ih (Nat.le_add_left _ _)

theorem size_eq (tree : Tree) : tree.size = sizeAll tree.children + 1 := by
  cases tree
  rfl

theorem size_le_sizeAll {tree : Tree} {trees : List Tree} (member : tree ∈ trees) :
    tree.size ≤ sizeAll trees := by
  obtain ⟨before, behind, rfl⟩ := List.append_of_mem member
  rw [sizeAll_append, sizeAll]
  omega

/-- A child is smaller than its parent. -/
theorem size_lt_of_mem_children {tree child : Tree} (member : child ∈ tree.children) :
    child.size < tree.size := by
  have bound := size_le_sizeAll member
  rw [size_eq tree]
  exact Nat.lt_succ_of_le bound

theorem size_lt_of_mem_namedChildren {tree child : Tree} (member : child ∈ tree.namedChildren) :
    child.size < tree.size :=
  size_lt_of_mem_children (List.mem_filter.mp member).1

/-! ### The order of the recursion -/

mutual

/-- The nodes of a tree, each before those below it; `keep` tells which children are gone into. -/
def preorder (keep : Tree → Bool) : Tree → List Tree
  | node label children => node label children :: preorderAll keep children

/-- The nodes of those trees that are gone into. -/
def preorderAll (keep : Tree → Bool) : List Tree → List Tree
  | [] => []
  | tree :: trees =>
    if keep tree then tree.preorder keep ++ preorderAll keep trees else preorderAll keep trees

end

theorem preorderAll_eq (keep : Tree → Bool) (trees : List Tree) :
    preorderAll keep trees = (trees.filter keep).flatMap (preorder keep) := by
  induction trees with
  | nil => rfl
  | cons tree trees ih =>
    rw [preorderAll, List.filter_cons]
    split
    · rw [List.flatMap_cons, ih]
    · exact ih

theorem preorder_eq (keep : Tree → Bool) (tree : Tree) :
    tree.preorder keep = tree :: (tree.children.filter keep).flatMap (preorder keep) := by
  cases tree with
  | node label children => rw [preorder, preorderAll_eq]; rfl

/-- **Taking nodes from a list of waiting trees gives the recursive order.** Every step takes one
node, so the nodes of the waiting trees are enough steps. -/
theorem walk_eq_preorder {keep : Tree → Bool} {below : Tree → List Tree}
    (chosen : ∀ tree, below tree = tree.children.filter keep) {steps : Nat}
    {found waiting : List Tree} (enough : sizeAll waiting ≤ steps) :
    walk below steps found waiting = found.reverse ++ waiting.flatMap (preorder keep) := by
  induction steps generalizing found waiting with
  | zero =>
    cases waiting with
    | nil => simp [walk]
    | cons tree trees =>
      rw [sizeAll, size_eq] at enough
      omega
  | succ steps ih =>
    cases waiting with
    | nil => simp [walk]
    | cons tree trees =>
      have fewer := sizeAll_filter_le keep tree.children
      rw [sizeAll, size_eq] at enough
      have left : sizeAll (below tree ++ trees) ≤ steps := by
        rw [chosen, sizeAll_append]
        omega
      rw [walk, ih left, chosen, List.flatMap_append, List.flatMap_cons, preorder_eq keep tree]
      simp

/-- The named nodes of a tree come in the recursive order. -/
theorem namedNodes_eq_preorder (tree : Tree) :
    tree.namedNodes = tree.preorder fun node => node.kind.isNamed := by
  have enough : sizeAll [tree] ≤ tree.size := Nat.le_refl _
  have chosen : ∀ tree, namedChildren tree = tree.children.filter fun node => node.kind.isNamed :=
    fun _ => rfl
  unfold namedNodes
  rw [walk_eq_preorder chosen enough, List.flatMap_singleton]
  rfl

/-- All nodes of a tree come in the recursive order. -/
theorem nodes_eq_preorder (tree : Tree) : tree.nodes = tree.preorder fun _ => true := by
  have enough : sizeAll [tree] ≤ tree.size := Nat.le_refl _
  have chosen : ∀ tree : Tree, tree.children = tree.children.filter fun _ => true :=
    fun tree => (List.filter_eq_self.mpr fun _ _ => rfl).symm
  unfold nodes
  rw [walk_eq_preorder chosen enough, List.flatMap_singleton]
  rfl

/-! ### Standing in a tree -/

/-- A node stands in a tree: it is the tree itself, or stands in one of its children. The words and
marks of the grammar are left aside, nothing stands in them. -/
inductive Within (node : Tree) : Tree → Prop
  | here : Within node node
  | child {tree child : Tree} (member : child ∈ tree.namedChildren) (inside : Within node child) :
      Within node tree

theorem within_of_mem_preorder {tree node : Tree}
    (member : node ∈ tree.preorder fun node => node.kind.isNamed) : Within node tree := by
  rw [preorder_eq] at member
  rcases List.mem_cons.mp member with rfl | below
  · exact .here
  · obtain ⟨child, isChild, inside⟩ := List.mem_flatMap.mp below
    exact .child isChild (within_of_mem_preorder inside)
termination_by tree.size
decreasing_by exact size_lt_of_mem_namedChildren isChild

/-- **The traversal finds exactly the nodes that stand in the tree.** -/
theorem mem_namedNodes_iff {tree node : Tree} : node ∈ tree.namedNodes ↔ Within node tree := by
  rw [namedNodes_eq_preorder]
  refine ⟨within_of_mem_preorder, fun inside => ?_⟩
  induction inside with
  | here =>
    rw [preorder_eq]
    exact List.mem_cons_self
  | child isChild _ ih =>
    rw [preorder_eq]
    exact List.mem_cons_of_mem _ (List.mem_flatMap.mpr ⟨_, isChild, ih⟩)

/-- A node stands in a tree: it is the tree itself, or stands in one of its children, whatever kind
of child that is. -/
inductive Inside (node : Tree) : Tree → Prop
  | here : Inside node node
  | child {tree child : Tree} (member : child ∈ tree.children) (inside : Inside node child) :
      Inside node tree

theorem Within.inside {tree node : Tree} (within : Within node tree) : Inside node tree := by
  induction within with
  | here => exact .here
  | child member _ ih => exact .child (List.mem_filter.mp member).1 ih

namespace Inside

variable {tree node other part : Tree}

theorem trans (inside : Inside other node) (outer : Inside node tree) : Inside other tree := by
  induction outer with
  | here => exact inside
  | child member _ ih => exact .child member ih

theorem namedChild (member : node ∈ tree.namedChildren) : Inside node tree :=
  .child (List.mem_filter.mp member).1 .here

theorem part? {role : Role} (isPart : tree.part? role = some part) : Inside part tree :=
  .child (List.mem_of_find?_eq_some isPart) .here

end Inside

theorem inside_of_mem_preorder {tree node : Tree} (member : node ∈ tree.preorder fun _ => true) :
    Inside node tree := by
  rw [preorder_eq] at member
  rcases List.mem_cons.mp member with rfl | below
  · exact .here
  · obtain ⟨child, isChild, inside⟩ := List.mem_flatMap.mp below
    have isChild := (List.mem_filter.mp isChild).1
    exact .child isChild (inside_of_mem_preorder inside)
termination_by tree.size
decreasing_by exact size_lt_of_mem_children isChild

/-- The traversal of all nodes finds exactly those that stand in the tree. -/
theorem mem_nodes_iff {tree node : Tree} : node ∈ tree.nodes ↔ Inside node tree := by
  rw [nodes_eq_preorder]
  refine ⟨inside_of_mem_preorder, fun inside => ?_⟩
  induction inside with
  | here =>
    rw [preorder_eq]
    exact List.mem_cons_self
  | child isChild _ ih =>
    rw [preorder_eq]
    refine List.mem_cons_of_mem _ (List.mem_flatMap.mpr ⟨_, ?_, ih⟩)
    exact List.mem_filter.mpr ⟨isChild, rfl⟩

end DeclGraph.Syntax.Tree
