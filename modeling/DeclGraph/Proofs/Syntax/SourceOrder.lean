/-
**The order of the source.**

A node of a tree stands at the end of a way down, which tells at each step the number of the child
that is gone to. The ways are ordered like words: a node comes before those below it, and a child
comes, with everything below it, before the next child. A traversal takes every node of the tree
once, in the order of the ways.

* `Tree.at?`: the node at the end of a way;
* `Tree.InOrder`: nodes with their ways, each node of a tree once and in the order of the ways;
* **`Tree.inOrder_placed`**: the recursion lists the nodes in this order;
* **`Tree.exists_inOrder_namedNodes`**, **`Tree.exists_inOrder_nodes`**: and so do the traversals
  with a list of waiting nodes;
* `Tree.IsFirst`, **`Tree.find?_nodes_eq_some_iff`**: the first node with a property.
-/

import DeclGraph.Proofs.Syntax.Traversal

namespace DeclGraph.Syntax.Tree

variable {keep : Tree → Bool} {below : Tree → List Tree} {tree : Tree} {way : List Nat}

/-! ### Ways -/

/-- The node at the end of a way; `below` gives the children that are counted. -/
def at? (below : Tree → List Tree) : List Nat → Tree → Option Tree
  | [], tree => some tree
  | number :: way, tree => (below tree)[number]?.bind (at? below way)

/-- **All nodes of a tree with their ways, each once, in the order of the ways.** -/
structure InOrder (below : Tree → List Tree) (tree : Tree) (places : List (List Nat × Tree)) :
    Prop where
  mem_iff : ∀ way node, (way, node) ∈ places ↔ at? below way tree = some node
  increasing : (places.map Prod.fst).Pairwise (· < ·)

/-! ### Ways in the order of the recursion -/

mutual

/-- The nodes of a tree with their ways, by recursion. -/
def placed (keep : Tree → Bool) : Tree → List (List Nat × Tree)
  | node label children => ([], node label children) :: placedAll keep 0 children

/-- The nodes of those trees that are gone into. Their ways begin with the numbers of the trees, the
first of which is given. -/
def placedAll (keep : Tree → Bool) : Nat → List Tree → List (List Nat × Tree)
  | _, [] => []
  | number, tree :: trees =>
    if keep tree then
      (tree.placed keep).map (fun place => (number :: place.1, place.2)) ++
        placedAll keep (number + 1) trees
    else placedAll keep number trees

end

mutual

theorem map_snd_placed (keep : Tree → Bool) :
    ∀ tree : Tree, (tree.placed keep).map Prod.snd = tree.preorder keep
  | node label children => by rw [placed, preorder, List.map_cons, map_snd_placedAll]

theorem map_snd_placedAll (keep : Tree → Bool) :
    ∀ (number : Nat) (trees : List Tree),
      (placedAll keep number trees).map Prod.snd = preorderAll keep trees
  | _, [] => rfl
  | number, tree :: trees => by
    rw [placedAll, preorderAll]
    split
    · have same : Prod.snd ∘ (fun place : List Nat × Tree => (number :: place.1, place.2)) =
          Prod.snd := rfl
      rw [List.map_append, List.map_map, same, map_snd_placed keep tree, map_snd_placedAll]
    · exact map_snd_placedAll keep number trees

end

mutual

theorem mem_placed_iff (chosen : ∀ tree, below tree = tree.children.filter keep) :
    ∀ (tree : Tree) (way : List Nat) (place : Tree),
      (way, place) ∈ tree.placed keep ↔ at? below way tree = some place
  | node label children, way, place => by
    rw [placed, List.mem_cons, mem_placedAll_iff chosen]
    cases way with
    | nil => simp [at?, eq_comm]
    | cons number rest => simp [at?, chosen, Tree.children, and_assoc]

theorem mem_placedAll_iff (chosen : ∀ tree, below tree = tree.children.filter keep) :
    ∀ (number : Nat) (trees : List Tree) (way : List Nat) (place : Tree),
      (way, place) ∈ placedAll keep number trees ↔
        ∃ index rest, way = (number + index) :: rest ∧
          (trees.filter keep)[index]?.bind (at? below rest) = some place
  | _, [], _, _ => by simp [placedAll]
  | number, tree :: trees, way, place => by
    rw [placedAll, List.filter_cons]
    split
    · rw [List.mem_append, mem_placedAll_iff chosen]
      constructor
      · rintro (first | ⟨index, rest, rfl, found⟩)
        · obtain ⟨⟨rest, node⟩, isPlace, same⟩ := List.mem_map.mp first
          cases same
          exact ⟨0, rest, rfl, (mem_placed_iff chosen tree rest node).mp isPlace⟩
        · exact ⟨index + 1, rest, by rw [Nat.add_assoc, Nat.add_comm 1], found⟩
      · rintro ⟨index, rest, rfl, found⟩
        cases index with
        | zero =>
          have isPlace := (mem_placed_iff chosen tree rest place).mpr found
          exact Or.inl (List.mem_map.mpr ⟨_, isPlace, rfl⟩)
        | succ index => exact Or.inr ⟨index, rest, by rw [Nat.add_assoc, Nat.add_comm 1], found⟩
    · exact mem_placedAll_iff chosen number trees way place

end

/-- The ways into trees begin with the numbers of these trees. -/
theorem exists_cons_of_mem_placedAll {number : Nat} {trees : List Tree}
    (member : way ∈ (placedAll keep number trees).map Prod.fst) :
    ∃ index rest, way = (number + index) :: rest := by
  obtain ⟨⟨way, place⟩, isPlace, rfl⟩ := List.mem_map.mp member
  obtain ⟨index, rest, same, _⟩ := (mem_placedAll_iff (fun _ => rfl) number trees way place).mp isPlace
  exact ⟨index, rest, same⟩

mutual

theorem pairwise_placed (keep : Tree → Bool) :
    ∀ tree : Tree, ((tree.placed keep).map Prod.fst).Pairwise (· < ·)
  | node label children => by
    rw [placed, List.map_cons]
    refine List.pairwise_cons.mpr ⟨?_, pairwise_placedAll keep 0 children⟩
    intro way member
    obtain ⟨index, rest, rfl⟩ := exists_cons_of_mem_placedAll member
    exact List.nil_lt_cons _ _

theorem pairwise_placedAll (keep : Tree → Bool) :
    ∀ (number : Nat) (trees : List Tree),
      ((placedAll keep number trees).map Prod.fst).Pairwise (· < ·)
  | _, [] => List.Pairwise.nil
  | number, tree :: trees => by
    rw [placedAll]
    split
    · have ways : ((tree.placed keep).map fun place => (number :: place.1, place.2)).map Prod.fst =
          ((tree.placed keep).map Prod.fst).map (number :: ·) := by
        rw [List.map_map, List.map_map]
        rfl
      rw [List.map_append, ways]
      refine List.pairwise_append.mpr ⟨?_, pairwise_placedAll keep (number + 1) trees, ?_⟩
      · refine List.Pairwise.map _ ?_ (pairwise_placed keep tree)
        intro first second less
        exact List.cons_lt_cons_iff.mpr (Or.inr ⟨rfl, less⟩)
      · intro first isFirst second isSecond
        obtain ⟨rest, _, rfl⟩ := List.mem_map.mp isFirst
        obtain ⟨index, others, rfl⟩ := exists_cons_of_mem_placedAll isSecond
        exact List.cons_lt_cons_iff.mpr (Or.inl (by omega))
    · exact pairwise_placedAll keep number trees

end

/-- **The recursion lists all nodes in the order of their ways.** -/
theorem inOrder_placed (chosen : ∀ tree, below tree = tree.children.filter keep) (tree : Tree) :
    InOrder below tree (tree.placed keep) where
  mem_iff := mem_placed_iff chosen tree
  increasing := pairwise_placed keep tree

/-! ### Traversals -/

/-- **The named nodes are taken each once, in the order of their ways.** -/
theorem exists_inOrder_namedNodes (tree : Tree) :
    ∃ places, InOrder namedChildren tree places ∧ tree.namedNodes = places.map Prod.snd :=
  ⟨_, inOrder_placed (fun _ => rfl) tree, by rw [map_snd_placed, namedNodes_eq_preorder]⟩

/-- **All nodes are taken each once, in the order of their ways.** -/
theorem exists_inOrder_nodes (tree : Tree) :
    ∃ places, InOrder children tree places ∧ tree.nodes = places.map Prod.snd :=
  ⟨_, inOrder_placed (fun _ => (List.filter_eq_self.mpr fun _ _ => rfl).symm) tree, by
    rw [map_snd_placed, nodes_eq_preorder]⟩

/-- A node is the first one with a property. -/
def IsFirst (holds : Tree → Bool) (tree node : Tree) : Prop :=
  ∃ way, at? children way tree = some node ∧ holds node = true ∧
    ∀ earlier other, earlier < way → at? children earlier tree = some other → holds other = false

/-- **The traversal of all nodes meets the first one with a property first.** -/
theorem find?_nodes_eq_some_iff {node : Tree} {holds : Tree → Bool} :
    tree.nodes.find? holds = some node ↔ IsFirst holds tree node := by
  obtain ⟨places, inOrder, nodes⟩ := exists_inOrder_nodes tree
  have increasing := inOrder.increasing
  rw [nodes, List.find?_map, Option.map_eq_some_iff]
  constructor
  · rintro ⟨⟨way, node⟩, found, rfl⟩
    obtain ⟨has, before, behind, rfl, others⟩ := List.find?_eq_some_iff_append.mp found
    refine ⟨way, (inOrder.mem_iff way node).mp (by simp), has, ?_⟩
    intro earlier other less isPlace
    rw [List.map_append, List.map_cons, List.pairwise_append, List.pairwise_cons] at increasing
    have listed := (inOrder.mem_iff earlier other).mpr isPlace
    rcases List.mem_append.mp listed with isBefore | isBehind
    · simpa using others _ isBefore
    · rcases List.mem_cons.mp isBehind with same | isBehind
      · cases same
        exact absurd less (List.lt_irrefl _)
      · have greater := increasing.2.1.1 earlier (List.mem_map_of_mem isBehind)
        exact absurd less (List.lt_asymm greater)
  · rintro ⟨way, isPlace, has, others⟩
    have listed := (inOrder.mem_iff way node).mpr isPlace
    obtain ⟨before, behind, rfl⟩ := List.append_of_mem listed
    refine ⟨(way, node), List.find?_eq_some_iff_append.mpr ⟨has, before, behind, rfl, ?_⟩, rfl⟩
    rintro ⟨earlier, other⟩ isBefore
    rw [List.map_append, List.pairwise_append] at increasing
    have less := increasing.2.2 earlier (List.mem_map_of_mem isBefore) way (by simp)
    have isOther := (inOrder.mem_iff earlier other).mp (List.mem_append_left _ isBefore)
    simpa using others earlier other less isOther

end DeclGraph.Syntax.Tree
