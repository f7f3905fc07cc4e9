/-
**The graph of a declaration map.**

Entries are resolved by the keys that the map has for them, and emitted under those that the graph
has for them. As the keys of a map are unique, each call names one entry at most.

* `known`: the entries of a known kind, and `EmittedAs`: the node of such an entry;
* `containments`, `callLinks`: the links that a map asks for, told without tables of keys;
* `filter_eq_lastFor`: what was written last for a key is all that was written for it;
* **`graph_links_eq`**: the links of the graph are those that the map asks for;
* **`graph_knownOnly`**: entries of other kinds leave no trace in the graph;
* `RepresentedBy`: what a graph has to do with its map;
* **`representedBy_graph`**: every map is represented by its graph.
-/

import DeclGraph.DeclarationMap.Basic
import DeclGraph.Proofs.Lists
import DeclGraph.Proofs.Text.ByteOrder
import Mathlib.Data.List.Forall2

namespace DeclGraph

/-! ### Keys that occur once -/

/-- **What was written last for a key is all that was written for it**, if keys occur once. -/
theorem filter_eq_lastFor {entries : List (String × String)} (key : String)
    (once : entries.Pairwise fun first second => first.1 ≠ second.1) :
    (entries.filter fun entry => entry.1 == key).map Prod.snd = (lastFor key entries).toList := by
  have onceBackwards : entries.reverse.Pairwise fun first second =>
      ¬ ((first.1 == key) = true ∧ (second.1 == key) = true) := by
    rw [List.pairwise_reverse]
    refine once.imp fun {first second} differ both => differ ?_
    rw [eq_of_beq both.1, eq_of_beq both.2]
  have found := filter_eq_find? _ onceBackwards
  rw [List.filter_reverse, List.reverse_eq_iff] at found
  unfold lastFor
  rw [found]
  cases entries.reverse.find? fun entry => entry.1 == key <;> rfl

namespace DeclarationMap

variable {map : DeclarationMap} {entry : String × ForeignDeclaration}

/-! ### Emitted entries -/

/-- An entry is emitted if its kind is known. -/
def isKnown (entry : String × ForeignDeclaration) : Bool :=
  ["import", "type", "method", "func"].contains entry.2.kind

/-- The entries that are emitted, in the order of the map. -/
def known (map : DeclarationMap) : List (String × ForeignDeclaration) := map.entries.filter isKnown

/-- The node that an entry is emitted as. -/
inductive EmittedAs (entry : String × ForeignDeclaration) : Node → Prop
  | importing (kind : entry.2.kind = "import") :
    EmittedAs entry ⟨entry.1, entry.2.name, .importing, "import " ++ entry.2.code⟩
  | type (kind : entry.2.kind = "type") :
    EmittedAs entry ⟨entry.1, entry.2.name, .type, "type " ++ entry.2.code⟩
  | method (kind : entry.2.kind = "method") :
    EmittedAs entry ⟨Key.receiver entry.1 ++ "." ++ Key.method entry.1, Key.method entry.1, .member,
      entry.2.code⟩
  | function (kind : entry.2.kind = "func") :
    EmittedAs entry ⟨entry.1, entry.2.name, .function, entry.2.code⟩

/-- The key that an entry is emitted under. -/
def emittedKey (entry : String × ForeignDeclaration) : String :=
  if entry.2.kind = "method" then Key.receiver entry.1 ++ "." ++ Key.method entry.1 else entry.1

/-- What an entry of a known kind is emitted as. -/
def emittedOf (entry : String × ForeignDeclaration) : Emitted :=
  ⟨entry.1, nodeOf entry.1 entry.2 ((nodeKind? entry.2.kind).getD .importing),
    entry.2.calls.getD []⟩

theorem isKnown_iff : isKnown entry = true ↔ entry.2.kind = "import" ∨ entry.2.kind = "type" ∨
    entry.2.kind = "method" ∨ entry.2.kind = "func" := by
  unfold isKnown
  simp

theorem emittedAs_emittedOf (known : isKnown entry = true) :
    EmittedAs entry (emittedOf entry).node := by
  unfold emittedOf nodeKind?
  rcases isKnown_iff.mp known with kind | kind | kind | kind
  · simpa [kind, nodeOf] using EmittedAs.importing kind
  · simpa [kind, nodeOf] using EmittedAs.type kind
  · simpa [kind, nodeOf, memberKey] using EmittedAs.method kind
  · simpa [kind, nodeOf] using EmittedAs.function kind

/-- A node has the key that its entry is emitted under. -/
theorem EmittedAs.key_eq {node : Node} (emitted : EmittedAs entry node) :
    node.key = emittedKey entry := by
  unfold emittedKey
  cases emitted <;> simp [*]

/-- The kinds of nodes tell types and methods apart, as the kinds of entries do. -/
theorem EmittedAs.kind_eq_member_iff {node : Node} (emitted : EmittedAs entry node) :
    node.kind = .member ↔ entry.2.kind = "method" := by
  cases emitted <;> simp [*]

theorem EmittedAs.kind_eq_type_iff {node : Node} (emitted : EmittedAs entry node) :
    node.kind = .type ↔ entry.2.kind = "type" := by
  cases emitted <;> simp [*]

theorem emitted?_eq (entry : String × ForeignDeclaration) :
    emitted? entry = if isKnown entry = true then some (emittedOf entry) else none := by
  unfold emitted? emittedOf
  by_cases known : isKnown entry = true
  · rw [if_pos known]
    rcases isKnown_iff.mp known with kind | kind | kind | kind <;> simp [kind, nodeKind?]
  · rw [if_neg known]
    rw [isKnown_iff] at known
    simp only [not_or] at known
    simp [nodeKind?, known]

/-- **Exactly the entries of a known kind are emitted**, in the order of the map. -/
theorem emitted_eq (map : DeclarationMap) : map.emitted = map.known.map emittedOf := by
  unfold emitted known
  induction map.entries with
  | nil => rfl
  | cons entry entries ih =>
    by_cases known : isKnown entry = true
    · rw [List.filterMap_cons, emitted?_eq, if_pos known, List.filter_cons_of_pos known,
        List.map_cons, ih]
    · rw [List.filterMap_cons, emitted?_eq, if_neg known, List.filter_cons_of_neg known, ih]

/-- Every emitted node belongs to an entry of a known kind. -/
theorem forall₂_nodes (map : DeclarationMap) :
    List.Forall₂ EmittedAs map.known map.graph.nodes := by
  have nodes : map.graph.nodes = map.known.map fun entry => (emittedOf entry).node := by
    show map.emitted.map Emitted.node = _
    rw [emitted_eq, List.map_map]
    rfl
  rw [nodes, List.forall₂_map_right_iff, List.forall₂_same]
  intro entry member
  exact emittedAs_emittedOf (List.mem_filter.mp member).2

/-! ### Links -/

/-- The receiver of a method is a declared type. -/
def hasReceiver (map : DeclarationMap) (entry : String × ForeignDeclaration) : Bool :=
  map.entries.any fun type => type.2.kind == "type" && type.1 == Key.receiver entry.1

/-- The links from declared types to their methods. -/
def containments (map : DeclarationMap) : List Link :=
  (map.entries.filter fun entry => entry.2.kind == "method" && map.hasReceiver entry).map
    fun entry => ⟨Key.receiver entry.1, emittedKey entry, .containment⟩

/-- The links of calls: one for every time that an emitted entry calls the key of an emitted one. -/
def callLinks (map : DeclarationMap) : List Link :=
  map.known.flatMap fun caller => (caller.2.calls.getD []).flatMap fun call =>
    (map.known.filter fun callee => callee.1 == call).map fun callee =>
      ⟨emittedKey caller, emittedKey callee, .call⟩

theorem mem_typeKeys_iff {receiver : String} : receiver ∈ typeKeys map.emitted ↔
    ∃ type ∈ map.entries, type.2.kind = "type" ∧ type.1 = receiver := by
  unfold typeKeys
  rw [emitted_eq]
  constructor
  · intro listed
    obtain ⟨_, chosen, rfl⟩ := List.mem_map.mp listed
    obtain ⟨made, isType⟩ := List.mem_filter.mp chosen
    obtain ⟨type, member, rfl⟩ := List.mem_map.mp made
    obtain ⟨listed, known⟩ := List.mem_filter.mp member
    exact ⟨type, listed,
      (emittedAs_emittedOf known).kind_eq_type_iff.mp (of_decide_eq_true isType), rfl⟩
  · rintro ⟨type, listed, isType, rfl⟩
    have known : isKnown type = true := isKnown_iff.mpr (Or.inr (Or.inl isType))
    refine List.mem_map.mpr ⟨emittedOf type, List.mem_filter.mpr ⟨?_, ?_⟩, rfl⟩
    · exact List.mem_map_of_mem (List.mem_filter.mpr ⟨listed, known⟩)
    · exact decide_eq_true ((emittedAs_emittedOf known).kind_eq_type_iff.mpr isType)

/-- A method with a declared receiver gives a link, and nothing else does. -/
theorem containment?_emittedOf (known : isKnown entry = true) :
    (emittedOf entry).containment? (typeKeys map.emitted) =
      if (entry.2.kind == "method" && map.hasReceiver entry) = true then
        some ⟨Key.receiver entry.1, emittedKey entry, .containment⟩
      else none := by
  have emitted := emittedAs_emittedOf known
  have isMethod : ((emittedOf entry).node.kind = .member) = (entry.2.kind = "method") :=
    propext emitted.kind_eq_member_iff
  have declared :
      (typeKeys map.emitted).contains (Key.receiver entry.1) = map.hasReceiver entry := by
    rw [Bool.eq_iff_iff, List.contains_iff_mem, mem_typeKeys_iff]
    unfold hasReceiver
    simp
  unfold Emitted.containment?
  show (if (decide ((emittedOf entry).node.kind = .member) &&
    (typeKeys map.emitted).contains (Key.receiver entry.1)) = true then _ else _) = _
  rw [declared, emitted.key_eq]
  simp only [isMethod]
  rfl

theorem containments_eq (map : DeclarationMap) :
    map.emitted.filterMap (Emitted.containment? (typeKeys map.emitted)) = map.containments := by
  unfold containments
  rw [← List.filterMap_eq_map, List.filterMap_filter]
  conv => lhs; arg 2; rw [emitted_eq]
  unfold known
  rw [List.filterMap_map, List.filterMap_filter]
  refine List.filterMap_congr fun entry _ => ?_
  by_cases known : isKnown entry = true
  · rw [if_pos known, Function.comp_apply, containment?_emittedOf known]
    rfl
  · have other : ¬ (entry.2.kind == "method" && map.hasReceiver entry) = true := fun both =>
      known (isKnown_iff.mpr (Or.inr (Or.inr (Or.inl (eq_of_beq (Bool.and_eq_true_iff.mp both).1)))))
    rw [if_neg known, if_neg other]

/-! ### Resolution -/

theorem emitted_foldl_insert (emitted : List Emitted) (table : KeyTable) :
    emitted.foldl (fun table emitted => table.insert emitted.key emitted.node.key) table =
      ⟨table.keys ++ emitted.map fun emitted => (emitted.key, emitted.node.key)⟩ := by
  induction emitted generalizing table with
  | nil => simp
  | cons first emitted ih =>
    rw [List.foldl_cons, ih]
    simp [KeyTable.insert]

/-- The table of keys has the two keys of every emitted entry. -/
theorem keyTable_eq (map : DeclarationMap) :
    (keyTable map.emitted).keys = map.known.map fun entry => (entry.1, emittedKey entry) := by
  unfold keyTable
  rw [emitted_foldl_insert, emitted_eq, List.map_map]
  refine List.map_congr_left fun entry member => ?_
  have emitted := emittedAs_emittedOf (List.mem_filter.mp member).2
  show (entry.1, (emittedOf entry).node.key) = (entry.1, emittedKey entry)
  rw [emitted.key_eq]

/-- The keys of the emitted entries ascend. -/
theorem pairwise_known (map : DeclarationMap) :
    map.known.Pairwise fun first second => first.1 < second.1 :=
  map.ascending.filter _

/-- **A call stands for the emitted entry that has it as its key.** -/
theorem resolve_keyTable (map : DeclarationMap) (call : String) :
    (keyTable map.emitted).resolve call =
      (map.known.filter fun callee => callee.1 == call).map fun callee =>
        ⟨emittedKey callee, .call⟩ := by
  have once : ((keyTable map.emitted).keys).Pairwise fun first second => first.1 ≠ second.1 := by
    rw [keyTable_eq, List.pairwise_map]
    exact (pairwise_known map).imp fun less => String.ne_of_lt less
  have found := filter_eq_lastFor call once
  have targets : (keyTable map.emitted).resolve call =
      ((lastFor call (keyTable map.emitted).keys).toList).map fun key => ⟨key, .call⟩ := by
    unfold KeyTable.resolve
    cases lastFor call (keyTable map.emitted).keys <;> rfl
  rw [targets, ← found, keyTable_eq, List.filter_map, List.map_map, List.map_map]
  rfl

theorem callLinks_eq (map : DeclarationMap) :
    (resolveCalls (map.emitted.map Emitted.caller) (keyTable map.emitted).resolve).links =
      map.callLinks := by
  show (map.emitted.map Emitted.caller).flatMap (Caller.links (keyTable map.emitted).resolve) = _
  rw [show map.emitted.map Emitted.caller = map.known.map fun entry => (emittedOf entry).caller by
    rw [emitted_eq, List.map_map]; rfl, List.flatMap_map]
  unfold callLinks
  refine List.flatMap_congr fun caller member => ?_
  have emitted := emittedAs_emittedOf (List.mem_filter.mp member).2
  refine List.flatMap_congr fun call _ => ?_
  show (((keyTable map.emitted).resolve call).map fun target =>
    (⟨(emittedOf caller).node.key, target.key, target.kind⟩ : Link)) = _
  rw [resolve_keyTable, List.map_map, emitted.key_eq]
  rfl

/-- **The links of the graph are those that the map asks for.** -/
theorem graph_links_eq (map : DeclarationMap) :
    map.graph.links = map.containments ++ map.callLinks := by
  show map.emitted.filterMap (Emitted.containment? (typeKeys map.emitted)) ++ _ = _
  rw [containments_eq, callLinks_eq]

/-! ### Ends of links -/

theorem node_mem_graph_nodes (listed : entry ∈ map.known) :
    (emittedOf entry).node ∈ map.graph.nodes := by
  show _ ∈ map.emitted.map Emitted.node
  rw [emitted_eq, List.map_map]
  exact List.mem_map_of_mem listed

theorem exists_node_of_known (listed : entry ∈ map.known) :
    ∃ node ∈ map.graph.nodes, node.key = emittedKey entry :=
  ⟨(emittedOf entry).node, node_mem_graph_nodes listed,
    (emittedAs_emittedOf (List.mem_filter.mp listed).2).key_eq⟩

/-- A declared type is emitted under its own key. -/
theorem exists_node_of_hasReceiver (declared : map.hasReceiver entry = true) :
    ∃ node ∈ map.graph.nodes, node.key = Key.receiver entry.1 := by
  obtain ⟨type, listed, both⟩ := List.any_eq_true.mp declared
  obtain ⟨isType, same⟩ := Bool.and_eq_true_iff.mp both
  have isType : type.2.kind = "type" := eq_of_beq isType
  have known : type ∈ map.known :=
    List.mem_filter.mpr ⟨listed, isKnown_iff.mpr (Or.inr (Or.inl isType))⟩
  obtain ⟨node, isNode, key⟩ := exists_node_of_known known
  refine ⟨node, isNode, ?_⟩
  rw [key, emittedKey, isType, if_neg (by decide), eq_of_beq same]

/-- **The ends of every link are keys of emitted nodes.** -/
theorem ends_of_mem_links {link : Link} (member : link ∈ map.graph.links) :
    (∃ node ∈ map.graph.nodes, node.key = link.source) ∧
      ∃ node ∈ map.graph.nodes, node.key = link.target := by
  rw [graph_links_eq] at member
  rcases List.mem_append.mp member with contained | called
  · obtain ⟨method, chosen, rfl⟩ := List.mem_map.mp contained
    obtain ⟨listed, both⟩ := List.mem_filter.mp chosen
    obtain ⟨isMethod, declared⟩ := Bool.and_eq_true_iff.mp both
    have known : method ∈ map.known := List.mem_filter.mpr
      ⟨listed, isKnown_iff.mpr (Or.inr (Or.inr (Or.inl (eq_of_beq isMethod))))⟩
    exact ⟨exists_node_of_hasReceiver declared, exists_node_of_known known⟩
  · obtain ⟨caller, isCaller, ofCaller⟩ := List.mem_flatMap.mp called
    obtain ⟨call, _, ofCall⟩ := List.mem_flatMap.mp ofCaller
    obtain ⟨callee, isCallee, rfl⟩ := List.mem_map.mp ofCall
    exact ⟨exists_node_of_known isCaller, exists_node_of_known (List.mem_filter.mp isCallee).1⟩

/-! ### Entries of other kinds -/

/-- The map without the entries of other kinds. -/
def knownOnly (map : DeclarationMap) : DeclarationMap := ⟨map.known, pairwise_known map⟩

/-- What is emitted makes the graph. -/
theorem graph_eq_of_emitted {map other : DeclarationMap} (same : map.emitted = other.emitted) :
    map.graph = other.graph := by
  unfold graph
  rw [same]

/-- **Entries of other kinds leave no trace in the graph.** -/
theorem graph_knownOnly (map : DeclarationMap) : map.knownOnly.graph = map.graph := by
  refine graph_eq_of_emitted ?_
  rw [emitted_eq, emitted_eq]
  show (map.known.filter isKnown).map emittedOf = _
  rw [known, List.filter_filter]
  simp only [Bool.and_self]

/-! ### The graph of a map -/

/-- A map is represented by a graph: the graph has one node for each entry of a known kind, in the
order of the bytes of the keys; the links that the map asks for; both ends of each among its nodes;
and it stays as it is when the entries of other kinds are taken out of the map. -/
structure RepresentedBy (map : DeclarationMap) (graph : Graph) : Prop where
  nodes : List.Forall₂ EmittedAs (map.entries.filter isKnown) graph.nodes
  order : (map.entries.filter isKnown).Pairwise fun first second =>
    Text.Utf8.encode first.1 < Text.Utf8.encode second.1
  links : graph.links = map.containments ++ map.callLinks
  ends : ∀ link ∈ graph.links, (∃ node ∈ graph.nodes, node.key = link.source) ∧
    ∃ node ∈ graph.nodes, node.key = link.target
  others : map.knownOnly.graph = graph

/-- **Every map is represented by its graph.** -/
theorem representedBy_graph (map : DeclarationMap) : map.RepresentedBy map.graph where
  nodes := forall₂_nodes map
  order := (pairwise_known map).imp Text.Utf8.encode_lt_encode_iff.mpr
  links := graph_links_eq map
  ends := fun _ => ends_of_mem_links
  others := graph_knownOnly map

end DeclarationMap

end DeclGraph
