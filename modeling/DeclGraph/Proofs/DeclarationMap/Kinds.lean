/-
**Where the calls of a declaration map end.**

Every call that is the key of an emitted entry becomes a link of calls, whatever the entry declares. A
call of a member or a function is such a link in every graph; but a type is not called, and a call of
an imported name is a use of the import. So the kinds of links agree with those of the nodes they
reach only for maps in which nobody calls a type or an import.

* `CallsEntry`: an emitted entry calls the key of another one;
* `KindsAgree`: the kinds of links agree with what the links reach;
* `kind_of_mem_graph_links`, `call_mem_graph_links_iff`: the links of the graph of a map;
* **`kindsAgree_graph_iff`**: for which maps the kinds agree;
* **`celsius_disagrees`**: a map that calls a type and an import.
-/

import DeclGraph.Proofs.DeclarationMap.Graph
import DeclGraph.Proofs.Declarations.Closed

namespace DeclGraph.DeclarationMap

variable {map : DeclarationMap} {caller callee : String × ForeignDeclaration}

/-! ### Kinds of links -/

/-- An emitted entry calls another one by its key. -/
structure CallsEntry (map : DeclarationMap) (caller callee : String × ForeignDeclaration) :
    Prop where
  caller_known : caller ∈ map.known
  callee_known : callee ∈ map.known
  called : callee.1 ∈ caller.2.calls.getD []

/-- A key is that of a declared type. -/
def DeclaresType (map : DeclarationMap) (key : String) : Prop :=
  ∃ type ∈ map.entries, type.2.kind = "type" ∧ type.1 = key

/-- **The kinds of links agree with what the links reach**: links of calls end at members and
functions and at no type, and a call of an imported name is a use of the import. -/
structure KindsAgree (map : DeclarationMap) (graph : Graph) : Prop where
  call : ∀ source target, ⟨source, target, .call⟩ ∈ graph.links → graph.DeclaresCaller target
  importUse : ∀ caller imported, map.CallsEntry caller imported → imported.2.kind = "import" →
    ⟨emittedKey caller, imported.1, .importUse⟩ ∈ graph.links ∧
      ⟨emittedKey caller, imported.1, .call⟩ ∉ graph.links
  type : ∀ source target, map.DeclaresType target → ⟨source, target, .call⟩ ∉ graph.links

/-! ### The links of a graph -/

theorem mem_callLinks_iff {link : Link} : link ∈ map.callLinks ↔
    ∃ caller callee, map.CallsEntry caller callee ∧
      link = ⟨emittedKey caller, emittedKey callee, .call⟩ := by
  unfold callLinks
  constructor
  · intro member
    obtain ⟨caller, isCaller, ofCaller⟩ := List.mem_flatMap.mp member
    obtain ⟨call, called, ofCall⟩ := List.mem_flatMap.mp ofCaller
    obtain ⟨callee, chosen, rfl⟩ := List.mem_map.mp ofCall
    obtain ⟨isCallee, same⟩ := List.mem_filter.mp chosen
    obtain rfl := eq_of_beq same
    exact ⟨caller, callee, ⟨isCaller, isCallee, called⟩, rfl⟩
  · rintro ⟨caller, callee, ⟨isCaller, isCallee, called⟩, rfl⟩
    refine List.mem_flatMap.mpr ⟨caller, isCaller, List.mem_flatMap.mpr ⟨callee.1, called, ?_⟩⟩
    exact List.mem_map_of_mem (List.mem_filter.mpr ⟨isCallee, BEq.refl _⟩)

/-- The links are those from types to their methods, and those of calls. -/
theorem kind_of_mem_graph_links {link : Link} (member : link ∈ map.graph.links) :
    link.kind = .containment ∨ link.kind = .call := by
  rw [graph_links_eq] at member
  rcases List.mem_append.mp member with contained | called
  · obtain ⟨_, _, rfl⟩ := List.mem_map.mp contained
    exact Or.inl rfl
  · obtain ⟨_, _, _, rfl⟩ := mem_callLinks_iff.mp called
    exact Or.inr rfl

/-- **Calls of entries of all kinds become links of calls.** -/
theorem call_mem_graph_links_iff {source target : String} :
    (⟨source, target, .call⟩ : Link) ∈ map.graph.links ↔
      ∃ caller callee, map.CallsEntry caller callee ∧
        emittedKey caller = source ∧ emittedKey callee = target := by
  rw [graph_links_eq, List.mem_append]
  constructor
  · rintro (contained | called)
    · obtain ⟨_, _, same⟩ := List.mem_map.mp contained
      cases same
    · obtain ⟨caller, callee, calls, same⟩ := mem_callLinks_iff.mp called
      cases same
      exact ⟨caller, callee, calls, rfl, rfl⟩
  · rintro ⟨caller, callee, calls, rfl, rfl⟩
    exact Or.inr (mem_callLinks_iff.mpr ⟨caller, callee, calls, rfl⟩)

/-! ### Kinds of entries -/

/-- A type is emitted under its own key. -/
theorem declaresType_emittedKey (listed : callee ∈ map.known) (isType : callee.2.kind = "type") :
    map.DeclaresType (emittedKey callee) := by
  have own : emittedKey callee = callee.1 := by
    rw [emittedKey, isType, if_neg (by decide)]
  exact ⟨callee, (List.mem_filter.mp listed).1, isType, own.symm⟩

theorem EmittedAs.kind_cases {node : Node} (emitted : EmittedAs callee node)
    (noImport : callee.2.kind ≠ "import") (noType : callee.2.kind ≠ "type") :
    node.kind = .member ∨ node.kind = .function := by
  cases emitted with
  | importing kind => exact absurd kind noImport
  | type kind => exact absurd kind noType
  | method => exact Or.inl rfl
  | function => exact Or.inr rfl

/-- Entries that are neither imports nor types are emitted as members and functions. -/
theorem declaresCaller_emittedKey (listed : callee ∈ map.known)
    (noImport : callee.2.kind ≠ "import") (noType : callee.2.kind ≠ "type") :
    map.graph.DeclaresCaller (emittedKey callee) := by
  have emitted := emittedAs_emittedOf (List.mem_filter.mp listed).2
  have isNode := node_mem_graph_nodes listed
  rcases emitted.kind_cases noImport noType with isMember | isFunction
  · exact Or.inl ⟨_, isNode, isMember, emitted.key_eq⟩
  · exact Or.inr ⟨_, isNode, isFunction, emitted.key_eq⟩

/-! ### When the kinds agree -/

/-- **The kinds of links agree exactly if nobody calls an import or a type.** No link is a use of an
import, and every call of an emitted entry is a link of calls. A method that is emitted under the key
of a type counts as the type, since links know their ends by key. -/
theorem kindsAgree_graph_iff (map : DeclarationMap) :
    (∀ link ∈ map.graph.links, link.kind = .containment ∨ link.kind = .call) ∧
      (∀ source target, (⟨source, target, .call⟩ : Link) ∈ map.graph.links ↔
        ∃ caller callee, map.CallsEntry caller callee ∧
          emittedKey caller = source ∧ emittedKey callee = target) ∧
      (map.KindsAgree map.graph ↔ ∀ caller callee, map.CallsEntry caller callee →
        callee.2.kind ≠ "import" ∧ ¬ map.DeclaresType (emittedKey callee)) := by
  refine ⟨fun _ => kind_of_mem_graph_links, fun _ _ => call_mem_graph_links_iff, ?_⟩
  constructor
  · intro agree caller callee calls
    refine ⟨fun isImport => ?_, fun declared => ?_⟩
    · rcases kind_of_mem_graph_links (agree.importUse caller callee calls isImport).1 with
        contained | called
      · cases contained
      · cases called
    · exact agree.type _ _ declared
        (call_mem_graph_links_iff.mpr ⟨caller, callee, calls, rfl, rfl⟩)
  · intro apart
    refine ⟨fun source target member => ?_, fun caller imported calls isImport => ?_,
      fun source target declared member => ?_⟩
    · obtain ⟨caller, callee, calls, _, rfl⟩ := call_mem_graph_links_iff.mp member
      obtain ⟨noImport, noType⟩ := apart caller callee calls
      exact declaresCaller_emittedKey calls.callee_known noImport fun isType =>
        noType (declaresType_emittedKey calls.callee_known isType)
    · exact absurd isImport (apart caller imported calls).1
    · obtain ⟨caller, callee, calls, _, rfl⟩ := call_mem_graph_links_iff.mp member
      exact (apart caller callee calls).2 declared

/-- A function that converts to a declared type, and calls an import by its key. -/
def celsius : DeclarationMap := ofEntries
  [("\"fmt\"", ⟨"\"fmt\"", "import", "\"fmt\"", none, none⟩),
    ("Celsius", ⟨"Celsius", "type", "Celsius float64", none, none⟩),
    ("boil", ⟨"boil", "func", "func boil() {}", some ["Celsius", "\"fmt\""], none⟩)]

/-- **Calls of a type and of an import are both told as links of calls.** -/
theorem celsius_disagrees :
    celsius.graph.nodes.map (fun node => (node.key, node.kind)) =
        [("\"fmt\"", .importing), ("Celsius", .type), ("boil", .function)] ∧
      celsius.graph.links = [⟨"boil", "Celsius", .call⟩, ⟨"boil", "\"fmt\"", .call⟩] ∧
      ¬ celsius.KindsAgree celsius.graph := by
  have links : celsius.graph.links =
      [⟨"boil", "Celsius", .call⟩, ⟨"boil", "\"fmt\"", .call⟩] := by decide +kernel
  refine ⟨by decide +kernel, links, fun agree => ?_⟩
  have declared : celsius.DeclaresType "Celsius" := by
    unfold DeclaresType
    decide +kernel
  refine agree.type "boil" "Celsius" declared ?_
  rw [links]
  exact List.mem_cons_self

end DeclGraph.DeclarationMap
