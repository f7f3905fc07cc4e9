/-
**Declaration maps.**

What an external parser tells of a file: declarations by key, in the order of the keys. Putting in
a declaration replaces the one that its key had before.

* a method is emitted under the key `Receiver.method`, every other declaration under its own key;
* declarations of a kind that is not known are left out;
* a method belongs to its receiver if the receiver is the key of a declared type;
* a call is the key of a declaration, as the map spells it.

The main function is `DeclarationMap.graph`. A map carries that its keys ascend, so no key is there
twice.
-/

import DeclGraph.DeclarationMap.Key
import DeclGraph.Linking

namespace DeclGraph

/-- A declaration as an external parser tells it. -/
structure ForeignDeclaration where
  name : String
  /-- `import`, `type`, `method`, `func` or something else -/
  kind : String
  code : String
  calls : Option (List String)
  position : Option String
  deriving DecidableEq, Repr, Inhabited

/-- Declarations by key; the keys are in ascending order. -/
structure DeclarationMap where
  entries : List (String × ForeignDeclaration)
  ascending : entries.Pairwise fun first second => first.1 < second.1
  deriving DecidableEq, Repr

namespace DeclarationMap

/-- The map without entries. -/
def empty : DeclarationMap := ⟨[], .nil⟩

instance : Inhabited DeclarationMap := ⟨empty⟩

/-! ### Entries -/

/-- Puts an entry before the first one with a greater key, in the place of one with the same key. -/
def insertEntry (entry : String × ForeignDeclaration) :
    List (String × ForeignDeclaration) → List (String × ForeignDeclaration)
  | [] => [entry]
  | other :: entries =>
    if entry.1 < other.1 then entry :: other :: entries
    else if entry.1 = other.1 then entry :: entries
    else other :: insertEntry entry entries

theorem mem_insertEntry {entry other : String × ForeignDeclaration}
    {entries : List (String × ForeignDeclaration)} (member : other ∈ insertEntry entry entries) :
    other = entry ∨ other ∈ entries := by
  induction entries with
  | nil => exact Or.inl (List.mem_singleton.mp member)
  | cons first entries ih =>
    unfold insertEntry at member
    split at member
    · exact List.mem_cons.mp member
    · split at member
      · rcases List.mem_cons.mp member with same | later
        · exact Or.inl same
        · exact Or.inr (List.mem_cons_of_mem _ later)
      · rcases List.mem_cons.mp member with rfl | later
        · exact Or.inr List.mem_cons_self
        · exact (ih later).imp_right (List.mem_cons_of_mem _)

/-- Putting in an entry keeps the keys in ascending order. -/
theorem pairwise_insertEntry (entry : String × ForeignDeclaration)
    {entries : List (String × ForeignDeclaration)}
    (ascending : entries.Pairwise fun first second => first.1 < second.1) :
    (insertEntry entry entries).Pairwise fun first second => first.1 < second.1 := by
  induction entries with
  | nil => exact List.pairwise_singleton _ _
  | cons other entries ih =>
    obtain ⟨least, rest⟩ := List.pairwise_cons.mp ascending
    unfold insertEntry
    split
    next less =>
      refine List.pairwise_cons.mpr ⟨fun later member => ?_, ascending⟩
      rcases List.mem_cons.mp member with rfl | behind
      · exact less
      · exact String.lt_trans less (least later behind)
    next notLess =>
      split
      next same =>
        refine List.pairwise_cons.mpr ⟨fun later behind => ?_, rest⟩
        rw [same]
        exact least later behind
      next differs =>
        refine List.pairwise_cons.mpr ⟨fun later member => ?_, ih rest⟩
        rcases mem_insertEntry member with rfl | behind
        · exact Std.lt_of_le_of_ne (String.not_lt.mp notLess) (Ne.symm differs)
        · exact least later behind

/-- The map with one more declaration. -/
def insert (map : DeclarationMap) (entry : String × ForeignDeclaration) : DeclarationMap :=
  ⟨insertEntry entry map.entries, pairwise_insertEntry entry map.ascending⟩

/-- The map of a list of entries; of several for one key the last one counts. -/
def ofEntries (entries : List (String × ForeignDeclaration)) : DeclarationMap :=
  entries.foldl insert empty

/-! ### Emitted declarations -/

/-- The kind of node that a declaration becomes. -/
def nodeKind? (kind : String) : Option NodeKind :=
  if kind = "import" then some .importing
  else if kind = "type" then some .type
  else if kind = "method" then some .member
  else if kind = "func" then some .function
  else none

/-- The key under which a method is emitted. -/
def memberKey (key : String) : String := Key.receiver key ++ "." ++ Key.method key

/-- The node of a declaration. -/
def nodeOf (key : String) (declaration : ForeignDeclaration) : NodeKind → Node
  | .importing => ⟨key, declaration.name, .importing, "import " ++ declaration.code⟩
  | .type => ⟨key, declaration.name, .type, "type " ++ declaration.code⟩
  | .member => ⟨memberKey key, Key.method key, .member, declaration.code⟩
  | .function => ⟨key, declaration.name, .function, declaration.code⟩

/-- A declaration that is emitted: its key in the map, its node and the keys that it calls. -/
structure Emitted where
  key : String
  node : Node
  calls : List String
  deriving DecidableEq, Repr, Inhabited

/-- What is emitted for an entry. -/
def emitted? (entry : String × ForeignDeclaration) : Option Emitted :=
  (nodeKind? entry.2.kind).map fun kind =>
    ⟨entry.1, nodeOf entry.1 entry.2 kind, entry.2.calls.getD []⟩

/-- What is emitted for the map, in the order of the keys. -/
def emitted (map : DeclarationMap) : List Emitted := map.entries.filterMap emitted?

/-! ### The graph -/

namespace Emitted

/-- The declaration as a caller. -/
def caller (emitted : Emitted) : Caller := ⟨emitted.node.key, emitted.calls⟩

/-- The link to a method from its receiver, if that is one of the declared types. -/
def containment? (types : List String) (emitted : Emitted) : Option Link :=
  let receiver := Key.receiver emitted.key
  if emitted.node.kind = .member && types.contains receiver then
    some ⟨receiver, emitted.node.key, .containment⟩
  else none

end Emitted

/-- The keys of the declared types. -/
def typeKeys (emitted : List Emitted) : List String :=
  (emitted.filter fun emitted => emitted.node.kind = .type).map Emitted.key

/-- The key emitted for each key of the map. -/
def keyTable (emitted : List Emitted) : KeyTable :=
  emitted.foldl (fun table emitted => table.insert emitted.key emitted.node.key) .empty

/-- The graph of a declaration map. -/
def graph (map : DeclarationMap) : Graph :=
  let emitted := map.emitted
  { nodes := emitted.map Emitted.node
    links := emitted.filterMap (Emitted.containment? (typeKeys emitted)) ++
      (resolveCalls (emitted.map Emitted.caller) (keyTable emitted).resolve).links }

end DeclarationMap

end DeclGraph
