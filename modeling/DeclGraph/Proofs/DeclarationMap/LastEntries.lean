/-
**Which entries a declaration map keeps.**

An object may have several entries for one key. They are put in one after the other, each in the place
of the one before, and the keys of a map ascend; so a map holds the last entry for each key, in the
order of the keys, and nothing else of the order of the entries is left. The order in the map is that
of the keys as the object spells them, also where methods are emitted under other keys.

* `mem_insertEntry_iff`: what putting in one entry changes;
* **`mem_ofEntries_iff`**: the entries that a map keeps;
* **`ofEntries_eq_of_lastGiven`**: what the map of some entries depends on;
* `entriesIn?`, `textOf`: the entries of the object in a text, and a text of any entries;
* `Yields`: the graph that entries give, however their text is written;
* **`graph_of_last_entries`**: what this graph depends on.
-/

import DeclGraph.DeclarationMap.Json
import DeclGraph.Proofs.DeclarationMap.Receivers
import DeclGraph.Proofs.Diagram.RoundTrip
import DeclGraph.Proofs.LastGiven

namespace DeclGraph

open Json (Decoder Syntax Value)

variable {entries others : List (String × ForeignDeclaration)}
  {entry other : String × ForeignDeclaration}

/-! ### Entries of a map -/

namespace DeclarationMap

variable {map otherMap : DeclarationMap}

/-- **An entry that is put in takes the place of the one with its key**, and the others stay. -/
theorem mem_insertEntry_iff (ascending : entries.Pairwise fun first second => first.1 < second.1) :
    other ∈ insertEntry entry entries ↔ other = entry ∨ other.1 ≠ entry.1 ∧ other ∈ entries := by
  induction entries with
  | nil => simp [insertEntry]
  | cons first entries ih =>
    obtain ⟨least, rest⟩ := List.pairwise_cons.mp ascending
    unfold insertEntry
    split
    next less =>
      have differs : ∀ other ∈ first :: entries, other.1 ≠ entry.1 := by
        intro other member
        rcases List.mem_cons.mp member with rfl | later
        · exact (String.ne_of_lt less).symm
        · exact (String.ne_of_lt (String.lt_trans less (least other later))).symm
      rw [List.mem_cons, and_iff_right_of_imp (differs other)]
    next notLess =>
      split
      next same =>
        have differs : ∀ other ∈ entries, other.1 ≠ entry.1 := fun other later =>
          same ▸ (String.ne_of_lt (least other later)).symm
        have gone : other.1 ≠ entry.1 → other ≠ first := fun differ isFirst =>
          differ (by rw [isFirst, same])
        rw [List.mem_cons, List.mem_cons]
        grind
      next differs =>
        rw [List.mem_cons, List.mem_cons, ih rest]
        grind

theorem mem_insert_iff :
    other ∈ (map.insert entry).entries ↔ other = entry ∨ other.1 ≠ entry.1 ∧ other ∈ map.entries :=
  mem_insertEntry_iff map.ascending

/-- **A map keeps the last entry for each key.** -/
theorem mem_ofEntries_iff :
    entry ∈ (ofEntries entries).entries ↔ LastGiven Prod.fst entries entry := by
  induction entries using List.reverseRecOn with
  | nil => simp [ofEntries, empty, not_lastGiven_nil]
  | append_singleton entries new ih =>
    rw [lastGiven_concat_iff, ← ih, ofEntries, List.foldl_append]
    exact mem_insert_iff

/-- Maps with the same entries are equal, as their keys ascend. -/
theorem eq_of_mem_iff (same : ∀ entry, entry ∈ map.entries ↔ entry ∈ otherMap.entries) :
    map = otherMap := by
  have nodup : ∀ map : DeclarationMap, map.entries.Nodup := fun map =>
    map.ascending.imp fun less isSame => String.ne_of_lt less (congrArg Prod.fst isSame)
  have perm : map.entries.Perm otherMap.entries :=
    (List.perm_ext_iff_of_nodup (nodup map) (nodup otherMap)).mpr same
  have equal : map.entries = otherMap.entries :=
    perm.eq_of_pairwise (fun _ _ _ _ less greater => absurd greater (String.lt_asymm less))
      map.ascending otherMap.ascending
  cases map
  cases otherMap
  cases equal
  rfl

/-- **The map of some entries depends on the last one for each key only.** -/
theorem ofEntries_eq_of_lastGiven
    (same : ∀ entry, LastGiven Prod.fst others entry ↔ LastGiven Prod.fst entries entry) :
    ofEntries others = ofEntries entries :=
  eq_of_mem_iff fun entry => by rw [mem_ofEntries_iff, mem_ofEntries_iff, same]

end DeclarationMap

/-! ### Texts of entries -/

theorem Json.Value.fieldsToSyntax_eq_map (fields : List (String × Value)) :
    Value.fieldsToSyntax fields = fields.map fun field => (some field.1, field.2.toSyntax) := by
  induction fields with
  | nil => rfl
  | cons field fields ih => rw [Value.fieldsToSyntax, ih, List.map_cons]

/-- A written value that may be `null` is decoded, if only its absence is written as `null`. -/
theorem Json.Decoder.nullable_ofOption {α : Type} {value : Decoder α} {write : α → Value} {levels : Nat}
    (reads : ∀ a, value levels (write a).toSyntax = some a)
    (present : ∀ a, (write a).toSyntax ≠ .null) (given : Option α) :
    Decoder.nullable value levels (Value.ofOption (given.map write)).toSyntax = some given := by
  cases given with
  | none => rfl
  | some a =>
    rw [Option.map_some, Value.ofOption, Option.getD_some, Decoder.nullable, reads]
    · rfl
    · exact present a

namespace ForeignDeclaration

open Json.Decoder (Given)

/-- A declaration as a value. -/
def toJson (declaration : ForeignDeclaration) : Value :=
  .object [("Name", .string declaration.name), ("Type", .string declaration.kind),
    ("Code", .string declaration.code),
    ("Calls", .ofOption (declaration.calls.map fun calls => .array (calls.map .string))),
    ("Position", .ofOption (declaration.position.map .string))]

/-- A written declaration is decoded, given levels for the declaration and the list of its calls. -/
theorem decoder_toJson (declaration : ForeignDeclaration) (levels : Nat) :
    decoder (levels + 3) declaration.toJson.toSyntax = some declaration := by
  obtain ⟨name, kind, code, calls, position⟩ := declaration
  have given : Decoder.given ["Name", "Type", "Code", "Calls", "Position"] (levels + 3)
      (toJson ⟨name, kind, code, calls, position⟩).toSyntax =
        some ⟨false, levels + 2, [some (.string name), some (.string kind), some (.string code),
          some (Value.ofOption (calls.map fun calls => .array (calls.map .string))).toSyntax,
          some (Value.ofOption (position.map .string)).toSyntax]⟩ := rfl
  have list : Decoder.nullable (Decoder.list Decoder.string) (levels + 2)
      (Value.ofOption (calls.map fun calls => .array (calls.map .string))).toSyntax = some calls :=
    Decoder.nullable_ofOption (Decoder.list_map (fun _ => rfl) (Nat.succ_pos levels))
      (by simp [Value.toSyntax]) calls
  have place : Decoder.nullable Decoder.string (levels + 2)
      (Value.ofOption (position.map .string)).toSyntax = some position :=
    Decoder.nullable_ofOption (fun _ => rfl) (by simp [Value.toSyntax]) position
  unfold decoder
  rw [given]
  simp [Given.required, Given.omissible, Given.defaulted, Given.slot, Decoder.string, list, place]

end ForeignDeclaration

namespace DeclarationMap

/-- The entries of the object in a text, in their order and with repetitions. -/
def entriesIn? (text : String) : Option (List (String × ForeignDeclaration)) :=
  Json.decodeText (Decoder.fields ForeignDeclaration.decoder) (Text.trim text)

/-- The map in a text is that of the entries in it. -/
theorem ofText?_eq (text : String) : ofText? text = (entriesIn? text).map ofEntries := by
  unfold ofText? entriesIn? Json.decodeText
  cases Syntax.ofText? (Text.trim text) <;> rfl

/-- A text of some entries. -/
def textOf (entries : List (String × ForeignDeclaration)) : String :=
  (Value.object (entries.map fun entry => (entry.1, entry.2.toJson))).compact

/-- There are no blanks at its ends. -/
theorem trim_textOf (entries : List (String × ForeignDeclaration)) :
    Text.trim (textOf entries) = textOf entries := by
  unfold textOf
  generalize entries.map _ = fields
  have chars : (Value.object fields).compact.toList =
      '\x7b' :: ((Value.compactFields fields).toList ++ ['\x7d']) := by simp [Value.compact]
  have trimmed : Key.Trimmed (Value.object fields).compact.toList := by
    rw [chars]
    exact ⟨List.cons_ne_nil _ _, rfl, by simp; rfl⟩
  have same := Key.trimChars_append [] trimmed
  rw [Text.trim, ← String.toList_inj]
  simpa using same

/-- **Any entries are those of some text.** -/
theorem entriesIn?_textOf (entries : List (String × ForeignDeclaration)) :
    entriesIn? (textOf entries) = some entries := by
  have each : ((entries.map fun entry => (some entry.1, entry.2.toJson.toSyntax)).mapM fun field =>
      field.1.bind fun name => (ForeignDeclaration.decoder 127 field.2).map fun value =>
        (name, value)) = some (entries.map id) :=
    mapM_map_eq_some (fun entry => by simp [ForeignDeclaration.decoder_toJson _ 124]) entries
  rw [List.map_id] at each
  rw [entriesIn?, trim_textOf, Json.decodeText, textOf, Json.ofText?_compact, Option.bind_some,
    Value.toSyntax, Json.Value.fieldsToSyntax_eq_map, List.map_map]
  exact each

/-! ### Graphs of entries -/

/-- **Entries give a graph**: some text has them, and the map in every text that has them has this
graph. -/
structure Yields (entries : List (String × ForeignDeclaration)) (graph : Graph) : Prop where
  written : ∃ text, entriesIn? text = some entries
  reads : ∀ text, entriesIn? text = some entries →
    (ofText? text).map DeclarationMap.graph = some graph

theorem yields_of_ofEntries {graph : Graph} (same : (ofEntries entries).graph = graph) :
    Yields entries graph where
  written := ⟨_, entriesIn?_textOf entries⟩
  reads text isIn := by
    rw [ofText?_eq, isIn, ← same]
    rfl

/-- **The graph of some entries depends on the last one for each key only.** So entries for different
keys may change places, and an entry that has another one for its key behind it may be left out. The
nodes stand in the order of the bytes of the keys, as the object spells them. -/
theorem graph_of_last_entries (entries : List (String × ForeignDeclaration)) :
    Yields entries (ofEntries entries).graph ∧
      (∃ kept : List (String × ForeignDeclaration),
        (∀ entry, entry ∈ kept ↔ LastGiven Prod.fst entries entry) ∧
          (kept.Pairwise fun first second =>
            Text.Utf8.encode first.1 < Text.Utf8.encode second.1) ∧
          List.Forall₂ EmittedAs (kept.filter isKnown) (ofEntries entries).graph.nodes) ∧
      (∀ others, (∀ entry, LastGiven Prod.fst others entry ↔ LastGiven Prod.fst entries entry) →
        Yields others (ofEntries entries).graph) ∧
      (∀ others, (∀ key, (others.filter fun entry => entry.1 == key) =
          entries.filter fun entry => entry.1 == key) →
        Yields others (ofEntries entries).graph) ∧
      ∀ before entry after, entries = before ++ entry :: after →
        (∃ later ∈ after, later.1 = entry.1) →
          Yields (before ++ after) (ofEntries entries).graph := by
  have depends : ∀ others,
      (∀ entry, LastGiven Prod.fst others entry ↔ LastGiven Prod.fst entries entry) →
        Yields others (ofEntries entries).graph := fun others same =>
    yields_of_ofEntries (by rw [ofEntries_eq_of_lastGiven same])
  refine ⟨yields_of_ofEntries rfl, ?_, depends, ?_, ?_⟩
  · exact ⟨(ofEntries entries).entries, fun _ => mem_ofEntries_iff,
      (ofEntries entries).ascending.imp Text.Utf8.encode_lt_encode_iff.mpr, forall₂_nodes _⟩
  · intro others same
    exact depends others fun entry => by rw [lastGiven_iff_getLast?, lastGiven_iff_getLast?, same]
  · rintro before entry after rfl hidden
    exact depends _ fun _ => (lastGiven_without hidden).symm

/-- A function that calls nothing. -/
def idle : String × ForeignDeclaration := ("f", ⟨"f", "func", "func f() {}", none, none⟩)

/-- A declared type, a method whose receiver stands in braces, and a function that calls it. -/
def calling : List (String × ForeignDeclaration) :=
  [("T", ⟨"T", "type", "T struct{}", none, none⟩),
    ("&\x7b1 T\x7d.m", ⟨"m", "method", "func (t *T) m() {}", none, none⟩),
    ("f", ⟨"f", "func", "func f() {}", some ["&\x7b1 T\x7d.m"], none⟩)]

/-- The function counts as it is given last, wherever the type and the method stand. The node of the
method comes first, as its key does in the object. -/
theorem graph_of_calling :
    (∃ later ∈ calling, later.1 = idle.1) ∧
      Yields calling (ofEntries (idle :: calling)).graph ∧
      Yields calling.reverse (ofEntries calling).graph ∧
      (ofEntries calling).graph.nodes.map Node.key = ["T.m", "T", "f"] ∧
      (ofEntries calling).graph.links = [⟨"T", "T.m", .containment⟩, ⟨"f", "T.m", .call⟩] := by
  have hidden : ∃ later ∈ calling, later.1 = idle.1 := by decide
  have same : ∀ key, (calling.reverse.filter fun entry => entry.1 == key) =
      calling.filter fun entry => entry.1 == key := by
    intro key
    by_cases isType : key = "T"
    · subst isType
      decide
    · by_cases isMethod : key = "&\x7b1 T\x7d.m"
      · subst isMethod
        decide
      · simp [calling, List.filter_cons, Ne.symm isType, Ne.symm isMethod]
  obtain ⟨_, _, _, _, shorter⟩ := graph_of_last_entries (idle :: calling)
  obtain ⟨_, _, _, reordered, _⟩ := graph_of_last_entries calling
  exact ⟨hidden, shorter [] idle calling rfl hidden, reordered _ same, by decide +kernel,
    by decide +kernel⟩

end DeclarationMap

end DeclGraph
