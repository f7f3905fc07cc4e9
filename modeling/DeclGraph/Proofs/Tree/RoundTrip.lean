/-
**Entries read back.**

An entry is written with everything that there is in it, and its children only where it has a list of
them; so the text of an entry tells no children from an empty list of them, at every level. It is read
back if its arrays and objects are nested no deeper than a reader goes, and refused otherwise.

* `Json.Value.nesting`: how deep the arrays and objects of a value are nested;
* `Entry.mapM_decoder`: entries are decoded one by one, if none of them is nested too deep;
* **`Entry.decoder_toJson`**: a written entry is decoded, given more levels than it has;
* `Entry.toSyntax_injective`: different entries have different texts, however deep they are nested;
* **`Entry.reads_back`**: the text of an entry is read back as the entry.
-/

import DeclGraph.Proofs.Json.RoundTrip
import DeclGraph.Tree.Json

namespace DeclGraph

open Json (Decoder Syntax Value)

/-! ### Levels of nesting -/

namespace Json.Value

mutual

/-- How deep the arrays and objects of a value are nested. -/
def nesting : Value → Nat
  | array items => nestingOfItems items + 1
  | object fields => nestingOfFields fields + 1
  | _ => 0

/-- How deep arrays and objects are nested in some elements. -/
def nestingOfItems : List Value → Nat
  | [] => 0
  | item :: items => max item.nesting (nestingOfItems items)

/-- How deep arrays and objects are nested in some fields. -/
def nestingOfFields : List (String × Value) → Nat
  | [] => 0
  | (_, value) :: fields => max value.nesting (nestingOfFields fields)

end

end Json.Value

namespace Entry

open Json.Decoder (Given)

variable {name : String} {path : Path} {kind : EntryKind} {levels : Nat}

theorem nesting_file : (mk name path kind none).toJson.nesting = 1 := by
  simp [toJson, Value.nesting, Value.nestingOfFields]

theorem nesting_directory (children : List Entry) :
    (mk name path kind (some children)).toJson.nesting =
      Value.nestingOfItems (allToJson children) + 2 := by
  simp [toJson, Value.nesting, Value.nestingOfFields]

theorem one_le_nesting (entry : Entry) : 1 ≤ entry.toJson.nesting := by
  obtain ⟨name, path, kind, _ | children⟩ := entry
  · exact Nat.le_of_eq nesting_file.symm
  · rw [nesting_directory]
    omega

/-! ### Decoding what was written -/

/-- Each field of an entry without children is found under its name. -/
theorem given_file (name : String) (path : Path) (kind : EntryKind) (levels : Nat) :
    Decoder.given ["name", "path", "type", "children"] (levels + 2)
        (mk name path kind none).toJson.toSyntax =
      some ⟨false, levels + 1, [some (.string name), some (.string path.text),
        some (.string kind.tag), none]⟩ := rfl

/-- Each field of an entry with children is found under its name. -/
theorem given_directory (name : String) (path : Path) (kind : EntryKind) (children : List Entry)
    (levels : Nat) :
    Decoder.given ["name", "path", "type", "children"] (levels + 2)
        (mk name path kind (some children)).toJson.toSyntax =
      some ⟨false, levels + 1, [some (.string name), some (.string path.text),
        some (.string kind.tag), some (Value.array (allToJson children)).toSyntax]⟩ := rfl

/-- An entry is an object, which may not be entered at the last level. -/
theorem decoderWithin_last {depth : Nat} (last : levels ≤ 1) (entry : Entry) :
    decoderWithin depth levels entry.toJson.toSyntax = none := by
  obtain ⟨name, path, kind, children⟩ := entry
  cases depth with
  | zero => rfl
  | succ depth =>
    have entered : Decoder.enter levels = none := if_pos last
    cases children <;> simp [decoderWithin, toJson, Value.toSyntax, Decoder.given, entered]

/-- Entries are decoded one by one, if none of them is nested too deep. -/
theorem mapM_decoder {item : Syntax → Option Entry} (positive : 0 < levels)
    (reads : ∀ entry : Entry, item entry.toJson.toSyntax =
      if entry.toJson.nesting < levels then some entry else none) (entries : List Entry) :
    (Value.itemsToSyntax (allToJson entries)).mapM item =
      if Value.nestingOfItems (allToJson entries) < levels then some entries else none := by
  induction entries with
  | nil => simp [allToJson, Value.itemsToSyntax, Value.nestingOfItems, positive]
  | cons entry entries ih =>
    rw [allToJson, Value.itemsToSyntax, List.mapM_cons, reads, ih, Value.nestingOfItems]
    simp only [Nat.max_lt]
    by_cases first : entry.toJson.nesting < levels <;>
      by_cases others : Value.nestingOfItems (allToJson entries) < levels <;>
      simp [first, others]

/-- A list of entries that may be left out is decoded, if none of them is nested too deep. -/
theorem nullable_list {item : Decoder Entry} (reads : ∀ entry : Entry, item levels
      entry.toJson.toSyntax = if entry.toJson.nesting < levels then some entry else none)
    (entries : List Entry) :
    Decoder.nullable (Decoder.list item) (levels + 1) (Value.array (allToJson entries)).toSyntax =
      if Value.nestingOfItems (allToJson entries) < levels then some (some entries) else none := by
  rw [Value.toSyntax, Decoder.nullable, Decoder.list, Decoder.enter]
  · rcases Nat.eq_zero_or_pos levels with rfl | positive
    · rfl
    · rw [if_neg (by omega), Option.bind_some, Nat.add_sub_cancel, mapM_decoder positive reads]
      split <;> rfl
  · exact nofun

/-- **A written entry is decoded, given more levels than it has.** An entry takes up a level, and so
does the list of its children. -/
theorem decoderWithin_toJson {depth : Nat} (enough : levels ≤ depth) (entry : Entry) :
    decoderWithin depth levels entry.toJson.toSyntax =
      if entry.toJson.nesting < levels then some entry else none := by
  induction depth generalizing levels entry with
  | zero =>
    obtain rfl := Nat.le_zero.mp enough
    rfl
  | succ depth ih =>
    rcases Nat.lt_or_ge 1 levels with more | last
    · obtain ⟨inside, rfl⟩ : ∃ inside, levels = inside + 2 := ⟨levels - 2, by omega⟩
      obtain ⟨name, path, kind, children⟩ := entry
      unfold decoderWithin
      cases children with
      | none =>
        rw [nesting_file, if_pos (by omega)]
        simp [given_file, Given.required, Given.omissible, Given.defaulted, Given.slot,
          Decoder.string, Decoder.choice, EntryKind.ofTag?_tag]
      | some children =>
        have below : inside ≤ depth := by omega
        have list := nullable_list (ih below) children
        rw [nesting_directory]
        by_cases fits : Value.nestingOfItems (allToJson children) < inside <;>
          simp [given_directory, Given.required, Given.omissible, Given.defaulted, Given.slot,
            Decoder.string, Decoder.choice, EntryKind.ofTag?_tag, list, fits]
    · rw [decoderWithin_last last, if_neg]
      have deep := one_le_nesting entry
      omega

/-- A written entry is decoded exactly if it keeps to the levels. -/
theorem decoder_toJson (entry : Entry) (levels : Nat) :
    decoder levels entry.toJson.toSyntax =
      if entry.toJson.nesting < levels then some entry else none :=
  decoderWithin_toJson (Nat.le_refl levels) entry

/-- **Different entries are written differently**, however deep they are nested. -/
theorem toSyntax_injective {entry other : Entry}
    (same : entry.toJson.toSyntax = other.toJson.toSyntax) : entry = other := by
  have first := decoder_toJson entry (entry.toJson.nesting + other.toJson.nesting + 1)
  have second := decoder_toJson other (entry.toJson.nesting + other.toJson.nesting + 1)
  rw [if_pos (by omega)] at first second
  rw [same, second] at first
  exact (Option.some.inj first).symm

/-! ### Texts of entries -/

/-- The entry at the end of a way down, which tells at each step the number of the child. -/
def below? : List Nat → Entry → Option Entry
  | [], entry => some entry
  | number :: way, entry => (entry.children.getD [])[number]?.bind (below? way)

/-- The texts of an entry, on one line and indented. -/
def texts (entry : Entry) : List String := [entry.toJson.compact, entry.toJson.pretty]

theorem ofText?_texts {entry : Entry} {text : String} (isText : text ∈ entry.texts) :
    Syntax.ofText? text = some entry.toJson.toSyntax := by
  rw [texts, List.mem_cons, List.mem_singleton] at isText
  rcases isText with rfl | rfl
  · exact Json.ofText?_compact _
  · exact Json.ofText?_pretty _

/-- **The text of an entry is read back.** On one line or indented, it is decoded as the entry if its
arrays and objects keep to the levels that a text may use, and refused otherwise. What is read has the
same files, and at every level it has children or an empty list of children or none at all where the
entry has them; and no two entries have the same text. -/
theorem reads_back (entry : Entry) :
    (∀ text ∈ entry.texts, Json.decodeText decoder text =
      if entry.toJson.nesting < Json.nestingLimit then some entry else none) ∧
    (∀ text ∈ entry.texts, ∀ read, Json.decodeText decoder text = some read →
      read.files = entry.files ∧
        ∀ way, (read.below? way).map children = (entry.below? way).map children) ∧
    ∀ other : Entry, ∀ text ∈ entry.texts, text ∈ other.texts → entry = other := by
  have reads : ∀ text ∈ entry.texts, Json.decodeText decoder text =
      if entry.toJson.nesting < Json.nestingLimit then some entry else none := by
    intro text isText
    rw [Json.decodeText, ofText?_texts isText]
    exact decoder_toJson entry Json.nestingLimit
  refine ⟨reads, ?_, ?_⟩
  · intro text isText read decoded
    rw [reads text isText] at decoded
    obtain ⟨_, rfl⟩ : entry.toJson.nesting < Json.nestingLimit ∧ entry = read := by
      simpa using decoded
    exact ⟨rfl, fun _ => rfl⟩
  · intro other text isText isOther
    have same := (ofText?_texts isText).symm.trans (ofText?_texts isOther)
    exact toSyntax_injective (Option.some.inj same)

end Entry

end DeclGraph
