/-
**File trees as JSON.**

An entry has its name, its path, its kind under `type` and, where it has them, its children.

* `Entry.toJson`, `Entry.decoder`: writing and reading an entry.
-/

import DeclGraph.Json.Decode
import DeclGraph.Tree.Entry

namespace DeclGraph.Entry

open Json (Decoder Value)

mutual

/-- An entry as a value. -/
def toJson : Entry → Value
  | mk name path kind none =>
    .object [("name", .string name), ("path", .string path.text), ("type", .string kind.tag)]
  | mk name path kind (some children) =>
    .object [("name", .string name), ("path", .string path.text), ("type", .string kind.tag),
      ("children", .array (allToJson children))]

/-- Several entries as values. -/
def allToJson : List Entry → List Value
  | [] => []
  | entry :: entries => entry.toJson :: allToJson entries

end

/-- A decoder of entries whose children are at most so many levels deep. -/
def decoderWithin : Nat → Decoder Entry
  | 0 => fun _ _ => none
  | depth + 1 => fun levels text => do
    let record ← Decoder.given ["name", "path", "type", "children"] levels text
    let name ← record.required 0 Decoder.string
    let path ← record.required 1 Decoder.string
    let kind ← record.required 2 (Decoder.choice EntryKind.ofTag?)
    let children ← record.omissible 3 (Decoder.list (decoderWithin depth))
    return mk name ⟨path⟩ kind children

/-- A decoder of entries. An entry takes up a level of nesting, so the levels bound its depth. -/
def decoder : Decoder Entry := fun levels text => decoderWithin levels levels text

end DeclGraph.Entry
