/-
**Reading declaration maps.**

An external parser writes its map as one JSON object, with blanks around it.

* `DeclarationMap.ofText?`: the map in a text.
-/

import DeclGraph.DeclarationMap.Basic
import DeclGraph.Json.Decode

namespace DeclGraph

open Json (Decoder)

/-- Reads one declaration. -/
def ForeignDeclaration.decoder : Decoder ForeignDeclaration := fun levels text => do
  let record ← Decoder.given ["Name", "Type", "Code", "Calls", "Position"] levels text
  return { name := ← record.required 0 Decoder.string
           kind := ← record.required 1 Decoder.string
           code := ← record.defaulted 2 Decoder.string ""
           calls := ← record.omissible 3 (Decoder.list Decoder.string)
           position := ← record.omissible 4 Decoder.string }

namespace DeclarationMap

/-- Reads a map. -/
def decoder : Decoder DeclarationMap := fun levels text =>
  (Decoder.fields ForeignDeclaration.decoder levels text).map ofEntries

/-- The map in a text. -/
def ofText? (text : String) : Option DeclarationMap := Json.decodeText decoder (Text.trim text)

end DeclarationMap

end DeclGraph
