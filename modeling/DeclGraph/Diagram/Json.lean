/-
**Diagrams as JSON.**

The form in which the diagram client takes a diagram. The category of a link is left out where
there is none, and may be read as `null`.

* `Diagram.toJson`, `Diagram.decoder`: writing and reading a diagram;
* `Diagram.render`: the text of a graph's diagram, on one line or indented.
-/

import DeclGraph.Diagram.Basic
import DeclGraph.Json.Decode

namespace DeclGraph.Diagram

open Json (Decoder Value)

namespace Box

def toJson (box : Box) : Value :=
  .object [("key", .string box.key), ("name", .string box.name), ("kind", .string box.kind.tag),
    ("color", .string box.color), ("source", .string box.source)]

def decoder : Decoder Box := fun levels text => do
  let record ← Decoder.given ["key", "name", "kind", "color", "source"] levels text
  return { key := ← record.required 0 Decoder.string
           name := ← record.required 1 Decoder.string
           kind := ← record.required 2 (Decoder.choice NodeKind.ofTag?)
           color := ← record.required 3 Decoder.string
           source := ← record.required 4 Decoder.string }

end Box

namespace Arrow

/-- The field of the category, if there is one. -/
def categoryField : Option String → List (String × Value)
  | some category => [("category", .string category)]
  | none => []

def toJson (arrow : Arrow) : Value :=
  .object ([("from", .string arrow.source), ("to", .string arrow.target),
    ("kind", .string arrow.kind.tag)] ++ categoryField arrow.category ++
    [("color", .string arrow.color)])

def decoder : Decoder Arrow := fun levels text => do
  let record ← Decoder.given ["from", "to", "kind", "category", "color"] levels text
  return { source := ← record.required 0 Decoder.string
           target := ← record.required 1 Decoder.string
           kind := ← record.required 2 (Decoder.choice LinkKind.ofTag?)
           category := ← record.omissible 3 Decoder.string
           color := ← record.required 4 Decoder.string }

end Arrow

def toJson (diagram : Diagram) : Value :=
  .object [("nodeDataArray", .array (diagram.boxes.map Box.toJson)),
    ("linkDataArray", .array (diagram.arrows.map Arrow.toJson))]

def decoder : Decoder Diagram := fun levels text => do
  let record ← Decoder.given ["nodeDataArray", "linkDataArray"] levels text
  return { boxes := ← record.required 0 (Decoder.list Box.decoder)
           arrows := ← record.required 1 (Decoder.list Arrow.decoder) }

/-- The diagram of a graph as text, over several lines if `indented`. -/
def render (indented : Bool) (graph : Graph) : String :=
  let value := (ofGraph graph).toJson
  if indented then value.pretty else value.compact

end DeclGraph.Diagram
