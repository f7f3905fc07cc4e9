/-
**Diagrams read back.**

A diagram holds all that there is in its graph, colours and categories being told by the kinds. Its
text, on one line or indented, is read back as the diagram. So the text determines the graph.

* `decoder_toJson`: a written diagram is decoded;
* `Diagram.toGraph`: the graph of a diagram;
* **`render_reads_back`**: the text of a graph is read back as its diagram, and determines the graph.
-/

import DeclGraph.Diagram.Json
import DeclGraph.Proofs.Json.RoundTrip
import DeclGraph.Proofs.Lists

namespace DeclGraph

open Json (Decoder Syntax Value)

/-! ### Decoding what was written -/

theorem Json.Value.itemsToSyntax_eq_map (items : List Value) :
    Value.itemsToSyntax items = items.map Value.toSyntax := by
  induction items with
  | nil => rfl
  | cons item items ih => rw [Value.itemsToSyntax, ih, List.map_cons]

/-- Written elements are decoded one by one. -/
theorem Json.Decoder.list_map {α : Type} {item : Decoder α} {write : α → Value} {levels : Nat}
    (reads : ∀ a, item levels (write a).toSyntax = some a) (deep : 0 < levels) (elements : List α) :
    Decoder.list item (levels + 1) (Value.array (elements.map write)).toSyntax = some elements := by
  have entered : Decoder.enter (levels + 1) = some levels := by
    rw [Decoder.enter, if_neg (by omega), Nat.add_sub_cancel]
  have each := mapM_map_eq_some reads elements
  rw [List.map_id'] at each
  rw [Value.toSyntax, Value.itemsToSyntax_eq_map, List.map_map, Decoder.list, entered]
  exact each

namespace Diagram

open Json.Decoder (Given)

/-- Each field of a written box is found under its name. -/
theorem Box.given_toJson (box : Box) (levels : Nat) :
    Decoder.given ["key", "name", "kind", "color", "source"] (levels + 2) box.toJson.toSyntax =
      some ⟨false, levels + 1, [some (.string box.key), some (.string box.name),
        some (.string box.kind.tag), some (.string box.color), some (.string box.source)]⟩ := rfl

theorem Box.decoder_toJson (box : Box) (levels : Nat) :
    Box.decoder (levels + 2) box.toJson.toSyntax = some box := by
  unfold Box.decoder
  simp [Box.given_toJson, Given.required, Given.slot, Decoder.string, Decoder.choice,
    NodeKind.ofTag?_tag]

/-- Each field of a written arrow is found under its name, the category if there is one. -/
theorem Arrow.given_toJson (arrow : Arrow) (levels : Nat) :
    Decoder.given ["from", "to", "kind", "category", "color"] (levels + 2) arrow.toJson.toSyntax =
      some ⟨false, levels + 1, [some (.string arrow.source), some (.string arrow.target),
        some (.string arrow.kind.tag), arrow.category.map fun category => .string category,
        some (.string arrow.color)]⟩ := by
  obtain ⟨source, target, kind, category, color⟩ := arrow
  cases category <;> rfl

theorem Arrow.decoder_toJson (arrow : Arrow) (levels : Nat) :
    Arrow.decoder (levels + 2) arrow.toJson.toSyntax = some arrow := by
  obtain ⟨source, target, kind, category, color⟩ := arrow
  unfold Arrow.decoder
  cases category <;>
    simp [Arrow.given_toJson, Given.required, Given.omissible, Given.defaulted, Given.slot,
      Decoder.nullable, Decoder.string, Decoder.choice, LinkKind.ofTag?_tag]

theorem given_toJson (diagram : Diagram) (levels : Nat) :
    Decoder.given ["nodeDataArray", "linkDataArray"] (levels + 2) diagram.toJson.toSyntax =
      some ⟨false, levels + 1, [some (Value.array (diagram.boxes.map Box.toJson)).toSyntax,
        some (Value.array (diagram.arrows.map Arrow.toJson)).toSyntax]⟩ := rfl

/-- A written diagram is decoded, given levels for the diagram, its lists and their elements. -/
theorem decoder_toJson (diagram : Diagram) (levels : Nat) :
    decoder (levels + 4) diagram.toJson.toSyntax = some diagram := by
  have boxes := Decoder.list_map (fun box => Box.decoder_toJson box levels) (by omega) diagram.boxes
  have arrows :=
    Decoder.list_map (fun arrow => Arrow.decoder_toJson arrow levels) (by omega) diagram.arrows
  unfold decoder
  simp [given_toJson, Given.required, Given.slot, boxes, arrows]

/-! ### Diagrams and graphs -/

/-- The node that a box stands for. -/
def Box.toNode (box : Box) : Node := ⟨box.key, box.name, box.kind, box.source⟩

/-- The link that an arrow stands for. -/
def Arrow.toLink (arrow : Arrow) : Link := ⟨arrow.source, arrow.target, arrow.kind⟩

/-- The graph that a diagram shows. -/
def toGraph (diagram : Diagram) : Graph :=
  ⟨diagram.boxes.map Box.toNode, diagram.arrows.map Arrow.toLink⟩

theorem toGraph_ofGraph (graph : Graph) : (ofGraph graph).toGraph = graph := by
  simp [toGraph, ofGraph, Box.toNode, Box.ofNode, Arrow.toLink, Arrow.ofLink, Function.comp_def]

/-- A rendered graph is JSON text of its diagram, on one line or indented. -/
theorem ofText?_render (indented : Bool) (graph : Graph) :
    Syntax.ofText? (render indented graph) = some (ofGraph graph).toJson.toSyntax := by
  cases indented with
  | false => exact Json.ofText?_compact _
  | true => exact Json.ofText?_pretty _

/-- **The text of a graph is read back.** On one line or indented, it denotes one value, which is
decoded as the diagram of the graph; the graph can be told from the diagram, and so no two graphs
have the same text. -/
theorem render_reads_back (graph : Graph) :
    (∀ indented, Json.decodeText decoder (render indented graph) = some (ofGraph graph)) ∧
      (ofGraph graph).toGraph = graph ∧
      Syntax.ofText? (render false graph) = Syntax.ofText? (render true graph) ∧
      ∀ indented otherIndented other,
        render indented graph = render otherIndented other → graph = other := by
  have reads : ∀ indented graph,
      Json.decodeText decoder (render indented graph) = some (ofGraph graph) := by
    intro indented graph
    rw [Json.decodeText, ofText?_render]
    exact decoder_toJson _ _
  refine ⟨fun indented => reads indented graph, toGraph_ofGraph graph, ?_, ?_⟩
  · rw [ofText?_render, ofText?_render]
  · intro indented otherIndented other same
    have sameDiagram : ofGraph graph = ofGraph other := by
      have read := reads indented graph
      rw [same, reads] at read
      exact (Option.some.inj read).symm
    rw [← toGraph_ofGraph graph, sameDiagram, toGraph_ofGraph]

end Diagram

end DeclGraph
