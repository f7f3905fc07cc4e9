/-
**Graphs as JSON.**

The data form of a graph: its nodes and links with all their fields, kinds by their tags.

* `Graph.toJson`, `Graph.decoder`: writing and reading a graph.
-/

import DeclGraph.Graph
import DeclGraph.Json.Decode

namespace DeclGraph

open Json (Decoder Value)

namespace Node

def toJson (node : Node) : Value :=
  .object [("key", .string node.key), ("name", .string node.name),
    ("kind", .string node.kind.tag), ("source_text", .string node.sourceText)]

def decoder : Decoder Node := fun levels text => do
  let record ← Decoder.given ["key", "name", "kind", "source_text"] levels text
  return { key := ← record.required 0 Decoder.string
           name := ← record.required 1 Decoder.string
           kind := ← record.required 2 (Decoder.choice NodeKind.ofTag?)
           sourceText := ← record.required 3 Decoder.string }

end Node

namespace Link

def toJson (link : Link) : Value :=
  .object [("from", .string link.source), ("to", .string link.target),
    ("kind", .string link.kind.tag)]

def decoder : Decoder Link := fun levels text => do
  let record ← Decoder.given ["from", "to", "kind"] levels text
  return { source := ← record.required 0 Decoder.string
           target := ← record.required 1 Decoder.string
           kind := ← record.required 2 (Decoder.choice LinkKind.ofTag?) }

end Link

namespace Graph

def toJson (graph : Graph) : Value :=
  .object [("nodes", .array (graph.nodes.map Node.toJson)),
    ("links", .array (graph.links.map Link.toJson))]

def decoder : Decoder Graph := fun levels text => do
  let record ← Decoder.given ["nodes", "links"] levels text
  return { nodes := ← record.required 0 (Decoder.list Node.decoder)
           links := ← record.required 1 (Decoder.list Link.decoder) }

end Graph

end DeclGraph
