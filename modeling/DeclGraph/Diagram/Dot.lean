/-
**Diagrams as DOT documents.**

A document for offline viewing: fixed lines in front, one line for each node, an empty line, one
line for each link and the closing brace. Keys and names stand between quotation marks with
backslashes, quotation marks and line feeds escaped, so each of them stays within its line and its
marks.

* `Dot.document`: the document of a graph.
-/

import DeclGraph.Diagram.Basic

namespace DeclGraph.Dot

/-- How a character is written between quotation marks. -/
def escapeChar (c : Char) : List Char :=
  if c = '\\' then ['\\', '\\']
  else if c = '"' then ['\\', '"']
  else if c = '\n' then ['\\', 'n']
  else [c]

/-- A text between quotation marks. -/
def quoted (text : String) : String :=
  "\"" ++ String.ofList (text.toList.flatMap escapeChar) ++ "\""

/-- The outline of a node. -/
def shape : NodeKind → String
  | .type => "box"
  | .member | .function => "ellipse"
  | .importing => "note"

/-- How a link is drawn. -/
def style (kind : LinkKind) : String := if kind.isDashed then "dashed" else "solid"

/-- The line of a node. -/
def nodeLine (node : Node) : String :=
  "    " ++ quoted node.key ++ " [label=" ++ quoted node.name ++ ", shape=" ++ shape node.kind ++
    ", fillcolor=\"" ++ node.kind.color ++ "\"];"

/-- The line of a link. -/
def linkLine (link : Link) : String :=
  "    " ++ quoted link.source ++ " -> " ++ quoted link.target ++ " [color=\"" ++ link.kind.color ++
    "\", style=" ++ style link.kind ++ "];"

/-- The lines in front of the nodes. -/
def header : List String :=
  ["digraph CodeGraph \x7b",
    "    rankdir=LR;",
    "    node [fontname=\"Helvetica\", fontsize=12, style=filled];",
    "    edge [fontname=\"Helvetica\", fontsize=10];",
    ""]

/-- The lines of a graph's document. -/
def documentLines (graph : Graph) : List String :=
  header ++ graph.nodes.map nodeLine ++ [""] ++ graph.links.map linkLine ++ ["\x7d"]

/-- The document of a graph. -/
def document (graph : Graph) : String := "\n".intercalate (documentLines graph)

end DeclGraph.Dot
