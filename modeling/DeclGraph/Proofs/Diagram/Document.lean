/-
**DOT documents read back.**

A document has one line for each node and one for each link between its fixed lines, and every text
in it stands between quotation marks of its own, whatever characters it holds. So a reader that goes
by the quotation marks alone finds all that the document shows: keys, names and kinds of the nodes,
and the links. Two documents are the same exactly if they show the same.

* `unquote?`: a text up to its closing quotation mark;
* `Outline`: what a document shows of a node;
* `readNode?`, `readLink?`, `readDocument?`: the reader, line by line;
* `splitOn_document`: the lines of a document;
* **`document_reads_back`**: a document is read back, and it determines what it shows.
-/

import DeclGraph.Diagram.Dot
import DeclGraph.Proofs.Diagram.RoundTrip
import Mathlib.Data.List.Basic

namespace DeclGraph.Dot

/-! ### Quoted texts -/

/-- A text with one character replaced wherever it stands. -/
def replaced (c : Char) (replacement text : List Char) : List Char :=
  text.flatMap fun other => if other = c then replacement else [other]

/-- Escaping is the same as three replacements, one after the other. The backslash comes first:
those that the other two put in must stay single. -/
theorem flatMap_escapeChar_eq_replaced (text : List Char) :
    text.flatMap escapeChar = replaced '\n' ['\\', 'n'] (replaced '"' ['\\', '"']
      (replaced '\\' ['\\', '\\'] text)) := by
  unfold replaced
  simp only [List.flatMap_assoc]
  congr 1
  funext c
  unfold escapeChar
  split_ifs with backslash quote feed
  · rfl
  · subst quote
    rfl
  · subst feed
    rfl
  · simp [quote, feed]

/-- What an escaped character stands for. -/
def unescapeChar (c : Char) : Char := if c = 'n' then '\n' else c

/-- The text up to the first quotation mark that is not escaped, and what follows the mark. -/
def unquote? : List Char → Option (List Char × List Char)
  | [] => none
  | '"' :: rest => some ([], rest)
  | '\\' :: c :: rest => (unquote? rest).map fun (text, rest) => (unescapeChar c :: text, rest)
  | c :: rest => (unquote? rest).map fun (text, rest) => (c :: text, rest)

/-- An escaped character is no closing quotation mark. -/
theorem unquote?_escapeChar (c : Char) (rest : List Char) :
    unquote? (escapeChar c ++ rest) =
      (unquote? rest).map fun (text, rest) => (c :: text, rest) := by
  unfold escapeChar
  split_ifs with backslash quote feed
  · subst backslash
    rfl
  · subst quote
    rfl
  · subst feed
    rfl
  · rw [List.singleton_append, unquote?]
    · exact quote
    · rintro _ _ rfl
      exact absurd rfl backslash

/-- **A quoted text ends at its own quotation mark.** -/
theorem unquote?_escaped (text rest : List Char) :
    unquote? (text.flatMap escapeChar ++ '"' :: rest) = some (text, rest) := by
  induction text with
  | nil => rfl
  | cons c text ih =>
    rw [List.flatMap_cons, List.append_assoc, unquote?_escapeChar, ih]
    rfl

/-- A text in quotation marks, and what follows it. -/
def quotedText? : List Char → Option (String × List Char)
  | '"' :: chars => (unquote? chars).map fun (text, rest) => (String.ofList text, rest)
  | _ => none

theorem toList_quoted (text : String) :
    (quoted text).toList = '"' :: (text.toList.flatMap escapeChar ++ ['"']) := by
  simp [quoted]

theorem quotedText?_quoted (text : String) (rest : List Char) :
    quotedText? ((quoted text).toList ++ rest) = some (text, rest) := by
  rw [toList_quoted, List.cons_append, List.append_assoc, List.singleton_append, quotedText?,
    unquote?_escaped]
  simp

/-- An escaped text stands on one line. -/
theorem feed_not_mem_quoted (text : String) : '\n' ∉ (quoted text).toList := by
  have escaped : ∀ c : Char, '\n' ∉ escapeChar c := by
    intro c
    unfold escapeChar
    split_ifs with _ _ feed
    · decide
    · decide
    · decide
    · simpa using Ne.symm feed
  rw [toList_quoted, List.mem_cons, List.mem_append, List.mem_singleton, List.mem_flatMap]
  rintro (same | ⟨c, _, member⟩ | same)
  · cases same
  · exact escaped c member
  · cases same

/-! ### Lines -/

/-- **What a document shows of a node.** -/
structure Outline where
  key : String
  name : String
  kind : NodeKind
  deriving DecidableEq, Repr

def Outline.ofNode (node : Node) : Outline := ⟨node.key, node.name, node.kind⟩

/-- How the line of a node ends. -/
def nodeStyle (kind : NodeKind) : String :=
  ", shape=" ++ shape kind ++ ", fillcolor=\"" ++ kind.color ++ "\"];"

/-- How the line of a link ends. -/
def linkStyle (kind : LinkKind) : String :=
  " [color=\"" ++ kind.color ++ "\", style=" ++ style kind ++ "];"

/-- The line of a node with an outline. -/
def Outline.line (outline : Outline) : String :=
  "    " ++ (quoted outline.key ++ (" [label=" ++ (quoted outline.name ++ nodeStyle outline.kind)))

theorem nodeLine_eq (node : Node) : nodeLine node = (Outline.ofNode node).line := by
  simp only [nodeLine, Outline.line, Outline.ofNode, nodeStyle, String.append_assoc]

theorem linkLine_eq (link : Link) : linkLine link =
    "    " ++ (quoted link.source ++ (" -> " ++ (quoted link.target ++ linkStyle link.kind))) := by
  simp only [linkLine, linkStyle, String.append_assoc]

/-- What follows a fixed text. -/
def behind? (fixed : String) (chars : List Char) : Option (List Char) :=
  fixed.toList.isPrefixOf? chars

/-- The node that a line shows. -/
def readNode? (line : List Char) : Option Outline := do
  let line ← behind? "    " line
  let (key, line) ← quotedText? line
  let line ← behind? " [label=" line
  let (name, line) ← quotedText? line
  let kind ← NodeKind.all.find? fun kind => (nodeStyle kind).toList == line
  return ⟨key, name, kind⟩

/-- The link that a line shows. -/
def readLink? (line : List Char) : Option Link := do
  let line ← behind? "    " line
  let (source, line) ← quotedText? line
  let line ← behind? " -> " line
  let (target, line) ← quotedText? line
  let kind ← LinkKind.all.find? fun kind => (linkStyle kind).toList == line
  return ⟨source, target, kind⟩

theorem behind?_append (fixed : String) (rest : List Char) :
    behind? fixed (fixed.toList ++ rest) = some rest :=
  List.isPrefixOf?_eq_some_iff_append_eq.mpr rfl

/-- The kind of a node is told by the shape and the colour. -/
theorem find?_nodeStyle (kind : NodeKind) :
    (NodeKind.all.find? fun other => (nodeStyle other).toList == (nodeStyle kind).toList) =
      some kind := by
  cases kind <;> decide +kernel

theorem find?_linkStyle (kind : LinkKind) :
    (LinkKind.all.find? fun other => (linkStyle other).toList == (linkStyle kind).toList) =
      some kind := by
  cases kind <;> decide +kernel

/-- **The line of a node is read back.** -/
theorem readNode?_nodeLine (node : Node) :
    readNode? (nodeLine node).toList = some (Outline.ofNode node) := by
  unfold readNode?
  simp only [nodeLine_eq, Outline.line, String.toList_append, behind?_append, quotedText?_quoted,
    find?_nodeStyle, bind, Option.bind]
  rfl

/-- **The line of a link is read back.** -/
theorem readLink?_linkLine (link : Link) : readLink? (linkLine link).toList = some link := by
  unfold readLink?
  simp only [linkLine_eq, String.toList_append, behind?_append, quotedText?_quoted,
    find?_linkStyle, bind, Option.bind]
  rfl

theorem feed_not_mem_nodeLine (node : Node) : '\n' ∉ (nodeLine node).toList := by
  have style : '\n' ∉ (nodeStyle node.kind).toList := by cases node.kind <;> decide +kernel
  simp [nodeLine_eq, Outline.line, Outline.ofNode, feed_not_mem_quoted, style]

theorem feed_not_mem_linkLine (link : Link) : '\n' ∉ (linkLine link).toList := by
  have style : '\n' ∉ (linkStyle link.kind).toList := by cases link.kind <;> decide +kernel
  simp [linkLine_eq, feed_not_mem_quoted, style]

theorem nodeLine_ne_nil (node : Node) : (nodeLine node).toList ≠ [] := by
  simp [nodeLine_eq, Outline.line]

/-! ### Documents -/

/-- **The lines of a document** are the ones it was made of. -/
theorem splitOn_document (graph : Graph) :
    (document graph).toList.splitOn '\n' = (documentLines graph).map String.toList := by
  have feed : "\n".toList = ['\n'] := rfl
  unfold document
  rw [String.toList_intercalate, feed]
  refine List.splitOn_intercalate '\n' ?_ ?_
  · simp only [documentLines, List.map_append, List.mem_append, List.map_map, List.mem_map,
      Function.comp_apply]
    rintro _ ((((⟨line, member, rfl⟩ | ⟨node, _, rfl⟩) | ⟨line, member, rfl⟩) | ⟨link, _, rfl⟩) |
      ⟨line, member, rfl⟩)
    · revert line
      decide +kernel
    · exact feed_not_mem_nodeLine node
    · revert line
      decide
    · exact feed_not_mem_linkLine link
    · revert line
      decide
  · simp [documentLines]

/-- What the lines between the header and the closing brace show: nodes up to an empty line, and
then links. -/
def readLines? (lines : List (List Char)) : Option (List Outline × List Link) :=
  match lines.dropWhile fun line => !line.isEmpty with
  | _ :: links =>
    if links.getLast? = some ['\x7d'] then do
      let nodes ← (lines.takeWhile fun line => !line.isEmpty).mapM readNode?
      let links ← links.dropLast.mapM readLink?
      return (nodes, links)
    else none
  | [] => none

/-- What a document shows. -/
def readDocument? (text : String) : Option (List Outline × List Link) :=
  ((header.map String.toList).isPrefixOf? (text.toList.splitOn '\n')).bind readLines?

theorem readLines?_documentLines (nodes : List Node) (links : List Link) :
    readLines? (nodes.map (fun node => (nodeLine node).toList) ++
      [] :: (links.map (fun link => (linkLine link).toList) ++ [['\x7d']])) =
        some (nodes.map Outline.ofNode, links) := by
  have full : ∀ line ∈ nodes.map (fun node => (nodeLine node).toList), (!line.isEmpty) = true := by
    rw [List.forall_mem_map]
    intro node _
    simpa using nodeLine_ne_nil node
  unfold readLines?
  rw [List.dropWhile_append_of_pos full, List.takeWhile_append_of_pos full,
    List.dropWhile_cons_of_neg (by simp), List.takeWhile_cons_of_neg (by simp), List.append_nil]
  simp only [List.getLast?_concat, if_true, List.dropLast_concat]
  rw [mapM_map_eq_some readNode?_nodeLine, mapM_map_eq_some readLink?_linkLine, List.map_id']
  rfl

theorem readDocument?_document (graph : Graph) :
    readDocument? (document graph) = some (graph.nodes.map Outline.ofNode, graph.links) := by
  have lines : (documentLines graph).map String.toList = header.map String.toList ++
      (graph.nodes.map (fun node => (nodeLine node).toList) ++
        [] :: (graph.links.map (fun link => (linkLine link).toList) ++ [['\x7d']])) := by
    simp [documentLines, Function.comp_def]
  have found := List.isPrefixOf?_eq_some_iff_append_eq.mpr lines.symm
  rw [readDocument?, splitOn_document, found]
  exact readLines?_documentLines graph.nodes graph.links

/-- **A document is read back, and it determines what it shows.** Its lines are the fixed ones and
one for each node and each link. Every text in it ends at its own quotation mark, whatever follows.
The reader finds the outlines of the nodes and the links, and so two documents are the same exactly
if they show the same. -/
theorem document_reads_back (graph : Graph) :
    (document graph).toList.splitOn '\n' =
        (header ++ graph.nodes.map nodeLine ++ [""] ++ graph.links.map linkLine ++ ["\x7d"]).map
          String.toList ∧
      (∀ text rest, quotedText? ((quoted text).toList ++ rest) = some (text, rest)) ∧
      readDocument? (document graph) = some (graph.nodes.map Outline.ofNode, graph.links) ∧
      ∀ other, document graph = document other ↔
        graph.nodes.map Outline.ofNode = other.nodes.map Outline.ofNode ∧
          graph.links = other.links := by
  refine ⟨splitOn_document graph, quotedText?_quoted, readDocument?_document graph, fun other => ?_⟩
  constructor
  · intro same
    have read := readDocument?_document graph
    rw [same, readDocument?_document, Option.some.injEq, Prod.mk.injEq] at read
    exact ⟨read.1.symm, read.2.symm⟩
  · rintro ⟨nodes, links⟩
    have lines : ∀ nodes : List Node,
        nodes.map nodeLine = (nodes.map Outline.ofNode).map Outline.line := by
      intro nodes
      rw [List.map_map]
      exact List.map_congr_left fun node _ => nodeLine_eq node
    rw [document, document, documentLines, documentLines, lines, lines, nodes, links]

end DeclGraph.Dot
