/-
**Lines of a text.**

A line ends at a line feed; one carriage return right before the line feed belongs to the ending
and not to the line. What follows the last line feed is a line of its own unless it is empty, and
keeps a carriage return at its end.
-/

namespace DeclGraph.Text

/-- Cuts a list of characters at each line feed; the line under way and the lines before it are
held in reverse. -/
def cutLinesFrom (line : List Char) (done : List (List Char)) : List Char → List (List Char)
  | [] => (line.reverse :: done).reverse
  | c :: rest =>
    if c = '\n' then cutLinesFrom [] (line.reverse :: done) rest
    else cutLinesFrom (c :: line) done rest

/-- Cuts a list of characters at each line feed; there is always a last piece. -/
def cutLines (chars : List Char) : List (List Char) := cutLinesFrom [] [] chars

/-- A list of characters without one carriage return at its end. -/
def dropReturn (line : List Char) : List Char :=
  if line.getLast? = some '\r' then line.dropLast else line

/-- The lines of a list of characters. -/
def linesOf (chars : List Char) : List (List Char) :=
  let pieces := cutLines chars
  let last := pieces.getLastD []
  pieces.dropLast.map dropReturn ++ (if last.isEmpty then [] else [last])

/-- The lines of a text. -/
def lines (text : String) : List String := (linesOf text.toList).map String.ofList

end DeclGraph.Text
