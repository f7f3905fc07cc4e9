/-
**Entries of a file tree.**

A file or a directory with its name, its path and, for a directory, what it holds. No children and
an empty list of children are different things.

* `Entry.files`: the paths of all entries without children, with a list of waiting entries in the
  place of recursion;
* `Entry.filesBelow`: the same by recursion.
-/

import DeclGraph.Path

namespace DeclGraph

/-- What an entry is. -/
inductive EntryKind where
  | file
  | directory
  deriving DecidableEq, Repr, Inhabited

namespace EntryKind

/-- The written name of a kind. -/
def tag : EntryKind → String
  | file => "file"
  | directory => "directory"

/-- The kind with a written name. -/
def ofTag? (text : String) : Option EntryKind :=
  [file, directory].find? fun kind => kind.tag == text

/-- A kind is read back from its written name. -/
theorem ofTag?_tag (kind : EntryKind) : ofTag? kind.tag = some kind := by
  cases kind <;> decide

end EntryKind

/-- A file or directory of a tree. -/
inductive Entry where
  | mk (name : String) (path : Path) (kind : EntryKind) (children : Option (List Entry))
  deriving Repr, Inhabited

namespace Entry

def name : Entry → String
  | mk name _ _ _ => name

def path : Entry → Path
  | mk _ path _ _ => path

def kind : Entry → EntryKind
  | mk _ _ kind _ => kind

def children : Entry → Option (List Entry)
  | mk _ _ _ children => children

/-- A file. -/
def file (name : String) (path : Path) : Entry := mk name path .file none

/-- A directory of which nothing is listed yet. -/
def directory (name : String) (path : Path) : Entry := mk name path .directory (some [])

/-- The entry with other children. -/
def withChildren (children : List Entry) : Entry → Entry
  | mk name path kind _ => mk name path kind (some children)

def isDirectory (entry : Entry) : Bool := entry.kind == .directory

/-- An entry as reading a directory gives it. -/
inductive Fresh : Entry → Prop
  | file (name : String) (path : Path) : Fresh (.file name path)
  | directory (name : String) (path : Path) : Fresh (.directory name path)

/-! ### Files -/

mutual

/-- The number of entries in a tree. -/
def size : Entry → Nat
  | mk _ _ _ none => 1
  | mk _ _ _ (some children) => sizeAll children + 1

/-- The number of entries in several trees. -/
def sizeAll : List Entry → Nat
  | [] => 0
  | entry :: entries => entry.size + sizeAll entries

end

theorem sizeAll_append (first second : List Entry) :
    sizeAll (first ++ second) = sizeAll first + sizeAll second := by
  induction first with
  | nil => rw [List.nil_append, sizeAll, Nat.zero_add]
  | cons entry entries ih => rw [List.cons_append, sizeAll, sizeAll, ih, Nat.add_assoc]

/-- Takes entries from a list of waiting ones: children go in the place of their parent, and the
path of an entry without children is kept. The paths are held in reverse. -/
def filesFrom : Nat → List Path → List Entry → List Path
  | steps + 1, found, mk _ path _ children :: waiting =>
    match children with
    | some children => filesFrom steps found (children ++ waiting)
    | none => filesFrom steps (path :: found) waiting
  | _, found, _ => found.reverse

/-- The paths of all files in a tree, in the order of the listing. -/
def files (entry : Entry) : List Path := filesFrom entry.size [] [entry]

mutual

/-- The paths of all files in a tree, by recursion. -/
def filesBelow : Entry → List Path
  | mk _ path _ none => [path]
  | mk _ _ _ (some children) => filesOfAll children

/-- The paths of all files in several trees, by recursion. -/
def filesOfAll : List Entry → List Path
  | [] => []
  | entry :: entries => entry.filesBelow ++ filesOfAll entries

end

end Entry

end DeclGraph
