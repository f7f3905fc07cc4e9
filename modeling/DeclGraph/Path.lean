/-
**Paths.**

A path is kept as it is written: joining two paths puts their texts together and normalises
nothing. Paths are compared by their components, for which repeated slashes, a slash at the end and
every inner `.` count for nothing, while a `.` in front of a relative path and every `..` are
components of their own.

* `Path.join`, `Path.startsWith`, `Path.extension?`: the operations on spelled paths;
* `Path.compare`: the order of paths, component by component.
-/

namespace DeclGraph

/-- A path as it is written. -/
structure Path where
  text : String
  deriving DecidableEq, Repr, Inhabited, Hashable

/-- One component of a path. -/
inductive Component where
  | root
  | current
  | parent
  | name (text : String)
  deriving DecidableEq, Repr, Inhabited

namespace Component

/-- The place of a kind of component in the order of components. -/
def rank : Component → Nat
  | root => 0
  | current => 1
  | parent => 2
  | name _ => 3

/-- The root comes first, then `.`, then `..`, then the names in the order of their characters. -/
def compare : Component → Component → Ordering
  | name first, name second =>
    if first < second then .lt else if first = second then .eq else .gt
  | first, second => Ord.compare first.rank second.rank

end Component

namespace Path

instance : Coe String Path := ⟨Path.mk⟩

/-- A path that begins with a slash does not depend on a current directory. -/
def isAbsolute (path : Path) : Bool := path.text.toList.head? == some '/'

/-- The pieces of a path between its slashes; there are no empty ones. -/
def pieces (path : Path) : List String :=
  (path.text.toList.splitBy fun a b => a != '/' && b != '/').filterMap fun piece =>
    if piece == ['/'] then none else some (String.ofList piece)

/-- The component that a piece stands for inside a path; `.` stands for none. -/
def innerComponent? (piece : String) : Option Component :=
  if piece = "." then none else if piece = ".." then some .parent else some (.name piece)

/-- The components of a path. -/
def components (path : Path) : List Component :=
  let inner := path.pieces.filterMap innerComponent?
  if path.isAbsolute then .root :: inner
  else if path.pieces.head? = some "." then .current :: inner
  else inner

/-- Puts a path behind another one; an absolute path stands on its own. -/
def join (path other : Path) : Path :=
  if other.isAbsolute then other
  else if path.text.isEmpty || path.text.toList.getLast? == some '/' then ⟨path.text ++ other.text⟩
  else ⟨path.text ++ "/" ++ other.text⟩

/-- A path without the slashes at its end. -/
def withoutSlashes (path : Path) : Path :=
  ⟨String.ofList (path.text.toList.reverse.dropWhile (· == '/')).reverse⟩

/-- Whether the components of a path begin with those of another one. -/
def startsWith (path base : Path) : Bool := base.components.isPrefixOf path.components

/-- Whether two paths have the same components. -/
def same (path other : Path) : Bool := path.components == other.components

/-- The name that a path ends in. -/
def fileName? (path : Path) : Option String :=
  match path.components.getLast? with
  | some (.name text) => some text
  | _ => none

/-- What follows the last point of a name; a point in front starts no extension. -/
def extensionOf? (name : List Char) : Option (List Char) :=
  let after := (name.reverse.takeWhile (· != '.')).reverse
  let before := (name.reverse.dropWhile (· != '.')).reverse
  if before.length ≤ 1 then none else some after

/-- The extension of the name that a path ends in. -/
def extension? (path : Path) : Option String :=
  path.fileName?.bind fun name => (extensionOf? name.toList).map String.ofList

/-- The order of lists of components: the first difference decides, a shorter list comes first. -/
def compareComponents : List Component → List Component → Ordering
  | [], [] => .eq
  | [], _ :: _ => .lt
  | _ :: _, [] => .gt
  | first :: firsts, second :: seconds =>
    match first.compare second with
    | .eq => compareComponents firsts seconds
    | order => order

/-- The order of paths, component by component. -/
def compare (path other : Path) : Ordering := compareComponents path.components other.components

end Path

end DeclGraph
