/-
**Listing a directory as a tree.**

The walk reads one directory after the other, those nearer to the root first, and stops taking
entries when it has so many. What a directory holds is kept in a slot; every slot but the first
remembers the slot and the place of its own entry. When all slots are read, they are put together
from the last to the first: what a directory holds becomes the children of its entry, and the entry
of a directory that could not be read is taken away.

* `Walk.run`: the slots of a walk;
* `Walk.assemble`: the entries of the first slot with everything below them;
* `list`: the tree below a root, unless the root itself cannot be read;
* `listBelow`: the same tree by recursion, for a walk that no limit on entries cuts;
* `metBelow`: how many entries such a walk meets.
-/

import DeclGraph.Error
import DeclGraph.Tree.Entry

namespace DeclGraph.Tree

/-- How far a walk goes. -/
structure Limits where
  depth : Nat := 32
  entries : Nat := 50000
  deriving DecidableEq, Repr, Inhabited

/-- What reading a directory gives. The number of the reading comes first, since a directory may
change between two of them. -/
abbrev Reader (ε : Type) := Nat → Path → Except ε (List Entry)

/-- A directory of a walk. -/
structure Slot where
  path : Path
  depth : Nat
  /-- the slot of the directory that this one stands in, and its place there -/
  parent : Option (Nat × Nat)
  /-- what it holds, once it is read -/
  entries : Option (List Entry) := none
  deriving Repr, Inhabited

/-- A walk under way. -/
structure Walk where
  slots : Array Slot
  /-- the next slot to be read -/
  next : Nat := 0
  /-- the entries taken so far -/
  total : Nat := 0
  deriving Repr, Inhabited

namespace Walk

/-- A walk before its first reading. -/
def start (root : Path) : Walk := { slots := #[{ path := root, depth := 0, parent := none }] }

/-- Whether the walk goes into an entry of a directory at a depth. -/
def enters (isLink : Path → Bool) (limits : Limits) (depth : Nat) (entry : Entry) : Bool :=
  entry.isDirectory && !isLink entry.path && depth + 1 ≤ limits.depth

/-- The slots for the directories among some entries. -/
def slotsFor (isLink : Path → Bool) (limits : Limits) (slot depth : Nat) (entries : List Entry) :
    List Slot :=
  (entries.zipIdx.filter fun (entry, _) => enters isLink limits depth entry).map
    fun (entry, place) =>
      { path := entry.path, depth := depth + 1, parent := some (slot, place) }

/-- The entries of a directory for which there is room. -/
def cap (limits : Limits) (walk : Walk) (entries : List Entry) : List Entry :=
  entries.take (limits.entries - walk.total)

/-- The walk after the entries of its next slot are taken, as far as there is room. -/
def take (isLink : Path → Bool) (limits : Limits) (walk : Walk) (slot : Slot)
    (entries : List Entry) : Walk :=
  let entries := walk.cap limits entries
  let filled := walk.slots.setIfInBounds walk.next { slot with entries := some entries }
  { slots := filled ++ slotsFor isLink limits walk.next slot.depth entries
    next := walk.next + 1
    total := walk.total + entries.length }

/-- Reads slots until all are read; nothing if the first one cannot be read. -/
def runFrom {ε : Type} (read : Reader ε) (isLink : Path → Bool) (limits : Limits) :
    Nat → Walk → Option Walk
  | 0, walk => some walk
  | steps + 1, walk =>
    match walk.slots[walk.next]? with
    | none => some walk
    | some slot =>
      match read walk.next slot.path with
      | .ok entries => runFrom read isLink limits steps (walk.take isLink limits slot entries)
      | .error _ =>
        if walk.next = 0 then none
        else runFrom read isLink limits steps { walk with next := walk.next + 1 }

/-- The walk below a root. Every slot but the first belongs to an entry that was taken, so the
limit on entries bounds the readings. -/
def run {ε : Type} (read : Reader ε) (isLink : Path → Bool) (limits : Limits) (root : Path) :
    Option Walk :=
  runFrom read isLink limits (limits.entries + 1) (start root)

/-! ### Assembly -/

/-- Gives the entry at a place its children, or takes it away if it could not be read. -/
def settle (place : Nat) (children : Option (List Entry)) (entries : List Entry) : List Entry :=
  match children with
  | some children => entries.modify place (Entry.withChildren children)
  | none => entries.eraseIdx place

/-- Moves what a slot holds into its parent. -/
def settleSlot (slots : Array Slot) (number : Nat) : Array Slot :=
  match slots[number]? with
  | none => slots
  | some slot =>
    match slot.parent with
    | none => slots
    | some (parent, place) =>
      slots.modify parent fun above =>
        { above with entries := above.entries.map (settle place slot.entries) }

/-- The slots after all those from a number on are settled. Every slot stands behind its parent, so
the last slot is finished first. -/
def settledFrom (walk : Walk) (number : Nat) : Array Slot :=
  (List.range' number (walk.slots.size - number)).foldr
    (fun number slots => settleSlot slots number) walk.slots

/-- The entries of the first slot, with everything below them. -/
def assemble (walk : Walk) : List Entry :=
  (((walk.settledFrom 1)[0]?).bind Slot.entries).getD []

end Walk

/-- The tree below a root. -/
def list {ε : Type} (read : Reader ε) (isLink : Path → Bool) (limits : Limits) (root : Path) :
    Except Error (List Entry) :=
  match Walk.run read isLink limits root with
  | some walk => .ok walk.assemble
  | none => .error (.notFound root)

/-! ### By recursion -/

/-- What a listed entry becomes, given the trees of directories: a file stays, a directory that is
a link or too deep stays empty, and one that cannot be read is dropped. -/
def entryBelow (isLink : Path → Bool) (list : Path → Option (List Entry)) (room : Bool)
    (entry : Entry) : Option Entry :=
  if !entry.isDirectory then some entry
  else if isLink entry.path || !room then some (entry.withChildren [])
  else (list entry.path).map fun children => entry.withChildren children

/-- The tree below a directory, so many levels deep; nothing if the directory cannot be read. -/
def listBelow {ε : Type} (read : Path → Except ε (List Entry)) (isLink : Path → Bool) :
    Nat → Path → Option (List Entry)
  | 0, path =>
    match read path with
    | .ok entries => some (entries.filterMap (entryBelow isLink (fun _ => none) false))
    | .error _ => none
  | depth + 1, path =>
    match read path with
    | .ok entries => some (entries.filterMap (entryBelow isLink (listBelow read isLink depth) true))
    | .error _ => none

/-- The number of entries that reading a directory and everything below it gives, so many levels
deep. -/
def metBelow {ε : Type} (read : Path → Except ε (List Entry)) (isLink : Path → Bool) :
    Nat → Path → Nat
  | 0, path =>
    match read path with
    | .ok entries => entries.length
    | .error _ => 0
  | depth + 1, path =>
    match read path with
    | .ok entries =>
      entries.length + ((entries.filter fun entry => entry.isDirectory && !isLink entry.path).map
        fun entry => metBelow read isLink depth entry.path).foldr (· + ·) 0
    | .error _ => 0

end DeclGraph.Tree
