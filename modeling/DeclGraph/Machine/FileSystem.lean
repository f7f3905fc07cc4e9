/-
**A file system.**

Files, directories, symbolic links and devices, each at a location: the list of names from the root.
A path is resolved piece by piece from the current directory. `.` and an empty piece stay, `..` goes
to the parent, and a link goes on with its target; only so many links are followed for one path.
What the program may do with a file or a directory is told by its mode.

* `FileSystem.resolve`: the location that a path leads to;
* `FileSystem.read`, `FileSystem.names`, `FileSystem.canonical`: what is found there;
* `FileSystem.write`: the file system after a file is written.
-/

import DeclGraph.Path

namespace DeclGraph

/-- The names from the root to a file. -/
abbrev Location := List String

/-- Why the file system refuses a request. -/
inductive FileFault where
  | missing
  | denied
  | notDirectory
  | isDirectory
  | nameTooLong
  | tooManyLinks
  | zeroByte
  /-- what a device says -/
  | device (reason : String)
  deriving DecidableEq, Repr, Inhabited

namespace FileFault

/-- A fault in words. -/
def message : FileFault → String
  | missing => "No such file or directory (os error 2)"
  | denied => "Permission denied (os error 13)"
  | notDirectory => "Not a directory (os error 20)"
  | isDirectory => "Is a directory (os error 21)"
  | nameTooLong => "File name too long (os error 36)"
  | tooManyLinks => "Too many levels of symbolic links (os error 40)"
  | zeroByte => "file name contained an unexpected NUL byte"
  | device reason => reason

end FileFault

/-- What the program may do with a file or a directory. -/
structure Mode where
  /-- read the file, or tell the names in the directory -/
  readable : Bool := true
  /-- write to the file, or add names to the directory -/
  writable : Bool := true
  /-- run the file, or reach what stands in the directory -/
  executable : Bool := true
  deriving DecidableEq, Repr, Inhabited

/-- A thing to read from and write to that is no file: what is written to it goes elsewhere. By
default it holds nothing and takes everything. -/
structure Device where
  /-- what is read from it -/
  holds : List UInt8 := []
  /-- why nothing can be read from it -/
  unread : Option FileFault := none
  /-- why it takes nothing -/
  refuses : Option FileFault := none
  /-- whether what it takes goes to the standard output of the program -/
  shows : Bool := false
  deriving DecidableEq, Repr, Inhabited

/-- What stands at a location. -/
inductive Item where
  | regular (bytes : List UInt8) (mode : Mode)
  | folder (mode : Mode)
  | link (target : String)
  | device (device : Device)
  deriving DecidableEq, Repr, Inhabited

namespace Item

/-- A file that can be read and written. -/
abbrev file (bytes : List UInt8) (executable : Bool) : Item :=
  regular bytes { executable := executable }

/-- A directory that is open to everything, or closed to everything. -/
abbrev directory (closed : Bool) : Item := folder ⟨!closed, !closed, !closed⟩

end Item

/-- The items of a file system and its current directory. -/
structure FileSystem where
  /-- no location occurs twice -/
  items : List (Location × Item) := []
  current : Location := []
  deriving Repr, Inhabited

namespace FileSystem

/-! ### Items -/

/-- What stands at a location; the root is always a directory. -/
def item? (files : FileSystem) (location : Location) : Option Item :=
  match (files.items.find? fun entry => entry.1 == location).map Prod.snd with
  | some item => some item
  | none => if location.isEmpty then some (.directory false) else none

/-- Puts an item at a location. -/
def insert (files : FileSystem) (location : Location) (item : Item) : FileSystem :=
  { files with items := (location, item) :: files.items.filter fun entry => entry.1 != location }

/-- Takes away what stands at a location and below it. -/
def erase (files : FileSystem) (location : Location) : FileSystem :=
  { files with items := files.items.filter fun entry => !location.isPrefixOf entry.1 }

/-- The name of a location that lies right in a directory. -/
def nameIn? (directory location : Location) : Option String :=
  match location.getLast? with
  | some name => if location.dropLast = directory then some name else none
  | none => none

/-- The names right in a directory. -/
def namesIn (files : FileSystem) (directory : Location) : List String :=
  files.items.filterMap fun entry => nameIn? directory entry.1

/-! ### Resolution -/

/-- The longest name, in bytes. -/
def nameLimit : Nat := 255

/-- The longest path, in bytes. -/
def pathLimit : Nat := 4095

/-- How many links are followed for one path. -/
def linkLimit : Nat := 40

/-- Where a walk along the pieces of a path ends. -/
inductive Stop where
  /-- at an item -/
  | found (location : Location)
  /-- at a name that the last directory does not hold -/
  | absent (location : Location)
  /-- at a link, with the pieces behind it -/
  | atLink (directory : Location) (target : String) (rest : List String)
  deriving Repr, Inhabited

/-- Whether what stands at a location is a directory, and then whether it is closed: nothing in it
can be reached. -/
def closed? (files : FileSystem) (location : Location) : Option Bool :=
  match files.item? location with
  | some (.folder mode) => some !mode.executable
  | _ => none

/-- The path of a location. -/
def pathOf (location : Location) : Path := ⟨"/" ++ "/".intercalate location⟩

/-- Whether a directory and all directories above it are open. -/
def isOpenTo (files : FileSystem) (directory : Location) : Bool :=
  (List.range (directory.length + 1)).all fun length =>
    files.closed? (directory.take length) == some false

/-- Where one piece of a path leads. -/
inductive Move where
  /-- to a place without a link -/
  | place (location : Location)
  /-- to a name that the directory does not hold -/
  | absent
  | link (target : String)
  deriving Repr, Inhabited

/-- Goes on with one piece. If paths are spelled out, then a name is looked up by its own path from
the root, which must not be too long, and not in the directory that is there already; `.` and `..`
are not looked up at all. -/
def move (files : FileSystem) (spelled : Bool) (here : Location) (piece : String) :
    Except FileFault Move :=
  match files.closed? here with
  | none => .error .notDirectory
  | some closed =>
    if piece = "" then .ok (.place here)
    else if closed && !(spelled && (piece == "." || piece == "..")) then .error .denied
    else if piece = "." then .ok (.place here)
    else if piece = ".." then .ok (.place here.dropLast)
    else if nameLimit < piece.utf8ByteSize then .error .nameTooLong
    else if spelled && pathLimit < (pathOf (here ++ [piece])).text.utf8ByteSize then
      .error .nameTooLong
    else if spelled && !files.isOpenTo here then .error .denied
    else
      match files.item? (here ++ [piece]) with
      | none => .ok .absent
      | some (.link target) => .ok (.link target)
      | some _ => .ok (.place (here ++ [piece]))

/-- Walks along pieces up to the first link. A link at the end is followed only if asked. -/
def walk (files : FileSystem) (follow : Bool) (spelled : Bool) (here : Location) :
    List String → Except FileFault Stop
  | [] => .ok (.found here)
  | piece :: rest =>
    match files.move spelled here piece with
    | .error fault => .error fault
    | .ok (.place there) => walk files follow spelled there rest
    | .ok .absent => if rest.isEmpty then .ok (.absent (here ++ [piece])) else .error .missing
    | .ok (.link target) =>
      if rest.isEmpty && !follow then .ok (.found (here ++ [piece]))
      else .ok (.atLink here target rest)

/-- The pieces of a path; behind a slash at its end stands an empty one. -/
def piecesOf (path : Path) : List String :=
  path.pieces ++ (if path.text.toList.getLast? = some '/' then [""] else [])

/-- Where a path starts from a directory. -/
def startOf (here : Location) (path : Path) : Location := if path.isAbsolute then [] else here

/-- Walks along pieces and the targets of so many links. -/
def walkLinks (files : FileSystem) (follow : Bool) (spelled : Bool) :
    Nat → Location → List String → Except FileFault Stop
  | links, here, pieces =>
    match walk files follow spelled here pieces with
    | .ok (.atLink directory target rest) =>
      match links with
      | 0 => .error .tooManyLinks
      | links + 1 =>
        if target.isEmpty then .error .missing
        else
          walkLinks files follow spelled links (startOf directory ⟨target⟩)
            (piecesOf ⟨target⟩ ++ rest)
    | stop => stop

/-- Where a path ends. A path that is spelled out may be of any length itself. -/
def stop (files : FileSystem) (follow : Bool) (path : Path) (spelled : Bool := false) :
    Except FileFault Stop :=
  if path.text.toList.contains '\x00' then .error .zeroByte
  else if path.text.isEmpty then .error .missing
  else if !spelled && pathLimit < path.text.utf8ByteSize then .error .nameTooLong
  else walkLinks files follow spelled linkLimit (startOf files.current path) (piecesOf path)

/-- The location that a path leads to. -/
def resolve (files : FileSystem) (follow : Bool) (path : Path) (spelled : Bool := false) :
    Except FileFault Location :=
  match files.stop follow path spelled with
  | .ok (.found location) => .ok location
  | .ok _ => .error .missing
  | .error fault => .error fault

/-- What a path leads to. -/
def itemAt? (files : FileSystem) (follow : Bool) (path : Path) : Option Item :=
  match files.resolve follow path with
  | .ok location => files.item? location
  | .error _ => none

/-! ### Questions -/

def exists? (files : FileSystem) (path : Path) : Bool := (files.itemAt? true path).isSome

def isDirectory (files : FileSystem) (path : Path) : Bool :=
  match files.itemAt? true path with
  | some (.folder _) => true
  | _ => false

def isFile (files : FileSystem) (path : Path) : Bool :=
  match files.itemAt? true path with
  | some (.regular _ _) => true
  | _ => false

/-- Whether a path ends at a link, which is not followed. -/
def isLink (files : FileSystem) (path : Path) : Bool :=
  match files.itemAt? false path with
  | some (.link _) => true
  | _ => false

/-- What reading an item gives. -/
def readItem : Item → Except FileFault (List UInt8)
  | .regular bytes mode => if mode.readable then .ok bytes else .error .denied
  | .folder mode => .error (if mode.readable then .isDirectory else .denied)
  | .link _ => .error .tooManyLinks
  | .device device =>
    match device.unread with
    | some fault => .error fault
    | none => .ok device.holds

/-- What is read from a path. -/
def read (files : FileSystem) (path : Path) : Except FileFault (List UInt8) := do
  let location ← files.resolve true path
  match files.item? location with
  | some item => readItem item
  | none => .error .missing

/-- The names in the directory at a path. -/
def names (files : FileSystem) (path : Path) : Except FileFault (List String) := do
  let location ← files.resolve true path
  match files.item? location with
  | some (.folder mode) => if mode.readable then .ok (files.namesIn location) else .error .denied
  | some _ => .error .notDirectory
  | none => .error .missing

/-- Whether what is written to a path goes to the standard output of the program. -/
def shows (files : FileSystem) (path : Path) : Bool :=
  match files.itemAt? true path with
  | some (.device device) => device.shows
  | _ => false

/-- The location that a path leads to, with all paths on the way spelled out: as the C library's
`realpath` finds it, which looks up every name by its own path from the root and goes up on the text
of that path. So it refuses a place whose own path is longer than `pathLimit`, or lies below a closed
directory, though a shorter path leads there; the given path itself may be of any length. -/
def locate (files : FileSystem) (path : Path) : Except FileFault Location :=
  files.resolve true path true

/-- The path without links, `.` and `..` that leads to the same place. -/
def canonical (files : FileSystem) (path : Path) : Except FileFault Path :=
  (files.locate path).map pathOf

/-! ### Changes -/

/-- Whether names can be added to a directory. -/
def takesNames (files : FileSystem) (directory : Location) : Bool :=
  match files.item? directory with
  | some (.folder mode) => mode.writable
  | _ => false

/-- Puts bytes into the file at a location, which keeps its mode if it is there already. A device
takes the bytes and is what it was. -/
def writeAt (files : FileSystem) (location : Location) (bytes : List UInt8) :
    Except FileFault FileSystem :=
  match files.item? location with
  | some (.regular _ mode) =>
    if mode.writable then .ok (files.insert location (.regular bytes mode)) else .error .denied
  | some (.folder _) => .error .isDirectory
  | some (.link _) => .error .tooManyLinks
  | some (.device device) =>
    match device.refuses with
    | some fault => .error fault
    | none => .ok files
  | none =>
    if files.takesNames location.dropLast then .ok (files.insert location (.file bytes false))
    else .error .denied

/-- The file system after bytes are written to a path. A file that is not there is made if its
directory is. -/
def write (files : FileSystem) (path : Path) (bytes : List UInt8) : Except FileFault FileSystem :=
  match files.stop true path with
  | .ok (.found location) => files.writeAt location bytes
  | .ok (.absent location) => files.writeAt location bytes
  | .ok (.atLink _ _ _) => .error .missing
  | .error .missing =>
    match files.stop true path.withoutSlashes with
    | .ok (.absent _) => .error .isDirectory
    | _ => .error .missing
  | .error fault => .error fault

/-- Makes the directories on the way to a location that are not there. -/
def makeParents (files : FileSystem) (location : Location) : FileSystem :=
  (List.range location.length).foldl (fun files length =>
    let directory := location.take length
    if (files.item? directory).isNone then files.insert directory (.directory false) else files)
    files

end FileSystem

end DeclGraph
