/-
**Snapshots of the machine's files.**

A command line is answered from a picture of the files that is taken before. The picture holds the
places that are asked for, with all that lies below them and all that links lead to.

* `Snapshot.take`: the picture of some places.
-/

import DeclGraph.Machine.Programs

namespace DeclGraph.CommandLine.Snapshot

/-- The location of a path that has neither links nor `..`. -/
def locationOf (text : String) : Location :=
  (Path.mk text).pieces.filter fun piece => piece != "."

/-- The file at a path, which may not be readable. -/
def fileAt (path : String) : IO Item := do
  try return .file (← IO.FS.readBinFile path).toList true
  catch _ => return .regular [] { readable := false }

/-- The path without links that leads to the same place, if there is such a place. -/
def realPath? (path : String) : IO (Option String) := do
  try return some (← IO.FS.realPath path).toString catch _ => return none

/-- The names in a directory, if they can be told. -/
def namesIn? (path : String) : IO (Option (List String)) := do
  let place ← IO.FS.realPath path
  try return some ((← place.readDir).toList.map fun entry => entry.fileName)
  catch _ => return none

/-- How many directories and links are gone through, one behind the other. -/
def levelLimit : Nat := 4096

/-- Adds a place and all that lies below it, so many levels deep. A place that is there already is
left as it is, so links that lead back do no harm. -/
def addTree : Nat → FileSystem → String → IO FileSystem
  | 0, files, _ => return files
  | levels + 1, files, path => do
    let location := locationOf path
    if (files.item? location).isSome && !location.isEmpty then return files
    let files := files.makeParents location
    let place ← IO.FS.realPath path
    try
      match (← place.symlinkMetadata).type with
      | .dir =>
        match ← namesIn? path with
        | none => return files.insert location (.folder { readable := false })
        | some names =>
          names.foldlM (addEntry levels path) (files.insert location (.directory false))
      | .file => return files.insert location (← fileAt path)
      | _ => return files
    catch _ => return files
where
  /-- adds what stands under a name, which may be a link -/
  addEntry (levels : Nat) (directory : String) (files : FileSystem) (name : String) :
      IO FileSystem := do
    let path := ((Path.mk directory).join ⟨name⟩).text
    match ← realPath? path with
    | none => return files.insert (locationOf path) (.link "missing")
    | some real =>
      if real = path then addTree levels files path
      else addTree levels (files.insert (locationOf path) (.link real)) real

/-- Adds the links on the way to a place, and the place itself. -/
def addPlace (files : FileSystem) (here : String) (path : Path) : IO FileSystem := do
  let absolute := ((Path.mk here).join path).text
  let pieces := locationOf absolute
  let mut files := files
  for count in List.range pieces.length do
    let spelled := "/" ++ "/".intercalate (pieces.take (count + 1))
    match ← realPath? spelled with
    | none => pure ()
    | some real =>
      if real != spelled && !(pieces.take (count + 1)).contains ".." then
        files := (files.makeParents (locationOf spelled)).insert (locationOf spelled) (.link real)
  match ← realPath? absolute with
  | none => return files
  | some real => addTree levelLimit files real

/-- The picture of some places, seen from the current directory. -/
def take (places : List Path) : IO FileSystem := do
  let here := (← IO.currentDir).toString
  let files := Shell.withPrograms { current := locationOf here }
  places.foldlM (fun files place => addPlace files here place)
    (Shell.withDirectory files (locationOf here))

end DeclGraph.CommandLine.Snapshot
