/-
**Trees of the file system.**

Directories are always listed, files only if their extension is accepted as it is written. In each
directory the directories come first, and names are in the order of their characters. Links to
directories are listed and not entered.

* `Builder.accepts`: whether a file is listed;
* `Builder.list`: the tree below a root of a file system.
-/

import DeclGraph.Error
import DeclGraph.Machine.FileSystem
import DeclGraph.Tree.Listing

namespace DeclGraph.Tree

/-- Which files are listed, and how far. -/
structure Builder where
  extensions : List String
  limits : Limits := {}
  deriving DecidableEq, Repr, Inhabited

namespace Builder

/-- A text without the points at its start. -/
def withoutPoints (text : String) : String := String.ofList (text.toList.dropWhile (· == '.'))

/-- A builder for files with these extensions, with or without points in front. -/
def ofExtensions (extensions : List String) (limits : Limits) : Builder :=
  ⟨extensions.map withoutPoints, limits⟩

/-- Whether a file is listed. -/
def accepts (builder : Builder) (path : Path) : Bool :=
  match path.extension? with
  | some extension => builder.extensions.contains extension
  | none => false

/-- Entries in the order of their names. -/
def byName (entries : List Entry) : List Entry :=
  entries.mergeSort fun first second => first.name ≤ second.name

/-- The entry for a name in a directory, if it is listed. -/
def entry? (builder : Builder) (files : FileSystem) (directory : Path) (name : String) :
    Option Entry :=
  let path := directory.join ⟨name⟩
  if files.isDirectory path then some (.directory name path)
  else if builder.accepts path then some (.file name path)
  else none

/-- One level of a directory: its directories and then its files. -/
def level (builder : Builder) (files : FileSystem) (directory : Path) :
    Except FileFault (List Entry) := do
  let names ← files.names directory
  let entries := names.filterMap (builder.entry? files directory)
  return byName (entries.filter fun entry => entry.isDirectory) ++
    byName (entries.filter fun entry => !entry.isDirectory)

/-- The tree below a root. -/
def list (builder : Builder) (files : FileSystem) (root : Path) : Except Error (List Entry) :=
  if files.isDirectory root then
    Tree.list (fun _ => builder.level files) files.isLink builder.limits root
  else .error (.notFound root)

end Builder

end DeclGraph.Tree
