/-
**Projects.**

A project has a directory named after it below the root of all projects. Requests name files by
paths: one that is absolute, or already spelled with the directory of the project in front, stands
for itself, and every other one is looked for in the project.

* `ProjectContext.resolve`: the path that a request means;
* `ProjectContext.confine`: the same place without links and `..`, if it lies in the project;
* `ActiveProject`: the project that requests refer to at a moment.
-/

import DeclGraph.Error
import DeclGraph.Machine.FileSystem

namespace DeclGraph

/-- A project as clients name it. -/
structure Project where
  id : Int
  name : String
  url : String := ""
  deriving DecidableEq, Repr, Inhabited

/-- A project and its directory. -/
structure ProjectContext where
  project : Project
  root : Path
  deriving DecidableEq, Repr, Inhabited

namespace ProjectContext

/-- A project below the root of all projects. -/
def ofProject (project : Project) (projectsRoot : Path) : ProjectContext :=
  ⟨project, projectsRoot.join ⟨project.name⟩⟩

/-- The path that a request means. -/
def resolve (context : ProjectContext) (path : Path) : Path :=
  if path.isAbsolute || path.startsWith context.root then path else context.root.join path

/-- The place of a path without links and `..`, if it lies in the project. -/
def confine (context : ProjectContext) (files : FileSystem) (path : Path) : Except Error Path :=
  match files.canonical path with
  | .error _ => .error (.notFound path)
  | .ok place =>
    match files.canonical context.root with
    | .error _ => .error (.notFound context.root)
    | .ok root =>
      if place.startsWith root then .ok place else .error (.outsideProject path context.root)

end ProjectContext

/-- The root of all projects and the project that requests refer to. -/
structure ActiveProject where
  projectsRoot : Path
  current : Option Project := none
  deriving DecidableEq, Repr, Inhabited

namespace ActiveProject

/-- Requests refer to another project. -/
def select (active : ActiveProject) (project : Project) : ActiveProject :=
  { active with current := some project }

/-- Requests refer to no project. -/
def clear (active : ActiveProject) : ActiveProject := { active with current := none }

/-- The project that requests refer to, with its directory. -/
def context? (active : ActiveProject) : Option ProjectContext :=
  active.current.map fun project => .ofProject project active.projectsRoot

end ActiveProject

end DeclGraph
