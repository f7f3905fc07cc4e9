/-
**The service.**

What the command line and the server have in common: the graph of a file, the tree of a directory
and the index of a directory, as the configuration and the active project have it.

* `Service.graph`: with a project, paths mean files of the project and may be confined to it;
* `Service.tree`, `Service.treeAt`: the files of one language;
* `Service.index`: the files of all languages.
-/

import DeclGraph.Config.Basic
import DeclGraph.Extraction.Go
import DeclGraph.Extraction.Python
import DeclGraph.Index
import DeclGraph.Project.Basic

namespace DeclGraph

namespace Extractor

/-- Python files are read here. -/
def python : Extractor := ⟨.python, Extraction.pythonFile⟩

/-- Go files are handed to the external parser. -/
def go (launcher : Launcher) (settings : ParserSettings) : Extractor :=
  ⟨.go, Extraction.go launcher settings⟩

end Extractor

/-- The registry that a configuration asks for. -/
def Registry.ofConfig (launcher : Launcher) (config : Config) : Registry :=
  (Registry.empty.register .python).register (.go launcher config.parser)

/-- What requests are answered with. -/
structure Service where
  registry : Registry
  projects : ActiveProject
  limits : Tree.Limits
  defaultLanguage : Language
  /-- whether paths outside the active project are refused -/
  confinesPaths : Bool

namespace Service

/-- The service that a configuration asks for. -/
def ofConfig (launcher : Launcher) (config : Config) : Service where
  registry := .ofConfig launcher config
  projects := ⟨config.projectsRoot, none⟩
  limits := config.tree
  defaultLanguage := config.defaultLanguage
  confinesPaths := config.confinesPaths

/-- The service after a change of the active project. -/
def withProjects (service : Service) (change : ActiveProject → ActiveProject) : Service :=
  { service with projects := change service.projects }

/-- The path that a request means, in the active project if there is one. -/
def resolve (service : Service) (files : FileSystem) (path : Path) : Except Error Path :=
  match service.projects.context? with
  | none => .ok path
  | some context =>
    if service.confinesPaths then context.confine files (context.resolve path)
    else .ok (context.resolve path)

/-- The graph of a file. -/
def graph (service : Service) (files : FileSystem) (path : Path) : Except Error Graph :=
  match service.resolve files path with
  | .ok path => service.registry.extract files path
  | .error error => .error error

/-- The tree of a directory. -/
def treeAt (service : Service) (files : FileSystem) (root : Path) (language : Option Language) :
    Except Error (List Entry) :=
  let language := language.getD service.defaultLanguage
  (Tree.Builder.ofExtensions language.extensions service.limits).list files root

/-- The tree of the active project. -/
def tree (service : Service) (files : FileSystem) (language : Option Language) :
    Except Error (List Entry) :=
  match service.projects.context? with
  | some context => service.treeAt files context.root language
  | none => .error .noActiveProject

/-- The index of a directory. -/
def index (service : Service) (files : FileSystem) (root : Path) : Except Error Index :=
  Index.build service.registry files service.limits root

end Service

end DeclGraph
