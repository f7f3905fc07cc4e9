/-
**Requests that are confined to a project.**

With an active project and confined paths, a request is answered from the file that lies at the end
of its path, after all links and `..`, and only if that place is below the place of the project.
All other requests fail before any file is read. Thus nobody learns through the service what files
outside of a project hold.

* `Launcher.ReadsGivenFile`: a program that looks at the file it is given only;
* `Extractor.ReadsGivenFile`: an extractor that does, as both extractors do;
* `ProjectContext.Holds`: the places in a project;
* **`graph_confined`**: what a request reads, and which requests are refused.
-/

import DeclGraph.Proofs.FileSystem.Contents
import DeclGraph.Proofs.FileSystem.Resolution
import DeclGraph.Service

namespace DeclGraph

open FileSystem

/-! ### What extractors read -/

/-- **The outcome of the external parser depends on the contents of the file it is given only.** -/
def Launcher.ReadsGivenFile (launcher : Launcher) (settings : ParserSettings) : Prop :=
  ∀ (files other : FileSystem) (path : Path), AgreeOn (fun _ => False) files other →
    other.read path = files.read path →
      launcher.start other settings.timeout settings.program (settings.arguments ++ [path.text]) =
        launcher.start files settings.timeout settings.program (settings.arguments ++ [path.text])

/-- The graph of a file depends on the contents of that file only. -/
def Extractor.ReadsGivenFile (extractor : Extractor) : Prop :=
  ∀ (files : FileSystem) (path : Path) (watched : Location → Prop),
    (∀ location, files.resolve true path = .ok location → watched location) →
      ReadsOnly watched files fun files => extractor.extract files path

theorem readsGivenFile_python : Extractor.python.ReadsGivenFile := by
  intro files path watched leads other agree
  show Extraction.pythonFile other path = Extraction.pythonFile files path
  unfold Extraction.pythonFile
  rw [agree.read_eq leads]

theorem readsGivenFile_go {launcher : Launcher} {settings : ParserSettings}
    (reads : launcher.ReadsGivenFile settings) :
    (Extractor.go launcher settings).ReadsGivenFile := by
  intro files path watched leads other agree
  show Extraction.go launcher settings other path = Extraction.go launcher settings files path
  have same := reads _ _ _ (agree.mono fun _ never => never.elim) (agree.read_eq leads)
  unfold Extraction.go Extraction.declarations
  rw [agree.isFile_eq, same]

/-- The graph from any of these extractors depends on the contents of the file only. -/
theorem Registry.readsOnly_extract {registry : Registry}
    (honest : ∀ extractor ∈ registry.extractors, extractor.ReadsGivenFile) {files : FileSystem}
    {path : Path} {watched : Location → Prop}
    (leads : ∀ location, files.resolve true path = .ok location → watched location) :
    ReadsOnly watched files fun files => registry.extract files path := by
  intro other agree
  show registry.extract other path = registry.extract files path
  unfold Registry.extract
  cases chosen : registry.forPath path with
  | error error => rfl
  | ok extractor =>
    have member : extractor ∈ registry.extractors := by
      unfold Registry.forPath at chosen
      split at chosen
      · rename_i found
        cases chosen
        obtain ⟨language, _, found⟩ := Option.bind_eq_some_iff.mp found
        exact List.mem_of_find?_eq_some found
      · cases chosen
    exact honest extractor member _ _ _ leads other agree

theorem mem_extractors_ofConfig {launcher : Launcher} {config : Config} {extractor : Extractor} :
    extractor ∈ (Registry.ofConfig launcher config).extractors ↔
      extractor = .python ∨ extractor = .go launcher config.parser := by
  simp [Registry.ofConfig, Registry.register, Registry.empty, Extractor.python, Extractor.go]

/-! ### The project and what lies in it -/

namespace ProjectContext

variable {context : ProjectContext} {files other : FileSystem} {path : Path} {location : Location}

/-- **A place lies in a project:** it is at or below the place of the directory of the project. -/
def Holds (context : ProjectContext) (files : FileSystem) (location : Location) : Prop :=
  ∃ root, files.locate context.root = .ok root ∧ root <+: location

/-- A path is accepted if it leads to a place in the project. -/
theorem confine_of_holds (proper : files.Proper) (leads : files.locate path = .ok location)
    (holds : context.Holds files location) :
    context.confine files path = .ok (pathOf location) := by
  obtain ⟨root, rootLeads, below⟩ := holds
  have names := proper.named _ (proper.stands_resolve leads).isSome
  have rootNames := proper.named _ (proper.stands_resolve rootLeads).isSome
  have inside := (startsWith_pathOf_iff names rootNames).mpr below
  simp [confine, canonical, leads, rootLeads, Except.map, inside]

/-- A path is refused if it leads nowhere or to a place outside of the project. -/
theorem confine_of_not_holds (proper : files.Proper)
    (outside : ∀ location, files.locate path = .ok location → ¬ context.Holds files location) :
    ∃ error, context.confine files path = .error error ∧
      (error = .outsideProject path context.root ∨ error = .notFound path ∨
        error = .notFound context.root) := by
  unfold confine canonical
  cases leads : files.locate path with
  | error fault => exact ⟨_, rfl, by simp⟩
  | ok location =>
    cases rootLeads : files.locate context.root with
    | error fault => exact ⟨_, rfl, by simp⟩
    | ok root =>
      have names := proper.named _ (proper.stands_resolve leads).isSome
      have rootNames := proper.named _ (proper.stands_resolve rootLeads).isSome
      have notBelow : ¬ root <+: location := fun below =>
        outside location leads ⟨root, rootLeads, below⟩
      have notInside : (pathOf location).startsWith (pathOf root) ≠ true := fun inside =>
        notBelow ((startsWith_pathOf_iff names rootNames).mp inside)
      exact ⟨_, by simp [Except.map, notInside], Or.inl rfl⟩

/-- Whether a path is accepted depends on the contents of no file. -/
theorem confine_eq {watched : Location → Prop} (agree : AgreeOn watched files other)
    (context : ProjectContext) (path : Path) :
    context.confine other path = context.confine files path := by
  simp only [confine, agree.canonical_eq]

end ProjectContext

/-! ### Requests -/

/-- A project as a configuration has it. -/
def Config.contextOf (config : Config) (project : Project) : ProjectContext :=
  .ofProject project config.projectsRoot

/-- The service for a project. -/
def Service.forProject (launcher : Launcher) (config : Config) (project : Project) : Service :=
  (Service.ofConfig launcher config).withProjects (·.select project)

namespace Service

variable {launcher : Launcher} {config : Config} {project : Project} {files : FileSystem}
  {path : Path} {location : Location}

theorem context?_forProject (launcher : Launcher) (config : Config) (project : Project) :
    (forProject launcher config project).projects.context? = some (config.contextOf project) := rfl

/-- With confined paths a request is either refused or answered from the place it means. -/
theorem graph_eq_of_confines (confines : config.confinesPaths = true) (files : FileSystem)
    (path : Path) :
    (forProject launcher config project).graph files path =
      ((config.contextOf project).confine files ((config.contextOf project).resolve path)).bind
        ((Registry.ofConfig launcher config).extract files) := by
  have confined : (forProject launcher config project).confinesPaths = true := confines
  simp only [graph, resolve, context?_forProject, confined, if_true]
  cases (config.contextOf project).confine files ((config.contextOf project).resolve path) <;> rfl

/-- A request for a file in the project reads that file only. -/
theorem readsOnly_graph_of_holds (confines : config.confinesPaths = true) (proper : files.Proper)
    (reads : launcher.ReadsGivenFile config.parser)
    (leads : files.locate ((config.contextOf project).resolve path) = .ok location)
    (holds : (config.contextOf project).Holds files location) :
    ReadsOnly (· = location) files
      fun files => (forProject launcher config project).graph files path := by
  intro other agree
  have honest : ∀ extractor ∈ (Registry.ofConfig launcher config).extractors,
      extractor.ReadsGivenFile := by
    intro extractor member
    rcases mem_extractors_ofConfig.mp member with rfl | rfl
    · exact readsGivenFile_python
    · exact readsGivenFile_go reads
  have extracts := Registry.readsOnly_extract honest
    (fun found => proper.resolve_pathOf (proper.stands_resolve leads)) other agree
  dsimp only at extracts ⊢
  rw [graph_eq_of_confines confines, graph_eq_of_confines confines,
    ProjectContext.confine_eq agree, ProjectContext.confine_of_holds proper leads holds]
  exact extracts

/-- A request for anything else fails and reads nothing. -/
theorem graph_of_not_holds (launcher : Launcher) (project : Project) (path : Path)
    (confines : config.confinesPaths = true) (proper : files.Proper)
    (outside : ∀ location, files.locate ((config.contextOf project).resolve path) = .ok location →
      ¬ (config.contextOf project).Holds files location) :
    (∃ error, (forProject launcher config project).graph files path = .error error ∧
        (error = .outsideProject ((config.contextOf project).resolve path)
            (config.contextOf project).root ∨
          error = .notFound ((config.contextOf project).resolve path) ∨
          error = .notFound (config.contextOf project).root)) ∧
      ReadsOnly (fun _ => False) files
        fun files => (forProject launcher config project).graph files path := by
  obtain ⟨error, refused, kind⟩ := ProjectContext.confine_of_not_holds proper outside
  refine ⟨⟨error, ?_, kind⟩, fun other agree => ?_⟩
  · rw [graph_eq_of_confines confines, refused]
    rfl
  · dsimp only
    rw [graph_eq_of_confines confines, graph_eq_of_confines confines,
      ProjectContext.confine_eq agree, refused]
    rfl

/-- **A confined request reads the file at its place in the project, and nothing otherwise.** If its
path leads to a place in the project, then the answer depends on the contents of the file at that
place only. If the path leads elsewhere or nowhere, then the request fails and the answer depends on
the contents of no file. In all cases files outside of the project may hold anything. -/
theorem graph_confined (confines : config.confinesPaths = true) (proper : files.Proper)
    (reads : launcher.ReadsGivenFile config.parser) :
    (∀ location, files.locate ((config.contextOf project).resolve path) = .ok location →
        (config.contextOf project).Holds files location →
          ReadsOnly (· = location) files
            fun files => (forProject launcher config project).graph files path) ∧
      ((∀ location, files.locate ((config.contextOf project).resolve path) = .ok location →
          ¬ (config.contextOf project).Holds files location) →
        (∃ error, (forProject launcher config project).graph files path = .error error ∧
            (error = .outsideProject ((config.contextOf project).resolve path)
                (config.contextOf project).root ∨
              error = .notFound ((config.contextOf project).resolve path) ∨
              error = .notFound (config.contextOf project).root)) ∧
          ReadsOnly (fun _ => False) files
            fun files => (forProject launcher config project).graph files path) ∧
      ReadsOnly ((config.contextOf project).Holds files) files
        fun files => (forProject launcher config project).graph files path := by
  have nowhere := graph_of_not_holds launcher project path confines proper
  refine ⟨fun location => readsOnly_graph_of_holds confines proper reads, nowhere, ?_⟩
  by_cases inside : ∃ location,
      files.locate ((config.contextOf project).resolve path) = .ok location ∧
        (config.contextOf project).Holds files location
  · obtain ⟨location, leads, holds⟩ := inside
    refine (readsOnly_graph_of_holds confines proper reads leads holds).mono ?_
    rintro _ rfl
    exact holds
  · refine (nowhere fun location leads holds => inside ⟨location, leads, holds⟩).2.mono ?_
    exact fun _ never => never.elim

/-! ### An example -/

/-- A parser that prints the file it is given. -/
def printing : Launcher where
  start files _ _ arguments :=
    match files.read ⟨arguments.getLast?.getD ""⟩ with
    | .ok bytes => .ended (some 0) bytes []
    | .error fault => .ended (some 1) [] (Text.Utf8.encode fault.message)

theorem readsGivenFile_printing (settings : ParserSettings) :
    printing.ReadsGivenFile settings := by
  intro files other path _ same
  simp only [printing, List.getLast?_append, List.getLast?_singleton, Option.some_or,
    Option.getD_some, same]

/-- A project with a file and with a link to a file elsewhere. -/
def smallFiles : FileSystem where
  items := [
    (["projects"], .directory false),
    (["projects", "demo"], .directory false),
    (["projects", "demo", "a.py"], .file [] false),
    (["projects", "demo", "out.py"], .link "../../secret.py"),
    (["secret.py"], .file [] false)]

/-- The file of the project is read whatever the other one holds, and the link is refused. -/
theorem small_graph_confined :
    ReadsOnly (· = ["projects", "demo", "a.py"]) smallFiles
        (fun files => (forProject printing {} ⟨1, "demo", ""⟩).graph files ⟨"a.py"⟩) ∧
      ∃ error, (forProject printing {} ⟨1, "demo", ""⟩).graph smallFiles ⟨"out.py"⟩ =
        .error error := by
  have proper : smallFiles.Proper := by decide +kernel
  have root : smallFiles.locate (Config.contextOf {} ⟨1, "demo", ""⟩).root =
      .ok ["projects", "demo"] := by decide +kernel
  have leads : smallFiles.locate ((Config.contextOf {} ⟨1, "demo", ""⟩).resolve ⟨"a.py"⟩) =
      .ok ["projects", "demo", "a.py"] := by decide +kernel
  have leadsOut : smallFiles.locate ((Config.contextOf {} ⟨1, "demo", ""⟩).resolve ⟨"out.py"⟩) =
      .ok ["secret.py"] := by decide +kernel
  have reads := readsGivenFile_printing ({} : Config).parser
  constructor
  · exact (graph_confined rfl proper reads).1 _ leads ⟨_, root, by decide⟩
  · have refused := (graph_confined rfl proper reads).2.1 fun location found holds => by
      rw [leadsOut] at found
      cases found
      obtain ⟨_, found, below⟩ := holds
      rw [root] at found
      cases found
      revert below
      decide
    obtain ⟨⟨error, fails, _⟩, _⟩ := refused
    exact ⟨error, fails⟩

end Service

end DeclGraph
