/-
**Files that are listed can be opened.**

The tree of a project spells the path of a file by putting names behind the path of the project, and
goes through directories that are no links. So a listed file that is no link itself lies below the
place of the project, a request for its path means that path, and the request is answered from the
file. The one thing that may stand in the way is that confined paths are spelled out from the root:
a place may be so deep that its own path is too long, or lie below a closed directory, though the
listed path is short and passes open directories only.

* `Below`: a path that is made of names behind the path of a directory;
* **`below_of_visited`**: the directories of a tree have such paths, and lead to such places;
* `Listed`, `listed_of_shown`: what the path of a listed file has to do with the root;
* `Service.confine_of_listed`, `Service.graph_of_listed`: a request for such a path;
* **`listed_file_opens`**: what a request for a listed file gives.
-/

import DeclGraph.Proofs.FileSystem.Descent
import DeclGraph.Proofs.Project.Confinement
import DeclGraph.Proofs.Tree.Level
import DeclGraph.Proofs.Tree.Origin

namespace DeclGraph

open FileSystem

variable {files : FileSystem} {root path : Path} {place location : Location} {names : List String}

/-! ### Paths of names behind a path -/

/-- **A path that is made of names behind the path of a directory, and leads to the place below the
place of that directory.** -/
structure Below (files : FileSystem) (root : Path) (place : Location) (path : Path)
    (names : List String) : Prop where
  pieces : path.pieces = root.pieces ++ names
  components : path.components = root.components ++ names.map .name
  absolute : path.isAbsolute = root.isAbsolute
  reaches : files.Reaches false path (place ++ names)

namespace Below

theorem refl (leads : files.resolve true root = .ok place) : Below files root place root [] where
  pieces := (List.append_nil _).symm
  components := (List.append_nil _).symm
  absolute := rfl
  reaches := by
    rw [List.append_nil]
    exact reaches_of_resolve leads

/-- One name more. -/
theorem join (below : Below files root place path names) {name : String} (isName : IsName name)
    (leads : files.resolve true (path.join ⟨name⟩) = .ok location)
    (own : files.isLink (path.join ⟨name⟩) = false) :
    Below files root place (path.join ⟨name⟩) (names ++ [name]) := by
  have found := below.reaches.join isName leads own
  refine ⟨?_, ?_, ?_, ?_⟩
  · rw [Path.pieces_join isName, below.pieces, List.append_assoc]
  · rw [Path.components_join isName, below.components, List.map_append, List.append_assoc]
    rfl
  · rw [Path.isAbsolute_join isName, below.absolute]
  · rw [← List.append_assoc, ← found]
    exact reaches_of_resolve leads

/-- The path is already spelled with the directory in front. -/
theorem startsWith (below : Below files root place path names) : path.startsWith root = true := by
  rw [Path.startsWith, below.components, List.isPrefixOf_iff_prefix]
  exact List.prefix_append _ _

end Below

/-! ### The directories of a tree -/

theorem FileSystem.isDirectory_iff : files.isDirectory path = true ↔
    ∃ location, files.resolve true path = .ok location ∧ (files.closed? location).isSome := by
  unfold isDirectory itemAt?
  cases files.resolve true path with
  | error fault => simp
  | ok location =>
    simp only [Except.ok.injEq, exists_eq_left', closed?]
    cases files.item? location with
    | none => simp
    | some item => cases item <;> simp

theorem FileSystem.isFile_iff : files.isFile path = true ↔
    ∃ location bytes mode, files.resolve true path = .ok location ∧
      files.item? location = some (.regular bytes mode) := by
  unfold isFile itemAt?
  cases files.resolve true path with
  | error fault => simp
  | ok location =>
    simp only [Except.ok.injEq, exists_and_left, exists_eq_left']
    cases files.item? location with
    | none => simp
    | some item => cases item <;> simp

theorem FileSystem.read_of_resolve {bytes : List UInt8} {mode : Mode}
    (leads : files.resolve true path = .ok location)
    (found : files.item? location = some (.regular bytes mode)) (readable : mode.readable = true) :
    files.read path = .ok bytes := by
  simp only [FileSystem.read, leads, bind, Except.bind, found, readItem, readable, if_true]

/-- **The directories of a tree lie below its root.** -/
theorem below_of_visited (proper : files.Proper) {builder : Tree.Builder}
    (leads : files.resolve true root = .ok place)
    (visited : Tree.Visited (builder.level files) files.isLink root path) :
    ∃ names, Below files root place path names := by
  induction visited with
  | root => exact ⟨[], .refl leads⟩
  | deeper visited reads member isDirectory own ih =>
    obtain ⟨names, below⟩ := ih
    obtain ⟨found, isNames, name, inside, isEntry⟩ := (Tree.Builder.mem_level_iff reads).mp member
    have isName : IsName name := proper.isName_of_mem_names isNames inside
    rcases Tree.Builder.entry?_eq_some_iff.mp isEntry with ⟨directory, rfl⟩ | ⟨_, _, rfl⟩
    · obtain ⟨found, leadsThere, _⟩ := isDirectory_iff.mp directory
      exact ⟨_, below.join isName leadsThere own⟩
    · cases isDirectory

/-- **A listed file that is no link itself:** it has a name in a directory below the root. -/
structure Listed (files : FileSystem) (root : Path) (place : Location) (path directory : Path)
    (names : List String) (name : String) : Prop where
  root_leads : files.resolve true root = .ok place
  root_directory : (files.closed? place).isSome
  spelled : path = directory.join ⟨name⟩
  isName : IsName name
  below : Below files root place directory names
  leads : files.resolve true path = .ok (place ++ names ++ [name])

theorem listed_of_shown (proper : files.Proper) {builder : Tree.Builder}
    (isRoot : files.isDirectory root = true)
    (shown : Tree.Shown (builder.level files) files.isLink root path)
    (regular : files.isFile path = true) (own : files.isLink path = false) :
    builder.accepts path = true ∧
      ∃ place directory names name, Listed files root place path directory names name := by
  obtain ⟨place, rootLeads, rootDirectory⟩ := isDirectory_iff.mp isRoot
  obtain ⟨directory, entries, entry, visited, reads, member, notDirectory, rfl⟩ := shown
  obtain ⟨names, below⟩ := below_of_visited proper rootLeads visited
  obtain ⟨_, isNames, name, inside, isEntry⟩ := (Tree.Builder.mem_level_iff reads).mp member
  have isName : IsName name := proper.isName_of_mem_names isNames inside
  rcases Tree.Builder.entry?_eq_some_iff.mp isEntry with ⟨_, rfl⟩ | ⟨_, accepted, rfl⟩
  · cases notDirectory
  · obtain ⟨found, _, _, leadsThere, _⟩ := isFile_iff.mp regular
    have same := below.reaches.join isName leadsThere own
    exact ⟨accepted, place, directory, names, name, rootLeads, rootDirectory, rfl, isName, below,
      same ▸ leadsThere⟩

namespace Listed

variable {directory : Path} {name : String}

/-- The path is already spelled with the root in front. -/
theorem startsWith (listed : Listed files root place path directory names name) :
    path.startsWith root = true := by
  have isPrefix := List.isPrefixOf_iff_prefix.mp listed.below.startsWith
  rw [listed.spelled, Path.startsWith, Path.components_join listed.isName,
    List.isPrefixOf_iff_prefix]
  exact isPrefix.trans (List.prefix_append _ _)

/-- A request for the path means that path. -/
theorem resolve_eq {context : ProjectContext}
    (listed : Listed files context.root place path directory names name) :
    context.resolve path = path := by
  rw [ProjectContext.resolve, listed.startsWith, Bool.or_true, if_pos rfl]

/-- With all paths spelled out, the path leads to the same place, if anywhere, and so does that of
the root. -/
theorem located (listed : Listed files root place path directory names name)
    (leads : files.locate path = .ok location) :
    location = place ++ names ++ [name] ∧ files.locate root = .ok place := by
  have reaches : files.Reaches true path location := reaches_of_resolve leads
  have rootReaches := reaches_of_resolve listed.root_leads
  have absolute : path.isAbsolute = root.isAbsolute := by
    rw [listed.spelled, Path.isAbsolute_join listed.isName, listed.below.absolute]
  have pieces : path.pieces = root.pieces ++ (names ++ [name]) := by
    rw [listed.spelled, Path.pieces_join listed.isName, listed.below.pieces, List.append_assoc]
  obtain ⟨above, aboveReaches⟩ := reaches.above absolute pieces (by simp)
  obtain rfl := aboveReaches.eq_of_spelled rootReaches
  exact ⟨reaches.eq_of_spelled (reaches_of_resolve listed.leads),
    aboveReaches.resolve (resolve_eq_ok_iff.mp listed.root_leads).1.of_plain listed.root_directory⟩

/-- With all paths spelled out, the path leads to the place unless one of them is barred. -/
theorem barred (listed : Listed files root place path directory names name) {fault : FileFault}
    (fails : files.locate path = .error fault) : Barred fault := by
  rcases resolve_spelled listed.leads with same | ⟨other, failsToo, barred⟩
  · rw [locate, same] at fails
    cases fails
  · rw [locate, failsToo] at fails
    cases fails
    exact barred

/-- A place that is looked up by its own path has one that is short enough and open. -/
theorem short_and_open (listed : Listed files root place path directory names name)
    (leads : files.locate path = .ok location) :
    (pathOf location).text.utf8ByteSize ≤ pathLimit ∧ files.isOpenTo (place ++ names) = true := by
  obtain ⟨rfl, _⟩ := listed.located leads
  have reaches : files.Reaches true (directory.join ⟨name⟩) (place ++ names ++ [name]) := by
    rw [← listed.spelled]
    exact reaches_of_resolve leads
  exact reaches.spelled_join listed.isName listed.below.reaches

/-- The place is found again by its own path. -/
theorem resolve_pathOf (listed : Listed files root place path directory names name)
    (proper : files.Proper) (leads : files.locate path = .ok location) :
    files.resolve true (pathOf location) = .ok location := by
  have stands := proper.stands_resolve leads
  obtain ⟨short, isOpen⟩ := listed.short_and_open leads
  obtain ⟨rfl, _⟩ := listed.located leads
  exact proper.resolve_of_open stands isOpen short

/-- The language of the file is told by its name, in either path. -/
theorem ofPath?_pathOf (listed : Listed files root place path directory names name)
    (proper : files.Proper) (leads : files.locate path = .ok location) :
    Language.ofPath? (pathOf location) = Language.ofPath? path := by
  have named := proper.named _ (proper.stands_resolve leads).isSome
  obtain ⟨rfl, _⟩ := listed.located leads
  have ends : (pathOf (place ++ names ++ [name])).fileName? = path.fileName? := by
    rw [listed.spelled, Path.fileName?_join listed.isName, Path.fileName?, components_pathOf named]
    simp [List.getLast?_cons]
  rw [Language.ofPath?, Language.ofPath?, Path.extension?, Path.extension?, ends]

end Listed

/-- A file that is listed for a language is one of that language. -/
theorem ofPath?_of_accepts {language : Language} {limits : Tree.Limits}
    (accepted : (Tree.Builder.ofExtensions language.extensions limits).accepts path = true) :
    Language.ofPath? path = some language := by
  have known : ∀ language : Language, ∀ extension ∈ language.extensions,
      Language.ofExtension? (Tree.Builder.withoutPoints extension) = some language := by
    intro language
    cases language <;> decide +kernel
  obtain ⟨extension, member, ends⟩ := Tree.Builder.accepts_ofExtensions_iff.mp accepted
  rw [Language.ofPath?, ends, Option.bind_some]
  exact known language extension member

/-! ### The graph of a file -/

namespace Extraction

variable {graph : Graph} {error : Error}

/-- A Python file that can be read fails on its contents only. -/
theorem error_of_pythonFile {bytes : List UInt8} (reads : files.read path = .ok bytes)
    (fails : pythonFile files path = .error error) : ∃ reason, error = .parse path reason := by
  unfold pythonFile python graphOfTree at fails
  rw [reads] at fails
  dsimp only at fails
  split at fails
  · cases fails
    exact ⟨_, rfl⟩
  · split at fails
    · cases fails
      exact ⟨_, rfl⟩
    · cases fails

/-- The external parser fails as a tool. -/
theorem error_of_go {launcher : Launcher} {settings : ParserSettings}
    (regular : files.isFile path = true) (fails : go launcher settings files path = .error error) :
    ∃ failure, error = .externalTool path failure := by
  unfold go at fails
  rw [if_pos regular] at fails
  split at fails
  · cases fails
  · cases fails
    exact ⟨_, rfl⟩

/-- The graph of a Python file depends on what is read. -/
theorem pythonFile_eq_ok_iff : pythonFile files path = .ok graph ↔
    ∃ bytes source, files.read path = .ok bytes ∧ Text.Utf8.decode bytes = .ok source ∧
      (Syntax.Tree.ofSource source).firstInvalid? = none ∧
        (Declarations.ofTree (Text.lines source) (Syntax.Tree.ofSource source)).graph = graph := by
  unfold pythonFile python graphOfTree
  cases files.read path with
  | error fault => simp
  | ok bytes =>
    cases decoded : Text.Utf8.decode bytes with
    | error fault => simp [decoded]
    | ok source =>
      cases invalid : (Syntax.Tree.ofSource source).firstInvalid? <;> simp [decoded, invalid]

end Extraction

/-! ### Requests for listed files -/

/-- What the tree of a project lists. -/
theorem Service.shown_of_tree {launcher : Launcher} {config : Config} {project : Project}
    {language : Option Language} {tree : List Entry}
    (lists : (forProject launcher config project).tree files language = .ok tree)
    (listed : path ∈ Entry.filesOfAll tree) :
    files.isDirectory (config.contextOf project).root = true ∧
      ∃ language : Language,
        Tree.Shown ((Tree.Builder.ofExtensions language.extensions config.tree).level files)
          files.isLink (config.contextOf project).root path := by
  have lists : (Tree.Builder.ofExtensions (language.getD config.defaultLanguage).extensions
      config.tree).list files (config.contextOf project).root = .ok tree := lists
  unfold Tree.Builder.list at lists
  split_ifs at lists with directory
  exact ⟨directory, _, Tree.shown_of_mem_list
    (fun _ _ reads _ member => Tree.Builder.fresh_of_mem_level reads member) lists listed⟩

namespace Service

variable {launcher : Launcher} {config : Config} {project : Project} {graph : Graph} {error : Error}

theorem extract_of_python (known : Language.ofPath? path = some .python) :
    (Registry.ofConfig launcher config).extract files path = Extraction.pythonFile files path := by
  unfold Registry.extract Registry.forPath
  rw [known]
  rfl

theorem extract_of_go (known : Language.ofPath? path = some .go) :
    (Registry.ofConfig launcher config).extract files path =
      Extraction.go launcher config.parser files path := by
  unfold Registry.extract Registry.forPath
  rw [known]
  rfl

/-- A file of a known language that can be read fails on its contents or in the external parser
only. -/
theorem kind_of_extract {language : Language} (known : Language.ofPath? path = some language)
    (regular : files.isFile path = true) {bytes : List UInt8} (reads : files.read path = .ok bytes)
    (fails : (Registry.ofConfig launcher config).extract files path = .error error) :
    error.kind = "parse" ∨ error.kind = "external_tool" := by
  cases language with
  | python =>
    rw [extract_of_python known] at fails
    obtain ⟨reason, rfl⟩ := Extraction.error_of_pythonFile reads fails
    exact Or.inl rfl
  | go =>
    rw [extract_of_go known] at fails
    obtain ⟨failure, rfl⟩ := Extraction.error_of_go regular fails
    exact Or.inr rfl

/-- Without confined paths a request is answered from the path it means. -/
theorem graph_eq_of_not_confines (confines : config.confinesPaths = false) (files : FileSystem)
    (path : Path) :
    (forProject launcher config project).graph files path =
      (Registry.ofConfig launcher config).extract files ((config.contextOf project).resolve path) := by
  have unconfined : (forProject launcher config project).confinesPaths = false := confines
  simp only [graph, resolve, context?_forProject, unconfined, Bool.false_eq_true, if_false]
  rfl

section Listed

variable {place : Location} {directory : Path} {names : List String} {name : String}

/-- A listed path that leads somewhere with all paths spelled out is accepted as one of the project. -/
theorem confine_of_listed (proper : files.Proper)
    (listed : Listed files (config.contextOf project).root place path directory names name)
    (leads : files.locate path = .ok location) :
    (config.contextOf project).confine files path = .ok (pathOf location) := by
  obtain ⟨same, rootLeads⟩ := listed.located leads
  have below : place <+: location := by
    rw [same, List.append_assoc]
    exact List.prefix_append _ _
  exact ProjectContext.confine_of_holds proper leads ⟨place, rootLeads, below⟩

/-- A request for a listed path is answered from a path that leads where the listed path leads. -/
theorem graph_of_listed (launcher : Launcher) (proper : files.Proper)
    (listed : Listed files (config.contextOf project).root place path directory names name)
    {language : Language} (known : Language.ofPath? path = some language)
    (fits : config.confinesPaths = true → ∃ location, files.locate path = .ok location) :
    ∃ target, (forProject launcher config project).graph files path =
        (Registry.ofConfig launcher config).extract files target ∧
      files.resolve true target = files.resolve true path ∧
        Language.ofPath? target = some language := by
  have means := listed.resolve_eq
  cases confines : config.confinesPaths with
  | false =>
    refine ⟨path, ?_, rfl, known⟩
    rw [graph_eq_of_not_confines confines, means]
  | true =>
    obtain ⟨location, leads⟩ := fits confines
    refine ⟨pathOf location, ?_, ?_, ?_⟩
    · rw [graph_eq_of_confines confines, means, confine_of_listed proper listed leads]
      rfl
    · rw [listed.resolve_pathOf proper leads, (listed.located leads).1, listed.leads]
    · rw [listed.ofPath?_pathOf proper leads, known]

end Listed

/-- A path that is accepted leads somewhere with all paths spelled out. -/
theorem locate_of_confine {accepted : Path}
    (accepts : (config.contextOf project).confine files path = .ok accepted) :
    ∃ location, files.locate path = .ok location := by
  unfold ProjectContext.confine canonical at accepts
  cases leads : files.locate path with
  | error fault =>
    rw [leads] at accepts
    cases accepts
  | ok location => exact ⟨location, rfl⟩

/-- **Every file that a tree shows can be opened**, if it is a regular file that can be read and no
link itself. A request for its path means that path. The path is accepted as one of the project
exactly if it leads somewhere with all paths spelled out, and only a barred path can keep it from
that. If it does, or if paths are not confined, then a request for it fails on the contents of the
file or in the external parser only, and the graph of a Python file is the one of its listed path.
-/
theorem listed_file_opens (proper : files.Proper) {language : Option Language} {tree : List Entry}
    (lists : (forProject launcher config project).tree files language = .ok tree)
    (listed : path ∈ Entry.filesOfAll tree) (regular : files.isFile path = true)
    (readable : ∃ bytes, files.read path = .ok bytes) (own : files.isLink path = false) :
    (config.contextOf project).resolve path = path ∧
      ((∃ place, (config.contextOf project).confine files path = .ok place) ↔
        ∃ location, files.locate path = .ok location) ∧
      (∀ fault, files.locate path = .error fault → Barred fault) ∧
      ((config.confinesPaths = true → ∃ location, files.locate path = .ok location) →
        (∀ error, (forProject launcher config project).graph files path = .error error →
          error.kind ≠ "outside_project" ∧ error.kind ≠ "not_found" ∧
            error.kind ≠ "unsupported_input") ∧
          (Language.ofPath? path = some .python → ∀ graph,
            (forProject launcher config project).graph files path = .ok graph ↔
              Extraction.pythonFile files path = .ok graph)) := by
  obtain ⟨isRoot, language, shown⟩ := shown_of_tree lists listed
  obtain ⟨accepted, place, directory, names, name, listed⟩ :=
    listed_of_shown proper isRoot shown regular own
  have known := ofPath?_of_accepts accepted
  refine ⟨listed.resolve_eq, ⟨fun ⟨_, accepts⟩ => locate_of_confine accepts,
    fun ⟨_, leads⟩ => ⟨_, confine_of_listed proper listed leads⟩⟩, fun _ => listed.barred,
    fun fits => ?_⟩
  obtain ⟨target, answer, sameResolve, targetKnown⟩ :=
    graph_of_listed launcher proper listed known fits
  have targetRegular : files.isFile target = true := by
    rwa [isFile, itemAt?, sameResolve]
  have sameRead : files.read target = files.read path := by
    rw [FileSystem.read, sameResolve]
    rfl
  obtain ⟨bytes, reads⟩ := readable
  refine ⟨fun error fails => ?_, fun isPython graph => ?_⟩
  · rw [answer] at fails
    have targetReads := sameRead.trans reads
    rcases kind_of_extract targetKnown targetRegular targetReads fails with kind | kind <;>
      rw [kind] <;> decide
  · rw [known, Option.some.injEq] at isPython
    subst isPython
    rw [answer, extract_of_python targetKnown, Extraction.pythonFile_eq_ok_iff,
      Extraction.pythonFile_eq_ok_iff, sameRead]

/-- A project with one file. -/
def tinyFiles : FileSystem where
  items := [
    (["projects"], .directory false),
    (["projects", "demo"], .directory false),
    (["projects", "demo", "a.py"], .file [] false)]

/-- The file is listed, accepted and opened. -/
theorem tiny_file_opens :
    (∃ tree, (forProject printing {} ⟨1, "demo", ""⟩).tree tinyFiles none = .ok tree ∧
        ⟨"projects/demo/a.py"⟩ ∈ Entry.filesOfAll tree) ∧
      (∃ place, (Config.contextOf {} ⟨1, "demo", ""⟩).confine tinyFiles
        ⟨"projects/demo/a.py"⟩ = .ok place) ∧
      ∀ graph, (forProject printing {} ⟨1, "demo", ""⟩).graph tinyFiles
          ⟨"projects/demo/a.py"⟩ = .ok graph ↔
        Extraction.pythonFile tinyFiles ⟨"projects/demo/a.py"⟩ = .ok graph := by
  have proper : tinyFiles.Proper := by decide +kernel
  have shown : ((forProject printing {} ⟨1, "demo", ""⟩).tree tinyFiles none).toOption.map
      Entry.filesOfAll = some [⟨"projects/demo/a.py"⟩] := by decide +kernel
  have leads : tinyFiles.locate ⟨"projects/demo/a.py"⟩ = .ok ["projects", "demo", "a.py"] := by
    decide +kernel
  have regular : tinyFiles.isFile ⟨"projects/demo/a.py"⟩ = true := by decide +kernel
  have reads : tinyFiles.read ⟨"projects/demo/a.py"⟩ = .ok [] := by decide +kernel
  have own : tinyFiles.isLink ⟨"projects/demo/a.py"⟩ = false := by decide +kernel
  cases lists : (forProject printing {} ⟨1, "demo", ""⟩).tree tinyFiles none with
  | error error =>
    rw [lists] at shown
    cases shown
  | ok tree =>
    rw [lists] at shown
    have files : Entry.filesOfAll tree = [⟨"projects/demo/a.py"⟩] := Option.some.inj shown
    have listed : ⟨"projects/demo/a.py"⟩ ∈ Entry.filesOfAll tree := by
      rw [files]
      exact List.mem_singleton_self _
    obtain ⟨_, accepted, _, opens⟩ := listed_file_opens proper lists listed regular ⟨_, reads⟩ own
    exact ⟨⟨tree, rfl, listed⟩, accepted.mpr ⟨_, leads⟩,
      (opens fun _ => ⟨_, leads⟩).2 (by decide +kernel)⟩

end Service

end DeclGraph
