/-
**Files that lie too deep.**

A listed file may lie at a place whose own path is too long, because the listed path is shorter: it
starts in the current directory or goes through links. Such a file is refused when paths are
confined, although it can be read.

* **`listed_file_refused`**: a request for a listed file at such a place fails;
* `deepFiles`: a file system with such a file behind two links;
* **`deep_file_refused`**: the file is listed and refused.
-/

import DeclGraph.Proofs.Project.Listing
import Mathlib.Algebra.Ring.Nat

namespace DeclGraph

open FileSystem

variable {files : FileSystem} {path : Path} {location : Location}

namespace Service

variable {launcher : Launcher} {config : Config} {project : Project}

/-- A request for a path that leads nowhere with all paths spelled out fails. -/
theorem graph_of_locate_error {fault : FileFault} (confines : config.confinesPaths = true)
    (means : (config.contextOf project).resolve path = path)
    (fails : files.locate path = .error fault) :
    (forProject launcher config project).graph files path = .error (.notFound path) := by
  have refused : (config.contextOf project).confine files path = .error (.notFound path) := by
    rw [ProjectContext.confine, canonical, fails]
    rfl
  rw [graph_eq_of_confines confines, means, refused]
  rfl

/-- **A listed file at a place with a path that is too long is refused.** -/
theorem listed_file_refused (confines : config.confinesPaths = true) (proper : files.Proper)
    {language : Option Language} {tree : List Entry}
    (lists : (forProject launcher config project).tree files language = .ok tree)
    (listed : path ∈ Entry.filesOfAll tree) (regular : files.isFile path = true)
    (own : files.isLink path = false) (leads : files.resolve true path = .ok location)
    (deep : pathLimit < (pathOf location).text.utf8ByteSize) :
    (forProject launcher config project).graph files path = .error (.notFound path) := by
  obtain ⟨isRoot, language, shown⟩ := shown_of_tree lists listed
  obtain ⟨_, place, directory, names, name, listed⟩ :=
    listed_of_shown proper isRoot shown regular own
  cases located : files.locate path with
  | error fault => exact graph_of_locate_error confines listed.resolve_eq located
  | ok found =>
    have short := (listed.short_and_open located).1
    rw [(listed.located located).1] at short
    rw [listed.leads, Except.ok.injEq] at leads
    subst leads
    exact absurd short (Nat.not_le.mpr deep)

end Service

/-! ### A file behind two links -/

namespace FileSystem

/-- A name of two hundred and fifty letters. -/
def longName (c : Char) : String := String.ofList (List.replicate 250 c)

/-- The upper directories on the way to the project. -/
def upperNames : Location := List.replicate 8 (longName 'd')

/-- The lower directories on the way to the project. -/
def lowerNames : Location := List.replicate 10 (longName 'b')

/-- The directory of the project. Its path is too long. -/
def deepDirectory : Location := upperNames ++ (lowerNames ++ ["demo"])

/-- A file in the directory. The link `x` leads half the way down, and the link `y` on from there. -/
def deepFiles : FileSystem where
  items :=
    (["x"], .link ("/".intercalate upperNames)) ::
    (["y"], .link ("/".intercalate ("x" :: lowerNames))) ::
    (deepDirectory ++ ["a.py"], .file [] false) ::
    (List.range deepDirectory.length).map fun length =>
      (deepDirectory.take (length + 1), .directory false)

/-! ### Long names -/

theorem isName_longName {c : Char} (size : (longName c).utf8ByteSize = 250) (plain : c ≠ '/')
    (noZero : c ≠ '\x00') : IsName (longName c) := by
  have different : ∀ {other : String}, other.utf8ByteSize ≠ 250 → longName c ≠ other := by
    rintro other differs rfl
    exact differs size
  have letters : ∀ d, d ≠ c → d ∉ (longName c).toList := by
    intro d other member
    rw [longName, String.toList_ofList] at member
    exact other (List.eq_of_mem_replicate member)
  exact ⟨different (by decide), letters _ plain.symm, different (by decide), different (by decide),
    letters _ noZero.symm, by rw [size]; decide⟩

theorem size_d : (longName 'd').utf8ByteSize = 250 := by decide +kernel

theorem size_b : (longName 'b').utf8ByteSize = 250 := by decide +kernel

theorem isName_upperNames : ∀ name ∈ upperNames, IsName name := by
  intro name member
  rw [List.eq_of_mem_replicate member]
  exact isName_longName size_d (by decide) (by decide)

theorem isName_lowerNames : ∀ name ∈ lowerNames, IsName name := by
  intro name member
  rw [List.eq_of_mem_replicate member]
  exact isName_longName size_b (by decide) (by decide)

theorem isName_deepDirectory : ∀ name ∈ deepDirectory, IsName name := by
  intro name member
  simp only [deepDirectory, List.mem_append, List.mem_singleton] at member
  rcases member with upper | lower | rfl
  · exact isName_upperNames name upper
  · exact isName_lowerNames name lower
  · decide

theorem length_deepDirectory : deepDirectory.length = 19 := by
  simp [deepDirectory, upperNames, lowerNames]

/-- The size of the path of a location other than the root. -/
theorem utf8ByteSize_pathOf (below : location ≠ []) :
    (pathOf location).text.utf8ByteSize =
      (location.map fun name => name.utf8ByteSize + 1).sum := by
  have slash : "/".utf8ByteSize = 1 := by decide
  induction location with
  | nil => exact absurd rfl below
  | cons first rest ih =>
    cases rest with
    | nil => simp [pathOf, String.utf8ByteSize_append, slash, Nat.add_comm]
    | cons second rest =>
      have behind := ih (List.cons_ne_nil _ _)
      simp only [pathOf, String.utf8ByteSize_append, slash] at behind
      rw [pathOf, String.intercalate_cons_cons, List.map_cons, List.sum_cons, ← behind]
      simp only [String.utf8ByteSize_append, slash]
      omega

/-- The path of the file is too long. -/
theorem size_pathOf_deep :
    pathLimit < (pathOf (deepDirectory ++ ["a.py"])).text.utf8ByteSize := by
  have demo : "demo".utf8ByteSize = 4 := by decide
  have file : "a.py".utf8ByteSize = 4 := by decide
  rw [utf8ByteSize_pathOf (by simp)]
  simp [deepDirectory, upperNames, lowerNames, size_d, size_b, demo, file, pathLimit]

/-! ### What stands in the file system -/

/-- The root is open where no item says otherwise. -/
theorem item?_root (free : ∀ item, ([], item) ∉ files.items) :
    files.item? [] = some (.directory false) := by
  have nothing : (files.items.find? fun entry => entry.1 == []) = none := by
    rw [List.find?_eq_none]
    rintro ⟨place, item⟩ member root
    obtain rfl : place = [] := by simpa using root
    exact free item member
  rw [item?, nothing]
  rfl

/-- The directories on the way to the project have long names. -/
theorem not_isPrefix_deepDirectory {name : String} (short : name.utf8ByteSize < 250) :
    ¬ [name] <+: deepDirectory := by
  intro above
  have first : name = longName 'd' := (List.cons_prefix_cons.mp above).1
  rw [first, size_d] at short
  exact lt_irrefl _ short

theorem mem_items_deepFiles {item : Item} : (location, item) ∈ deepFiles.items ↔
    location = ["x"] ∧ item = .link ("/".intercalate upperNames) ∨
      location = ["y"] ∧ item = .link ("/".intercalate ("x" :: lowerNames)) ∨
        location = deepDirectory ++ ["a.py"] ∧ item = .file [] false ∨
          location ≠ [] ∧ location <+: deepDirectory ∧ item = .directory false := by
  have directories : (∃ length < deepDirectory.length,
      deepDirectory.take (length + 1) = location ∧ .directory false = item) ↔
        location ≠ [] ∧ location <+: deepDirectory ∧ item = .directory false := by
    constructor
    · rintro ⟨length, inside, rfl, rfl⟩
      refine ⟨fun empty => ?_, List.take_prefix _ _, rfl⟩
      have := congrArg List.length empty
      simp only [List.length_take, List.length_nil] at this
      omega
    · rintro ⟨nonempty, above, rfl⟩
      have positive := List.length_pos_of_ne_nil nonempty
      refine ⟨location.length - 1, by have := above.length_le; omega, ?_, rfl⟩
      rw [Nat.sub_add_cancel positive]
      exact (List.prefix_iff_eq_take.mp above).symm
  simp only [deepFiles, List.mem_cons, List.mem_map, List.mem_range, Prod.mk.injEq, directories]

theorem distinct_deepFiles : (deepFiles.items.map Prod.fst).Nodup := by
  have noLink : ∀ {name : String}, name.utf8ByteSize < 250 → ∀ length,
      deepDirectory.take (length + 1) ≠ [name] := by
    intro name short length same
    exact not_isPrefix_deepDirectory short (same ▸ List.take_prefix _ _)
  have noFile : ∀ length, deepDirectory.take length ≠ deepDirectory ++ ["a.py"] := by
    intro length same
    have lengths := congrArg List.length same
    simp only [List.length_take, List.length_append, List.length_singleton] at lengths
    omega
  have directories : ((List.range deepDirectory.length).map fun length =>
      deepDirectory.take (length + 1)).Nodup := by
    refine List.nodup_range.map_on fun first inFirst second inSecond same => ?_
    have lengths := congrArg List.length same
    rw [List.mem_range] at inFirst inSecond
    simp only [List.length_take] at lengths
    omega
  have links : ∀ name : String, [name] ≠ deepDirectory ++ ["a.py"] := by
    intro name same
    have lengths := congrArg List.length same
    simp [length_deepDirectory] at lengths
  simp only [deepFiles, List.map_cons, List.map_map, List.nodup_cons, List.mem_cons, List.mem_map,
    Function.comp_def, not_or, not_exists, not_and]
  refine ⟨⟨by decide, links _, fun length _ => noLink (by decide) length⟩,
    ⟨links _, fun length _ => noLink (by decide) length⟩, fun length _ => noFile _, directories⟩

theorem item?_deepFiles (above : location <+: deepDirectory) :
    deepFiles.item? location = some (.directory false) := by
  by_cases root : location = []
  · rw [root]
    refine item?_root fun item member => ?_
    simpa using mem_items_deepFiles.mp member
  · exact item?_of_mem distinct_deepFiles (mem_items_deepFiles.mpr (by simp [root, above]))

theorem closed?_deepFiles (above : location <+: deepDirectory) :
    deepFiles.closed? location = some false :=
  closed?_eq_some_iff.mpr ⟨_, item?_deepFiles above, rfl⟩

theorem proper_deepFiles : deepFiles.Proper := by
  have directory : ∀ above, above <+: deepDirectory → (deepFiles.closed? above).isSome := by
    intro above isAbove
    rw [closed?_deepFiles isAbove]
    rfl
  refine proper_iff.mpr ⟨directory _ List.nil_prefix, directory _ List.nil_prefix, ?_⟩
  rintro ⟨location, item⟩ member
  dsimp only
  rcases mem_items_deepFiles.mp member with ⟨rfl, _⟩ | ⟨rfl, _⟩ | ⟨rfl, _⟩ | ⟨_, above, _⟩
  · exact ⟨directory _ List.nil_prefix, by simp; decide⟩
  · exact ⟨directory _ List.nil_prefix, by simp; decide⟩
  · refine ⟨directory _ (by rw [List.dropLast_concat]), fun name isPart => ?_⟩
    rcases List.mem_append.mp isPart with inside | last
    · exact isName_deepDirectory name inside
    · rw [List.mem_singleton.mp last]
      decide
  · exact ⟨directory _ ((List.dropLast_prefix _).trans above),
      fun name isPart => isName_deepDirectory name (above.subset isPart)⟩

/-! ### Where the paths lead -/

/-- A link in the root to names below the root, with more names behind it. -/
theorem walkLinks_link {follow : Bool} {links : Nat} {name : String} {names rest : List String}
    (isName : IsName name) (isOpen : files.closed? [] = some false)
    (found : files.item? [name] = some (.link ("/".intercalate names)))
    (below : names ≠ []) (isNames : ∀ name ∈ names, IsName name) (more : rest ≠ []) :
    files.walkLinks follow false (links + 1) [] (name :: rest) =
      files.walkLinks follow false links [] (names ++ rest) := by
  have goesOn : rest.isEmpty = false := by simp [more]
  have nonempty : "/".intercalate names ≠ "" := by
    intro empty
    have pieces := piecesOf_intercalate isNames below
    rw [empty, show piecesOf ⟨""⟩ = [] by decide] at pieces
    exact below pieces.symm
  have start : startOf [] ⟨"/".intercalate names⟩ = [] := ite_self _
  have moves : files.move false [] name = .ok (.link ("/".intercalate names)) := by
    rw [move_of_open isName isOpen, List.nil_append, found]
  rw [walkLinks, walk, moves]
  simp only [goesOn, Bool.false_and, Bool.false_eq_true, if_false, String.isEmpty_iff, nonempty,
    start, piecesOf_intercalate isNames below]

/-- The link `y` leads down to the project, through the link `x`. -/
theorem resolve_deepFiles {follow : Bool} {rest : List String} (admissible : Admissible false path)
    (pieces : piecesOf path = "y" :: rest) (more : rest ≠ [])
    (spelled : location = upperNames ++ (lowerNames ++ rest)) (stands : deepFiles.Stands location)
    (isOpen : ∀ above, above <+: location → above ≠ location →
      deepFiles.closed? above = some false) :
    deepFiles.resolve follow path = .ok location := by
  have root : deepFiles.closed? [] = some false := closed?_deepFiles List.nil_prefix
  have x := item?_of_mem distinct_deepFiles (mem_items_deepFiles.mpr (Or.inl ⟨rfl, rfl⟩))
  have y := item?_of_mem distinct_deepFiles (mem_items_deepFiles.mpr (Or.inr (Or.inl ⟨rfl, rfl⟩)))
  have start : startOf deepFiles.current path = [] := ite_self _
  have names : ∀ name ∈ "x" :: lowerNames, IsName name :=
    List.forall_mem_cons.mpr ⟨by decide, isName_lowerNames⟩
  have walks : deepFiles.walk follow false [] location = .ok (.found location) :=
    proper_deepFiles.walk_open stands isOpen
  refine resolve_eq_ok_iff.mpr ⟨admissible, ?_⟩
  rw [start, pieces, linkLimit,
    walkLinks_link (by decide) root y (List.cons_ne_nil _ _) names more, List.cons_append,
    walkLinks_link (by decide) root x (by simp [upperNames]) isName_upperNames (by simp [more]),
    ← spelled, walkLinks, walks]

theorem resolve_deepDirectory {follow : Bool} :
    deepFiles.resolve follow ⟨"y/demo"⟩ = .ok deepDirectory :=
  resolve_deepFiles ⟨by decide, by decide, fun _ => by decide⟩ (by decide) (List.cons_ne_nil _ _) rfl
    (stands_of_directory (by rw [closed?_deepFiles (List.prefix_refl _)]; rfl))
    fun _ isAbove _ => closed?_deepFiles isAbove

theorem item?_deepFile :
    deepFiles.item? (deepDirectory ++ ["a.py"]) = some (.file [] false) :=
  item?_of_mem distinct_deepFiles (mem_items_deepFiles.mpr (by simp))

theorem resolve_deepFile {follow : Bool} :
    deepFiles.resolve follow ⟨"y/demo/a.py"⟩ = .ok (deepDirectory ++ ["a.py"]) := by
  have pieces : piecesOf ⟨"y/demo/a.py"⟩ = "y" :: ["demo", "a.py"] := by decide
  exact resolve_deepFiles ⟨by decide, by decide, fun _ => by decide⟩ pieces (List.cons_ne_nil _ _)
    (by simp [deepDirectory]) ⟨_, item?_deepFile, by simp⟩
    fun _ isAbove other => closed?_deepFiles ((List.prefix_concat_iff.mp isAbove).resolve_left other)

/-! ### What is listed -/

theorem nameIn?_of_length {directory : Location} (short : location.length ≤ directory.length) :
    nameIn? directory location = none := by
  unfold nameIn?
  cases last : location.getLast? with
  | none => rfl
  | some name =>
    obtain ⟨above, rfl⟩ := List.getLast?_eq_some_iff.mp last
    refine if_neg fun inside => ?_
    rw [List.dropLast_concat] at inside
    rw [inside, List.length_append] at short
    exact absurd short (Nat.not_succ_le_self _)

theorem namesIn_deepDirectory : deepFiles.namesIn deepDirectory = ["a.py"] := by
  have link : ∀ name : String, nameIn? deepDirectory [name] = none := fun name =>
    nameIn?_of_length (by simp [length_deepDirectory])
  have file : nameIn? deepDirectory (deepDirectory ++ ["a.py"]) = some "a.py" := by simp [nameIn?]
  have directories : ∀ length, nameIn? deepDirectory (deepDirectory.take length) = none :=
    fun length => nameIn?_of_length (List.length_take_le' _ _)
  simp [namesIn, deepFiles, link, file, directories, List.filterMap_map]

theorem isDirectory_deepFile : deepFiles.isDirectory ⟨"y/demo/a.py"⟩ = false := by
  rw [isDirectory, itemAt?, resolve_deepFile]
  simp only [item?_deepFile]

end FileSystem

namespace Service

/-- The tree of the project has one file. -/
theorem tree_deepFiles :
    (forProject printing { projectsRoot := ⟨"y"⟩ } ⟨1, "demo", ""⟩).tree deepFiles none =
      .ok [.file "a.py" ⟨"y/demo/a.py"⟩] := by
  have root : (Config.contextOf { projectsRoot := ⟨"y"⟩ } ⟨1, "demo", ""⟩).root = ⟨"y/demo"⟩ := by
    decide +kernel
  have spelled : Path.join ⟨"y/demo"⟩ ⟨"a.py"⟩ = ⟨"y/demo/a.py"⟩ := by decide +kernel
  have accepts : (Tree.Builder.ofExtensions Language.python.extensions {}).accepts
      ⟨"y/demo/a.py"⟩ = true := by decide +kernel
  have isOpen := closed?_deepFiles (List.prefix_refl _)
  have names : deepFiles.names ⟨"y/demo"⟩ = .ok ["a.py"] := by
    exact names_eq_ok_iff.mpr ⟨_, resolve_deepDirectory,
      ⟨_, item?_deepFiles (List.prefix_refl _), rfl⟩, namesIn_deepDirectory⟩
  have entry : Tree.Builder.entry? (.ofExtensions Language.python.extensions {}) deepFiles
      ⟨"y/demo"⟩ "a.py" = some (.file "a.py" ⟨"y/demo/a.py"⟩) := by
    rw [Tree.Builder.entry?_eq_some_iff, spelled]
    exact Or.inr ⟨isDirectory_deepFile, accepts, rfl⟩
  have directory : deepFiles.isDirectory ⟨"y/demo"⟩ = true :=
    isDirectory_iff.mpr ⟨_, resolve_deepDirectory, by rw [isOpen]; rfl⟩
  show (Tree.Builder.ofExtensions Language.python.extensions {}).list deepFiles
    (Config.contextOf { projectsRoot := ⟨"y"⟩ } ⟨1, "demo", ""⟩).root = _
  rw [root, Tree.Builder.list, if_pos directory]
  exact Tree.list_of_files (Tree.Builder.level_of_single names entry)
    (by simp [Entry.file, Entry.isDirectory, Entry.kind]) (by decide)

/-- **A file that is listed and refused.** It is a regular file that can be read, and no link
itself. -/
theorem deep_file_refused :
    deepFiles.Proper ∧
      (∃ tree, (forProject printing { projectsRoot := ⟨"y"⟩ } ⟨1, "demo", ""⟩).tree deepFiles none =
          .ok tree ∧ ⟨"y/demo/a.py"⟩ ∈ Entry.filesOfAll tree) ∧
      deepFiles.isFile ⟨"y/demo/a.py"⟩ = true ∧ deepFiles.read ⟨"y/demo/a.py"⟩ = .ok [] ∧
      deepFiles.isLink ⟨"y/demo/a.py"⟩ = false ∧
      (forProject printing { projectsRoot := ⟨"y"⟩ } ⟨1, "demo", ""⟩).graph deepFiles
          ⟨"y/demo/a.py"⟩ = .error (.notFound ⟨"y/demo/a.py"⟩) := by
  have listed : ⟨"y/demo/a.py"⟩ ∈ Entry.filesOfAll [.file "a.py" ⟨"y/demo/a.py"⟩] := by
    simp [Entry.filesOfAll, Entry.file, Entry.filesBelow]
  have regular : deepFiles.isFile ⟨"y/demo/a.py"⟩ = true :=
    isFile_iff.mpr ⟨_, _, _, resolve_deepFile, item?_deepFile⟩
  have own : deepFiles.isLink ⟨"y/demo/a.py"⟩ = false := by
    rw [isLink, itemAt?, resolve_deepFile]
    simp only [item?_deepFile]
  exact ⟨proper_deepFiles, ⟨_, tree_deepFiles, listed⟩, regular,
    read_of_resolve resolve_deepFile item?_deepFile rfl, own,
    listed_file_refused rfl proper_deepFiles tree_deepFiles listed regular own resolve_deepFile
      size_pathOf_deep⟩

end Service

end DeclGraph
