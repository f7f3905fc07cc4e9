/-
**Which files an index tells of.**

Two choices are made for a file. A listing takes it if its extension, as it is written, is one of
those that the registry names; the registry has an extractor for it if its extension in lower case is
one of them. So the index of a directory tells of all files that some extractor takes exactly if
their extensions are written in lower case.

* `Registry.Takes`: some extractor takes a file;
* **`Registry.accepts_iff`**: the files that a listing takes;
* `FileSystem.HoldsFile`: the files below a directory;
* `Tree.Builder.finds_iff_holdsFile`: the files in the tree of a directory;
* **`Index.mem_paths_iff`**: the files that an index tells of;
* **`Index.coverage`**: when an index tells of all files that some extractor takes.
-/

import DeclGraph.Proofs.Extraction.Registrations
import DeclGraph.Proofs.Index.Files
import DeclGraph.Proofs.Tree.Recursion

namespace DeclGraph

open FileSystem

variable {registry : Registry} {files : FileSystem} {limits : Tree.Limits} {root path other : Path}
  {extension : String} {language : Language}

/-! ### The extensions of a language -/

/-- The extension of a path is written in lower case. -/
def Path.HasLowerExtension (path : Path) : Prop :=
  ∃ extension, path.extension? = some extension ∧ Text.lowercase extension = extension

/-- Paths with the same components have the same extension. -/
theorem Path.extension?_eq_of_same (same : path.same other = true) :
    path.extension? = other.extension? := by
  rw [extension?, extension?, fileName?, fileName?, same_eq_true_iff.mp same]

namespace Language

theorem ofExtension?_eq_some_iff :
    ofExtension? extension = some language ↔ Text.lowercase extension ∈ language.extensions := by
  unfold ofExtension?
  cases language <;> simp only [extensions, List.mem_singleton, List.find?_cons] <;> grind

theorem lowercase_of_mem_extensions (member : extension ∈ language.extensions) :
    Text.lowercase extension = extension := by
  cases language <;> rw [List.mem_singleton.mp member] <;> decide +kernel

theorem withoutPoints_of_mem_extensions (member : extension ∈ language.extensions) :
    Tree.Builder.withoutPoints extension = extension := by
  cases language <;> rw [List.mem_singleton.mp member] <;> decide +kernel

end Language

/-! ### The two choices -/

namespace Registry

/-- Some extractor takes a file. -/
def Takes (registry : Registry) (path : Path) : Prop :=
  ∃ extractor, registry.forPath path = .ok extractor

theorem takes_iff_isSome :
    registry.Takes path ↔ ((Language.ofPath? path).bind registry.forLanguage?).isSome := by
  unfold Takes forPath
  cases (Language.ofPath? path).bind registry.forLanguage? <;> simp

/-- An extractor takes a file if the extension in lower case is one of those that are named. -/
theorem takes_iff : registry.Takes path ↔
    ∃ extension, path.extension? = some extension ∧
      Text.lowercase extension ∈ registry.extensions := by
  rw [takes_iff_isSome, Language.ofPath?]
  cases path.extension? with
  | none => simp
  | some extension =>
    simp only [Option.bind_some, Option.some.injEq, exists_eq_left', extensions, List.mem_flatMap]
    constructor
    · intro found
      cases known : Language.ofExtension? extension with
      | none =>
        rw [known] at found
        cases found
      | some language =>
        rw [known] at found
        exact ⟨language, forLanguage?_isSome_iff.mp found,
          Language.ofExtension?_eq_some_iff.mp known⟩
    · rintro ⟨language, isRegistered, member⟩
      rw [Language.ofExtension?_eq_some_iff.mpr member]
      exact forLanguage?_isSome_iff.mpr isRegistered

/-- The components of a path are all that the choice of an extractor depends on. -/
theorem takes_of_same (same : other.same path = true) (takes : registry.Takes other) :
    registry.Takes path := by
  rw [takes_iff] at takes ⊢
  rwa [← Path.extension?_eq_of_same same]

/-- A listing takes a file if the extension as it is written is one of those that are named. -/
theorem accepts_iff_mem :
    (Tree.Builder.ofExtensions registry.extensions limits).accepts path = true ↔
      ∃ extension, path.extension? = some extension ∧ extension ∈ registry.extensions := by
  have plain : ∀ extension ∈ registry.extensions,
      Tree.Builder.withoutPoints extension = extension := by
    intro extension member
    obtain ⟨language, _, member⟩ := List.mem_flatMap.mp member
    exact Language.withoutPoints_of_mem_extensions member
  rw [Tree.Builder.accepts_ofExtensions_iff]
  constructor
  · rintro ⟨extension, member, ends⟩
    rw [plain extension member] at ends
    exact ⟨extension, ends, member⟩
  · rintro ⟨extension, ends, member⟩
    rw [← plain extension member] at ends
    exact ⟨extension, member, ends⟩

/-- **A listing takes a file exactly if some extractor does and the extension is written in lower
case.** -/
theorem accepts_iff (registry : Registry) (limits : Tree.Limits) (path : Path) :
    (Tree.Builder.ofExtensions registry.extensions limits).accepts path = true ↔
      registry.Takes path ∧ path.HasLowerExtension := by
  rw [accepts_iff_mem, takes_iff, Path.HasLowerExtension]
  constructor
  · rintro ⟨extension, ends, member⟩
    obtain ⟨language, _, named⟩ := List.mem_flatMap.mp member
    have lower := Language.lowercase_of_mem_extensions named
    exact ⟨⟨extension, ends, lower.symm ▸ member⟩, extension, ends, lower⟩
  · rintro ⟨⟨extension, ends, member⟩, other, endsToo, lower⟩
    rw [ends, Option.some.injEq] at endsToo
    subst endsToo
    exact ⟨extension, ends, lower ▸ member⟩

end Registry

/-! ### The files below a directory -/

/-- **The files below a directory**, so many levels deep, through directories that are no links. -/
inductive FileSystem.HoldsFile (files : FileSystem) : Nat → Path → Path → Prop
  | here {depth : Nat} {directory : Path} {names : List String} {name : String} :
      files.names directory = .ok names → name ∈ names →
        files.isDirectory (directory.join ⟨name⟩) = false →
          HoldsFile files depth directory (directory.join ⟨name⟩)
  | deeper {depth : Nat} {directory path : Path} {names : List String} {name : String} :
      files.names directory = .ok names → name ∈ names →
        files.isDirectory (directory.join ⟨name⟩) = true →
          files.isLink (directory.join ⟨name⟩) = false →
            HoldsFile files depth (directory.join ⟨name⟩) path →
              HoldsFile files (depth + 1) directory path

namespace Tree.Builder

variable {builder : Builder} {directory : Path} {depth : Nat}

/-- A file is in the tree of a directory, so many levels deep. -/
def Finds (builder : Builder) (files : FileSystem) (depth : Nat) (directory path : Path) : Prop :=
  ∃ tree, listBelow (builder.level files) files.isLink depth directory = some tree ∧
    path ∈ Entry.filesOfAll tree

/-- The files that a name brings into the tree of a directory. -/
theorem finds_below_name_iff {name : String} :
    (∃ entry, builder.entry? files directory name = some entry ∧
        ∃ settled, entryBelow files.isLink
            (listBelow (builder.level files) files.isLink (depth - 1)) (decide (0 < depth)) entry =
              some settled ∧ path ∈ settled.filesBelow) ↔
      files.isDirectory (directory.join ⟨name⟩) = false ∧
          builder.accepts (directory.join ⟨name⟩) = true ∧ path = directory.join ⟨name⟩ ∨
        files.isDirectory (directory.join ⟨name⟩) = true ∧
          files.isLink (directory.join ⟨name⟩) = false ∧ 0 < depth ∧
            builder.Finds files (depth - 1) (directory.join ⟨name⟩) path := by
  constructor
  · rintro ⟨entry, named, settled, becomes, below⟩
    rw [entryBelow_of_fresh (spelled_of_isEntry named).2.2] at becomes
    rcases entry?_eq_some_iff.mp named with ⟨isDirectory, rfl⟩ | ⟨notDirectory, accepted, rfl⟩
    · right
      split_ifs at becomes with entered
      · obtain ⟨children, lists, rfl⟩ := Option.map_eq_some_iff.mp becomes
        simp only [Bool.and_eq_true, Bool.not_eq_true', decide_eq_true_eq] at entered
        exact ⟨isDirectory, entered.1.2, entered.2, children, lists, below⟩
      · cases becomes
        cases below
    · left
      cases becomes
      exact ⟨notDirectory, accepted, List.mem_singleton.mp below⟩
  · rintro (⟨notDirectory, accepted, rfl⟩ | ⟨isDirectory, own, deep, tree, lists, below⟩)
    · exact ⟨_, entry?_eq_some_iff.mpr (Or.inr ⟨notDirectory, accepted, rfl⟩), _, rfl,
        List.mem_singleton_self _⟩
    · refine ⟨_, entry?_eq_some_iff.mpr (Or.inl ⟨isDirectory, rfl⟩),
        (Entry.directory name (directory.join ⟨name⟩)).withChildren tree, ?_, below⟩
      have entered : ((Entry.directory name (directory.join ⟨name⟩)).isDirectory &&
          !files.isLink (Entry.directory name (directory.join ⟨name⟩)).path &&
            decide (0 < depth)) = true := by
        simp [Entry.isDirectory, Entry.kind, Entry.directory, Entry.path, own, deep]
      rw [entryBelow_of_fresh (.directory _ _), if_pos entered]
      show (listBelow _ _ _ (directory.join ⟨name⟩)).map _ = _
      rw [lists]
      rfl

/-- What is in the tree of a directory is one of its files, or is in the tree of a directory in
it. -/
theorem finds_iff : builder.Finds files depth directory path ↔
    ∃ names, files.names directory = .ok names ∧ ∃ name ∈ names,
      files.isDirectory (directory.join ⟨name⟩) = false ∧
          builder.accepts (directory.join ⟨name⟩) = true ∧ path = directory.join ⟨name⟩ ∨
        files.isDirectory (directory.join ⟨name⟩) = true ∧
          files.isLink (directory.join ⟨name⟩) = false ∧ 0 < depth ∧
            builder.Finds files (depth - 1) (directory.join ⟨name⟩) path := by
  simp only [← finds_below_name_iff]
  rw [Finds, listBelow_eq]
  constructor
  · rintro ⟨tree, lists, member⟩
    obtain ⟨entries, reads, rfl⟩ := Option.map_eq_some_iff.mp lists
    obtain ⟨settled, isSettled, below⟩ := Entry.mem_filesOfAll_iff.mp member
    obtain ⟨entry, isEntry, becomes⟩ := List.mem_filterMap.mp isSettled
    have reads : builder.level files directory = .ok entries := by
      cases reading : builder.level files directory <;> rw [reading] at reads <;> cases reads
      rfl
    obtain ⟨names, isNames, name, isName, named⟩ := (mem_level_iff reads).mp isEntry
    exact ⟨names, isNames, name, isName, entry, named, settled, becomes, below⟩
  · rintro ⟨names, isNames, name, isName, entry, named, settled, becomes, below⟩
    obtain ⟨entries, reads⟩ : ∃ entries, builder.level files directory = .ok entries :=
      ⟨_, level_eq_ok_iff.mpr ⟨names, isNames, rfl⟩⟩
    have isEntry := (mem_level_iff reads).mpr ⟨names, isNames, name, isName, named⟩
    rw [reads]
    exact ⟨_, rfl, Entry.mem_filesOfAll_iff.mpr
      ⟨settled, List.mem_filterMap.mpr ⟨entry, isEntry, becomes⟩, below⟩⟩

/-- **The tree of a directory shows the files below it that are accepted.** -/
theorem finds_iff_holdsFile : builder.Finds files depth directory path ↔
    files.HoldsFile depth directory path ∧ builder.accepts path = true := by
  constructor
  · intro finds
    induction depth generalizing directory with
    | zero =>
      obtain ⟨names, isNames, name, isName, ⟨notDirectory, accepted, rfl⟩ | ⟨_, _, deep, _⟩⟩ :=
        finds_iff.mp finds
      · exact ⟨.here isNames isName notDirectory, accepted⟩
      · cases deep
    | succ depth ih =>
      obtain ⟨names, isNames, name, isName, ⟨notDirectory, accepted, rfl⟩ |
        ⟨isDirectory, own, _, below⟩⟩ := finds_iff.mp finds
      · exact ⟨.here isNames isName notDirectory, accepted⟩
      · obtain ⟨holds, accepted⟩ := ih below
        exact ⟨.deeper isNames isName isDirectory own holds, accepted⟩
  · rintro ⟨holds, accepted⟩
    induction holds with
    | here isNames isName notDirectory =>
      exact finds_iff.mpr ⟨_, isNames, _, isName, Or.inl ⟨notDirectory, accepted, rfl⟩⟩
    | deeper isNames isName isDirectory own _ ih =>
      exact finds_iff.mpr
        ⟨_, isNames, _, isName, Or.inr ⟨isDirectory, own, Nat.succ_pos _, ih accepted⟩⟩

end Tree.Builder

/-! ### The files of an index -/

namespace Index

variable {listed : List Path} {index : Index}

/-- **The number of entries below a root is within the limit**, as many levels deep as the other
limit allows. -/
def Fits (registry : Registry) (files : FileSystem) (limits : Tree.Limits) (root : Path) : Prop :=
  Tree.metBelow ((Tree.Builder.ofExtensions registry.extensions limits).level files) files.isLink
    limits.depth root ≤ limits.entries

/-- **The files that are listed** are those below the root that some extractor takes, as far as their
extensions are written in lower case. -/
theorem mem_paths_iff (lists : paths registry files limits root = .ok listed)
    (fits : Fits registry files limits root) :
    path ∈ listed ↔ files.HoldsFile limits.depth root path ∧ registry.Takes path ∧
      path.HasLowerExtension := by
  obtain ⟨tree, listsTree, rfl⟩ := paths_eq_ok_iff.mp lists
  have below := Tree.listBelow_of_list
    (fun _ _ reads _ member => Tree.Builder.fresh_of_mem_level reads member) fits
    (Tree.Builder.list_eq_ok_iff.mp listsTree).2
  have accepts := fun path => registry.accepts_iff limits path
  rw [← accepts, ← Tree.Builder.finds_iff_holdsFile]
  constructor
  · exact fun member => ⟨tree, below, member⟩
  · rintro ⟨other, lists, member⟩
    rw [below] at lists
    cases lists
    exact member

/-- Every listed file is one that some extractor takes, whatever the limits are. -/
theorem takes_of_mem_paths (lists : paths registry files limits root = .ok listed)
    (member : path ∈ listed) : registry.Takes path := by
  obtain ⟨tree, listsTree, rfl⟩ := paths_eq_ok_iff.mp lists
  obtain ⟨directory, entries, entry, _, reads, isEntry, notDirectory, rfl⟩ :=
    Tree.shown_of_mem_list (fun _ _ reads _ member => Tree.Builder.fresh_of_mem_level reads member)
      (Tree.Builder.list_eq_ok_iff.mp listsTree).2 member
  obtain ⟨_, _, name, _, named⟩ := (Tree.Builder.mem_level_iff reads).mp isEntry
  rcases Tree.Builder.entry?_eq_some_iff.mp named with ⟨_, rfl⟩ | ⟨_, accepted, rfl⟩
  · cases notDirectory
  · exact ((Registry.accepts_iff _ _ _).mp accepted).1

/-- An index tells of a path, either its graph or why there is none. -/
def TellsOf (index : Index) (path : Path) : Prop :=
  (index.graph? path).isSome ∨ (index.failure? path).isSome

theorem tellsOf_ofFiles_iff (apart : listed.Pairwise fun path other => path.same other = false) :
    (ofFiles registry files listed).TellsOf path ↔ ∃ other ∈ listed, other.same path = true := by
  unfold TellsOf
  simp only [Option.isSome_iff_exists, graph?_ofFiles_iff apart, failure?_ofFiles_iff apart]
  constructor
  · rintro (⟨_, other, isOther, same, _⟩ | ⟨_, other, isOther, same, _⟩) <;>
      exact ⟨other, isOther, same⟩
  · rintro ⟨other, isOther, same⟩
    cases extracts : registry.extract files other with
    | ok graph => exact Or.inl ⟨graph, other, isOther, same, extracts⟩
    | error error => exact Or.inr ⟨_, other, isOther, same, error, extracts, rfl⟩

/-- **An index tells of all files that some extractor takes exactly if their extensions are written in
lower case.** The choice of files and the choice of extractors differ for the other paths only, and
every file that an index tells of has its extractor. -/
theorem coverage (registry : Registry) (limits : Tree.Limits) :
    (∀ path, ((Tree.Builder.ofExtensions registry.extensions limits).accepts path = true ↔
        registry.Takes path) ↔ (registry.Takes path → path.HasLowerExtension)) ∧
      ∀ files root index, FileSystem.Proper files → (files.items.map Prod.fst).Nodup →
        build registry files limits root = .ok index →
          (∀ path, index.TellsOf path → registry.Takes path) ∧
            (Fits registry files limits root →
              ((∀ path, files.HoldsFile limits.depth root path → registry.Takes path →
                  index.TellsOf path) ↔
                ∀ path, files.HoldsFile limits.depth root path → registry.Takes path →
                  path.HasLowerExtension)) := by
  refine ⟨fun path => ?_, fun files root index proper distinct builds => ?_⟩
  · rw [Registry.accepts_iff]
    exact ⟨fun agree takes => (agree.mpr takes).2, fun lower => ⟨And.left, fun takes =>
      ⟨takes, lower takes⟩⟩⟩
  · obtain ⟨listed, lists, rfl⟩ : ∃ listed, paths registry files limits root = .ok listed ∧
        ofFiles registry files listed = index := by
      unfold build at builds
      cases lists : paths registry files limits root <;> rw [lists] at builds <;> cases builds
      exact ⟨_, rfl, rfl⟩
    have tells : ∀ path, (ofFiles registry files listed).TellsOf path ↔
        ∃ other ∈ listed, other.same path = true :=
      fun _ => tellsOf_ofFiles_iff (pairwise_paths proper distinct lists)
    refine ⟨fun path told => ?_, fun fits => ⟨fun covers path holds takes => ?_,
      fun lower path holds takes => ?_⟩⟩
    · obtain ⟨other, isOther, same⟩ := (tells path).mp told
      exact Registry.takes_of_same same (takes_of_mem_paths lists isOther)
    · obtain ⟨other, isOther, same⟩ := (tells path).mp (covers path holds takes)
      obtain ⟨_, _, extension, ends, lower⟩ := (mem_paths_iff lists fits).mp isOther
      exact ⟨extension, Path.extension?_eq_of_same same ▸ ends, lower⟩
    · have isListed := (mem_paths_iff lists fits).mpr ⟨holds, takes, lower path holds takes⟩
      exact (tells path).mpr ⟨path, isListed, BEq.refl _⟩

/-- A file system with one file. -/
def oneFile (name : String) : FileSystem where
  items := [([name], .file (Text.Utf8.encode "def f():\n    pass\n") false)]

/-- With the extension in lower case, the index tells of all files that some extractor takes. -/
theorem lower_case_told :
    ∃ index, build (.ofConfig Service.printing {}) (oneFile "a.py") {} ⟨"."⟩ = .ok index ∧
      ∀ path, (oneFile "a.py").HoldsFile 32 ⟨"."⟩ path →
        (Registry.ofConfig Service.printing {}).Takes path → index.TellsOf path := by
  have proper : (oneFile "a.py").Proper := by decide +kernel
  have distinct : ((oneFile "a.py").items.map Prod.fst).Nodup := List.nodup_singleton _
  have fits : Fits (.ofConfig Service.printing {}) (oneFile "a.py") {} ⟨"."⟩ := by
    unfold Fits
    decide +kernel
  have lists : paths (.ofConfig Service.printing {}) (oneFile "a.py") {} ⟨"."⟩ =
      .ok [⟨"./a.py"⟩] := by decide +kernel
  have builds : build (.ofConfig Service.printing {}) (oneFile "a.py") {} ⟨"."⟩ =
      .ok (ofFiles (.ofConfig Service.printing {}) (oneFile "a.py") [⟨"./a.py"⟩]) := by
    rw [build, lists]
    rfl
  have names : (oneFile "a.py").names ⟨"."⟩ = .ok ["a.py"] := by decide +kernel
  have notDirectory : (oneFile "a.py").isDirectory (Path.join ⟨"."⟩ ⟨"a.py"⟩) = false := by
    decide +kernel
  have ends : (Path.join ⟨"."⟩ ⟨"a.py"⟩).extension? = some "py" := by decide +kernel
  refine ⟨_, builds, (((coverage _ _).2 _ _ _ proper distinct builds).2 fits).mpr ?_⟩
  intro path holds _
  cases holds with
  | here isNames isName _ =>
    rw [names] at isNames
    cases isNames
    rw [List.mem_singleton.mp isName]
    exact ⟨"py", ends, by decide +kernel⟩
  | deeper isNames isName isDirectory _ _ =>
    rw [names] at isNames
    cases isNames
    rw [List.mem_singleton.mp isName, notDirectory] at isDirectory
    cases isDirectory

/-- With the extension in upper case, an extractor takes the file, but the listing does not, and so the
index does not tell of it. -/
theorem upper_case_left_out :
    (Registry.ofConfig Service.printing {}).Takes ⟨"./A.PY"⟩ ∧
      (Tree.Builder.ofExtensions (Registry.ofConfig Service.printing {}).extensions {}).accepts
        ⟨"./A.PY"⟩ = false ∧
      (oneFile "A.PY").HoldsFile 32 ⟨"."⟩ ⟨"./A.PY"⟩ ∧
      ∃ index, build (.ofConfig Service.printing {}) (oneFile "A.PY") {} ⟨"."⟩ = .ok index ∧
        ¬ index.TellsOf ⟨"./A.PY"⟩ := by
  have spelled : Path.join ⟨"."⟩ ⟨"A.PY"⟩ = ⟨"./A.PY"⟩ := by decide +kernel
  have names : (oneFile "A.PY").names ⟨"."⟩ = .ok ["A.PY"] := by decide +kernel
  have takes : ((Language.ofPath? ⟨"./A.PY"⟩).bind
      (Registry.ofConfig Service.printing {}).forLanguage?).isSome = true := by decide +kernel
  have notDirectory : (oneFile "A.PY").isDirectory (Path.join ⟨"."⟩ ⟨"A.PY"⟩) = false := by
    decide +kernel
  have builds : build (.ofConfig Service.printing {}) (oneFile "A.PY") {} ⟨"."⟩ = .ok {} := by
    decide +kernel
  refine ⟨Registry.takes_iff_isSome.mpr takes, by decide +kernel, ?_, {}, builds, ?_⟩
  · rw [← spelled]
    exact .here names List.mem_cons_self notDirectory
  · simp [TellsOf, graph?, failure?, find?]

end Index

end DeclGraph
