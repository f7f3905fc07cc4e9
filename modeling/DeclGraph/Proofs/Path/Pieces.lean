/-
**Paths and their pieces.**

A slash separates the pieces of a path, wherever it stands; so the pieces of a joined path are those
of its parts. A name is a piece that stands for itself.

* `IsName`: the names of files;
* **`piecesIn_append_slash`**: the pieces of a path with a slash in it;
* **`pieces_join`**, **`components_join`**: a name behind a path;
* **`components_pathOf`**, `startsWith_pathOf_iff`: the paths of locations.
-/

import DeclGraph.Machine.FileSystem
import Mathlib.Data.List.Infix
import Mathlib.Data.List.SplitBy

namespace DeclGraph

/-- The name of a file: a piece of a path that stands neither for the directory itself nor for the
one above it, and that a file system admits. -/
structure IsName (name : String) : Prop where
  nonempty : name ≠ ""
  plain : '/' ∉ name.toList
  not_current : name ≠ "."
  not_parent : name ≠ ".."
  no_zero : '\x00' ∉ name.toList
  short : name.utf8ByteSize ≤ FileSystem.nameLimit

instance (name : String) : Decidable (IsName name) :=
  decidable_of_iff
    (name ≠ "" ∧ '/' ∉ name.toList ∧ name ≠ "." ∧ name ≠ ".." ∧ '\x00' ∉ name.toList ∧
      name.utf8ByteSize ≤ FileSystem.nameLimit)
    ⟨fun ⟨nonempty, plain, current, parent, noZero, short⟩ =>
        ⟨nonempty, plain, current, parent, noZero, short⟩,
      fun ⟨nonempty, plain, current, parent, noZero, short⟩ =>
        ⟨nonempty, plain, current, parent, noZero, short⟩⟩

namespace Path

/-! ### Pieces -/

/-- The pieces between the slashes of a text. -/
def piecesIn (text : List Char) : List String :=
  (text.splitBy fun a b => a != '/' && b != '/').filterMap fun piece =>
    if piece == ['/'] then none else some (String.ofList piece)

theorem pieces_eq (path : Path) : path.pieces = piecesIn path.text.toList := rfl

theorem piecesIn_append {first second : List Char}
    (apart : ∀ x ∈ first.getLast?, ∀ y ∈ second.head?, (x != '/' && y != '/') = false) :
    piecesIn (first ++ second) = piecesIn first ++ piecesIn second := by
  unfold piecesIn
  rw [List.splitBy_append apart, List.filterMap_append]

/-- **A slash separates pieces.** -/
theorem piecesIn_append_slash (first second : List Char) :
    piecesIn (first ++ '/' :: second) = piecesIn first ++ piecesIn second := by
  have slash : piecesIn ('/' :: second) = piecesIn second := by
    rw [← List.singleton_append, piecesIn_append (by simp)]
    rfl
  rw [piecesIn_append (by simp), slash]

theorem piecesIn_plain {text : List Char} (nonempty : text ≠ []) (plain : '/' ∉ text) :
    piecesIn text = [String.ofList text] := by
  have chain : text.IsChain fun a b => (a != '/' && b != '/') = true := by
    refine List.Pairwise.isChain (List.pairwise_of_forall_mem_list fun a first b second => ?_)
    simp [ne_of_mem_of_not_mem first plain, ne_of_mem_of_not_mem second plain]
  have other : text ≠ ['/'] := by
    rintro rfl
    exact plain List.mem_cons_self
  unfold piecesIn
  rw [List.splitBy_of_isChain nonempty chain]
  simp [other]

end Path

namespace IsName

variable {name : String}

theorem toList_ne_nil (isName : IsName name) : name.toList ≠ [] := by
  simpa [String.toList_eq_nil_iff] using isName.nonempty

theorem piecesIn_toList (isName : IsName name) : Path.piecesIn name.toList = [name] := by
  rw [Path.piecesIn_plain isName.toList_ne_nil isName.plain, String.ofList_toList]

theorem head?_ne (isName : IsName name) : name.toList.head? ≠ some '/' := fun starts =>
  isName.plain (List.mem_of_head? starts)

theorem getLast?_ne (isName : IsName name) : name.toList.getLast? ≠ some '/' := fun ends =>
  isName.plain (List.mem_of_getLast? ends)

theorem innerComponent? (isName : IsName name) :
    Path.innerComponent? name = some (.name name) := by
  simp [Path.innerComponent?, isName.not_current, isName.not_parent]

theorem not_isAbsolute (isName : IsName name) : (⟨name⟩ : Path).isAbsolute = false := by
  simpa [Path.isAbsolute] using isName.head?_ne

end IsName

/-! ### A name behind a path -/

namespace Path

variable {path : Path} {name : String}

/-- A joined name stands alone behind an empty path, and behind a slash otherwise. -/
theorem toList_join (path : Path) (isName : IsName name) :
    path.text.toList = [] ∧ (path.join ⟨name⟩).text.toList = name.toList ∨
      path.text.toList ≠ [] ∧ ∃ before,
        (path.text.toList = before ∨ path.text.toList = before ++ ['/']) ∧
          (path.join ⟨name⟩).text.toList = before ++ '/' :: name.toList := by
  unfold join
  rw [if_neg (by rw [isName.not_isAbsolute]; simp)]
  by_cases empty : path.text = ""
  · exact Or.inl ⟨by rw [empty]; rfl, by simp [empty]⟩
  · refine Or.inr ⟨by simpa using empty, ?_⟩
    by_cases slash : path.text.toList.getLast? = some '/'
    · obtain ⟨before, ends⟩ := List.getLast?_eq_some_iff.mp slash
      rw [if_pos (by simp [slash])]
      exact ⟨before, Or.inr ends, by simp [ends]⟩
    · rw [if_neg (by simp [empty, slash])]
      exact ⟨path.text.toList, Or.inl rfl, by simp⟩

/-- **A joined name is one piece more.** -/
theorem pieces_join (isName : IsName name) : (path.join ⟨name⟩).pieces = path.pieces ++ [name] := by
  have nothing : piecesIn [] = [] := rfl
  rw [pieces_eq, pieces_eq]
  rcases toList_join path isName with ⟨empty, text⟩ | ⟨_, before, spelled | spelled, text⟩
  · rw [text, empty, isName.piecesIn_toList, nothing, List.nil_append]
  · rw [text, spelled, piecesIn_append_slash, isName.piecesIn_toList]
  · rw [text, spelled, piecesIn_append_slash, piecesIn_append_slash, isName.piecesIn_toList,
      nothing, List.append_nil]

theorem isAbsolute_join (isName : IsName name) :
    (path.join ⟨name⟩).isAbsolute = path.isAbsolute := by
  unfold isAbsolute
  rcases toList_join path isName with ⟨empty, text⟩ | ⟨nonempty, before, spelled, text⟩
  · rw [text, empty]
    simpa using isName.head?_ne
  · rw [text]
    rcases spelled with spelled | spelled <;> rw [spelled] at nonempty ⊢ <;> cases before <;>
      first | rfl | exact absurd rfl nonempty

theorem getLast?_join (isName : IsName name) :
    (path.join ⟨name⟩).text.toList.getLast? ≠ some '/' := by
  have ends : ∀ before : List Char, (before ++ name.toList).getLast? ≠ some '/' := fun before => by
    rw [List.getLast?_append_of_ne_nil _ isName.toList_ne_nil]
    exact isName.getLast?_ne
  rcases toList_join path isName with ⟨_, text⟩ | ⟨_, before, _, text⟩
  · simpa [text] using ends []
  · rw [text, ← List.singleton_append, ← List.append_assoc]
    exact ends _

/-- **A joined name is one component more.** -/
theorem components_join (isName : IsName name) :
    (path.join ⟨name⟩).components = path.components ++ [.name name] := by
  have inner : (path.join ⟨name⟩).pieces.filterMap innerComponent? =
      path.pieces.filterMap innerComponent? ++ [.name name] := by
    rw [pieces_join isName, List.filterMap_append]
    simp [isName.innerComponent?]
  have current : (path.join ⟨name⟩).pieces.head? = some "." ↔ path.pieces.head? = some "." := by
    rw [pieces_join isName]
    cases path.pieces <;> simp [isName.not_current]
  unfold components
  simp only [inner, isAbsolute_join isName, current]
  split
  · rfl
  · split <;> rfl

theorem fileName?_join (isName : IsName name) : (path.join ⟨name⟩).fileName? = some name := by
  simp [fileName?, components_join isName]

end Path

/-! ### The paths of locations -/

namespace FileSystem

variable {location : Location}

/-- The names of a location, each behind a slash. -/
theorem toList_pathOf (location : Location) :
    (pathOf location).text.toList = '/' :: ['/'].intercalate (location.map String.toList) := by
  simp [pathOf, String.toList_append, String.toList_intercalate]

theorem mem_intercalate {c : Char}
    (member : c ∈ ['/'].intercalate (location.map String.toList)) :
    c = '/' ∨ ∃ name ∈ location, c ∈ name.toList := by
  induction location with
  | nil => cases member
  | cons first rest ih =>
    cases rest with
    | nil => exact Or.inr ⟨first, List.mem_cons_self, by simpa using member⟩
    | cons second rest =>
      rw [List.map_cons, List.map_cons, List.intercalate_cons_cons, List.append_assoc,
        List.mem_append, List.singleton_append, List.mem_cons, ← List.map_cons] at member
      rcases member with isPart | slash | behind
      · exact Or.inr ⟨first, List.mem_cons_self, isPart⟩
      · exact Or.inl slash
      · refine (ih behind).imp_right fun ⟨name, isName, isPart⟩ => ?_
        exact ⟨name, List.mem_cons_of_mem _ isName, isPart⟩

/-- The path of a location consists of slashes and of the characters of its names. -/
theorem mem_toList_pathOf {c : Char} (member : c ∈ (pathOf location).text.toList) :
    c = '/' ∨ ∃ name ∈ location, c ∈ name.toList := by
  rw [toList_pathOf, List.mem_cons] at member
  exact member.elim Or.inl mem_intercalate

theorem isAbsolute_pathOf (location : Location) : (pathOf location).isAbsolute = true := by
  simp [Path.isAbsolute, toList_pathOf]

theorem piecesIn_intercalate (names : ∀ name ∈ location, IsName name) :
    Path.piecesIn (['/'].intercalate (location.map String.toList)) = location := by
  induction location with
  | nil => rfl
  | cons first rest ih =>
    rw [List.forall_mem_cons] at names
    cases rest with
    | nil =>
      rw [List.map_singleton, List.intercalate_singleton]
      exact names.1.piecesIn_toList
    | cons second rest =>
      rw [List.map_cons, List.map_cons, List.intercalate_cons_cons, List.append_assoc,
        List.singleton_append, Path.piecesIn_append_slash, names.1.piecesIn_toList,
        ← List.map_cons, ih names.2]
      rfl

/-- The path of a location is made of its names. -/
theorem pieces_pathOf (names : ∀ name ∈ location, IsName name) :
    (pathOf location).pieces = location := by
  rw [Path.pieces_eq, toList_pathOf, ← List.nil_append ('/' :: _), Path.piecesIn_append_slash,
    piecesIn_intercalate names]
  rfl

/-- Names with slashes between them end in the last name. -/
theorem intercalate_concat (above : Location) (name : String) :
    ∃ before, "/".intercalate (above ++ [name]) = before ++ name := by
  by_cases root : above = []
  · exact ⟨"", by simp [root]⟩
  · refine ⟨"/".intercalate above ++ "/", ?_⟩
    rw [String.intercalate_append_of_ne_nil root (List.cons_ne_nil _ _),
      String.intercalate_singleton]

theorem getLast?_intercalate (names : ∀ name ∈ location, IsName name) (below : location ≠ [])
    (before : String) :
    (before ++ "/".intercalate location).toList.getLast? ≠ some '/' := by
  obtain ⟨front, text⟩ := intercalate_concat location.dropLast (location.getLast below)
  have isName := names _ (List.getLast_mem below)
  rw [List.dropLast_append_getLast] at text
  rw [text, ← String.append_assoc, String.toList_append,
    List.getLast?_append_of_ne_nil _ isName.toList_ne_nil]
  exact isName.getLast?_ne

/-- Names with slashes between them are the pieces of what they make. -/
theorem piecesOf_intercalate (names : ∀ name ∈ location, IsName name) (below : location ≠ []) :
    piecesOf ⟨"/".intercalate location⟩ = location := by
  have ends := getLast?_intercalate names below ""
  rw [String.empty_append] at ends
  rw [piecesOf, if_neg ends, List.append_nil, Path.pieces_eq, String.toList_intercalate]
  exact piecesIn_intercalate names

/-- The path of a location other than the root consists of its names. -/
theorem piecesOf_pathOf (names : ∀ name ∈ location, IsName name) (below : location ≠ []) :
    piecesOf (pathOf location) = location := by
  have ends : (pathOf location).text.toList.getLast? ≠ some '/' :=
    getLast?_intercalate names below "/"
  rw [piecesOf, pieces_pathOf names, if_neg ends, List.append_nil]

/-- **The components of the path of a location.** -/
theorem components_pathOf (names : ∀ name ∈ location, IsName name) :
    (pathOf location).components = .root :: location.map .name := by
  have inner : location.filterMap Path.innerComponent? = location.map .name := by
    rw [← List.filterMap_eq_map]
    exact List.filterMap_congr fun name member => (names name member).innerComponent?
  unfold Path.components
  rw [pieces_pathOf names, inner, isAbsolute_pathOf]
  rfl

/-- **A location is below another one if and only if its path begins with the path of the other
one.** -/
theorem startsWith_pathOf_iff {base : Location} (names : ∀ name ∈ location, IsName name)
    (baseNames : ∀ name ∈ base, IsName name) :
    (pathOf location).startsWith (pathOf base) = true ↔ base <+: location := by
  have injective : Function.Injective Component.name := fun _ _ same => Component.name.inj same
  rw [Path.startsWith, components_pathOf names, components_pathOf baseNames,
    List.isPrefixOf_iff_prefix, List.cons_prefix_cons, List.prefix_map_iff_of_injective injective]
  simp

end FileSystem

end DeclGraph
