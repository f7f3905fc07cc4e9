/-
**Paths that requests mean.**

Paths are joined as texts and compared by their components. The components are the parts between the
slashes, without empty ones and without points, behind a mark for a path that begins with a slash or
with a point; so a relative path that is joined to a root has the components of the root in front,
however the two are spelled. A path that a request means is absolute or lies behind the root, and
means itself from then on.

* `Path.innerComponents_eq_parts`: the components of a path behind its start, told by its parts;
* `ProjectContext.Settled`: a path that is absolute or lies behind the root of a project;
* `ProjectContext.resolve_of_settled`, `settled_resolve`, `components_resolve`: what a path means;
* `Service.graph_resolve`: a path and what it means are answered alike;
* **`ProjectContext.resolve_once`**: the root is put in front of a path once at most.
-/

import DeclGraph.Proofs.Path.Inside
import DeclGraph.Service

namespace DeclGraph

namespace Path

variable {path base other : Path}

/-! ### Parts between slashes -/

/-- The parts of a path between its slashes, empty ones among them. -/
def parts (path : Path) : List (List Char) := path.text.toList.splitOn '/'

/-- The pieces of a text are what its slashes separate, without what is empty. -/
theorem piecesIn_eq_splitOn (text : List Char) :
    piecesIn text = ((text.splitOn '/').filter fun part => part ≠ []).map String.ofList := by
  by_cases slash : '/' ∈ text
  · obtain ⟨before, behind, spelled⟩ := List.append_of_mem slash
    have first := piecesIn_eq_splitOn before
    have second := piecesIn_eq_splitOn behind
    rw [spelled, piecesIn_append_slash, List.splitOn_append_cons_self, List.filter_append,
      List.map_append, ← first, ← second]
  · rw [List.splitOn_eq_singleton slash]
    by_cases empty : text = []
    · rw [empty]
      rfl
    · rw [piecesIn_plain empty slash]
      simp [empty]
termination_by text.length
decreasing_by
  all_goals
    rw [spelled, List.length_append, List.length_cons]
    omega

/-- The component of a part that is neither empty nor a point. -/
def componentOf (part : List Char) : Component :=
  if part = ['.', '.'] then .parent else .name (String.ofList part)

theorem innerComponent?_ofList (part : List Char) :
    innerComponent? (String.ofList part) = if part = ['.'] then none else some (componentOf part) := by
  have point : String.ofList part = "." ↔ part = ['.'] := String.ofList_inj
  have points : String.ofList part = ".." ↔ part = ['.', '.'] := String.ofList_inj
  unfold innerComponent? componentOf
  simp only [point, points]
  split
  · rfl
  · split <;> rfl

/-- The parts of a path that are neither empty nor points, as components. -/
theorem innerComponents_eq_parts (path : Path) :
    path.innerComponents =
      (path.parts.filter fun part => part ≠ [] ∧ part ≠ ['.']).map componentOf := by
  unfold innerComponents parts
  rw [pieces_eq, piecesIn_eq_splitOn, List.filterMap_map]
  induction path.text.toList.splitOn '/' with
  | nil => rfl
  | cons part others ih =>
    by_cases empty : part = []
    · simpa [empty] using ih
    · by_cases point : part = ['.'] <;> simpa [empty, point, innerComponent?_ofList] using ih

/-! ### What components tell of a path -/

/-- No piece stands for the root or for the directory itself. -/
theorem inner_of_mem_innerComponents {component : Component}
    (member : component ∈ path.innerComponents) : component ≠ .root ∧ component ≠ .current := by
  rw [innerComponents_eq_parts] at member
  obtain ⟨part, _, rfl⟩ := List.mem_map.mp member
  unfold componentOf
  split <;> exact ⟨nofun, nofun⟩

/-- The components of a path tell what it puts behind another one. -/
theorem innerComponents_eq_filter (path : Path) : path.innerComponents =
    path.components.filter fun component => component ≠ .root ∧ component ≠ .current := by
  have inner : path.innerComponents.filter (fun component =>
      component ≠ .root ∧ component ≠ .current) = path.innerComponents :=
    List.filter_eq_self.mpr fun component member => by
      simpa using inner_of_mem_innerComponents member
  unfold components
  rw [← innerComponents]
  split
  · exact inner.symm
  · split <;> exact inner.symm

/-- The components of a path tell whether it is absolute. -/
theorem isAbsolute_iff : path.isAbsolute = true ↔ path.components.head? = some .root := by
  unfold components
  rw [← innerComponents]
  cases absolute : path.isAbsolute with
  | true => simp
  | false =>
    have noRoot : path.innerComponents.head? ≠ some .root := fun first =>
      (inner_of_mem_innerComponents (List.mem_of_head? first)).1 rfl
    rw [if_neg Bool.false_ne_true]
    split <;> simp [noRoot]

end Path

/-! ### Resolved paths -/

namespace ProjectContext

variable {context : ProjectContext} {path other : Path}

/-- **A path that is absolute or lies behind the root of a project.** -/
def Settled (context : ProjectContext) (path : Path) : Prop :=
  path.isAbsolute = true ∨ context.root.components <+: path.components

theorem settled_iff :
    context.Settled path ↔ (path.isAbsolute || path.startsWith context.root) = true := by
  rw [Settled, Path.startsWith, Bool.or_eq_true, List.isPrefixOf_iff_prefix]

instance (context : ProjectContext) (path : Path) : Decidable (context.Settled path) :=
  decidable_of_iff _ settled_iff.symm

theorem resolve_of_settled (settled : context.Settled path) : context.resolve path = path := by
  rw [resolve, if_pos (settled_iff.mp settled)]

theorem resolve_of_not_settled (unsettled : ¬ context.Settled path) :
    context.resolve path = context.root.join path := by
  rw [resolve, if_neg fun holds => unsettled (settled_iff.mpr holds)]

/-- **The root of a project is put in front of a path once.** It has a component then, since every
path lies behind a root without components. -/
theorem components_resolve (unsettled : ¬ context.Settled path) :
    (context.resolve path).components = context.root.components ++ path.innerComponents := by
  have relative : path.isAbsolute = false := by
    cases absolute : path.isAbsolute with
    | true => exact absurd (Or.inl absolute) unsettled
    | false => rfl
  have nonempty : context.root.text ≠ "" := by
    intro empty
    have root : context.root = ⟨""⟩ := congrArg Path.mk empty
    refine unsettled (Or.inr ?_)
    rw [root, Path.components_empty]
    exact List.nil_prefix
  rw [resolve_of_not_settled unsettled, Path.components_join_of_relative nonempty relative]

/-- **What a path means is absolute or lies behind the root.** -/
theorem settled_resolve (context : ProjectContext) (path : Path) :
    context.Settled (context.resolve path) := by
  by_cases settled : context.Settled path
  · rw [resolve_of_settled settled]
    exact settled
  · refine Or.inr ?_
    rw [components_resolve settled]
    exact List.prefix_append _ _

theorem resolve_resolve (context : ProjectContext) (path : Path) :
    context.resolve (context.resolve path) = context.resolve path :=
  resolve_of_settled (settled_resolve context path)

/-- Paths with the same components mean paths with the same components. -/
theorem same_resolve (same : path.components = other.components) :
    (context.resolve path).components = (context.resolve other).components := by
  have alike : context.Settled path ↔ context.Settled other := by
    rw [Settled, Settled, Path.isAbsolute_iff, Path.isAbsolute_iff, same]
  by_cases settled : context.Settled path
  · rw [resolve_of_settled settled, resolve_of_settled (alike.mp settled), same]
  · rw [components_resolve settled, components_resolve (mt alike.mpr settled),
      Path.innerComponents_eq_filter path, Path.innerComponents_eq_filter other, same]

end ProjectContext

/-- A request for a path and one for the path that it means are answered alike. -/
theorem Service.graph_resolve {service : Service} {context : ProjectContext}
    (active : service.projects.context? = some context) (files : FileSystem) (path : Path) :
    service.graph files (context.resolve path) = service.graph files path := by
  unfold graph resolve
  rw [active]
  dsimp only
  rw [context.resolve_resolve]

/-- **The root of a project is put in front of a path once at most.** Whatever the root of all
projects, the name of the project and the path are: what the path means is absolute or lies behind
the root of the project; a path that does so already is kept as it is spelled, and any other one
means its own components behind those of the root. So resolving twice is resolving once, requests for
a path and for what it means are answered alike, and other spellings of the same components mean the
same components. -/
theorem ProjectContext.resolve_once (projectsRoot path : Path) (project : Project) :
    let context := ofProject project projectsRoot
    context.Settled (context.resolve path) ∧
      (context.Settled path → context.resolve path = path) ∧
      (¬ context.Settled path → (context.resolve path).components =
        context.root.components ++ path.innerComponents) ∧
      context.resolve (context.resolve path) = context.resolve path ∧
      (∀ service : Service, service.projects.context? = some context → ∀ files,
        service.graph files (context.resolve path) = service.graph files path) ∧
      ∀ other : Path, path.components = other.components →
        (context.resolve path).components = (context.resolve other).components := by
  intro context
  exact ⟨context.settled_resolve path, resolve_of_settled, components_resolve,
    context.resolve_resolve path, fun _ active files => Service.graph_resolve active files path,
    fun _ => same_resolve⟩

/-- Behind the root `./` a path is spelled on, unless it begins with a point itself. -/
example : (ProjectContext.ofProject ⟨1, "", ""⟩ ⟨"."⟩).resolve ⟨"a//b/./c"⟩ = ⟨"./a//b/./c"⟩ ∧
    (ProjectContext.ofProject ⟨1, "", ""⟩ ⟨"."⟩).resolve ⟨".//a"⟩ = ⟨".//a"⟩ := by
  decide +kernel

end DeclGraph
