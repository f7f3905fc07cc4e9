/-
**What a call name stands for.**

* `mem_links_iff`: the links of some callers are those of their calls;
* `resolveCalls_congr`, `SymbolTable.resolve_congr`: what links and the meaning of names depend on;
* **`SymbolTable.mem_resolve_iff`**: a name stands for the members with the name; failing these, for
  the function with the name; failing this, for the imported name;
* `SymbolTable.resolve_of_member`, `SymbolTable.resolve_of_function`: a name of members, or else of a
  function, stands for these alone.
-/

import DeclGraph.Linking
import Mathlib.Data.List.Basic

namespace DeclGraph

/-! ### Links -/

/-- Every link comes from one call of one caller and one declaration that the name stands for. -/
theorem mem_links_iff {callers : List Caller} {resolver : Resolver} {link : Link} :
    link ∈ (resolveCalls callers resolver).links ↔
      ∃ caller ∈ callers, ∃ call ∈ caller.calls, ∃ target ∈ resolver call,
        link = ⟨caller.key, target.key, target.kind⟩ := by
  simp only [resolveCalls, Caller.links, Caller.linksOfCall, List.mem_flatMap, List.mem_map,
    eq_comm (a := link)]

/-- A name is used if some caller calls it. -/
theorem mem_usedNames_iff {callers : List Caller} {resolver : Resolver} {name : String} :
    name ∈ (resolveCalls callers resolver).usedNames ↔ ∃ caller ∈ callers, name ∈ caller.calls :=
  List.mem_flatMap

/-- Callers have the same links if each of the names they call stands for the same. -/
theorem resolveCalls_congr {callers : List Caller} {resolver other : Resolver}
    (same : ∀ caller ∈ callers, ∀ call ∈ caller.calls, resolver call = other call) :
    resolveCalls callers resolver = resolveCalls callers other := by
  have links : callers.flatMap (Caller.links resolver) = callers.flatMap (Caller.links other) := by
    refine List.flatMap_congr fun caller isCaller => List.flatMap_congr fun call called => ?_
    rw [Caller.linksOfCall, Caller.linksOfCall, same caller isCaller call called]
  unfold resolveCalls
  rw [links]

/-! ### The names of one file -/

namespace SymbolTable

variable {table : SymbolTable} {name key : String}

theorem mem_memberKeys_iff : key ∈ table.memberKeys name ↔ (name, key) ∈ table.members := by
  simp [memberKeys]

/-- **What a name stands for.** The first category with the name answers alone. -/
theorem mem_resolve_iff {target : Target} :
    target ∈ table.resolve name ↔
      (target.kind = .call ∧ (name, target.key) ∈ table.members) ∨
      (target = ⟨name, .call⟩ ∧ (∀ key, (name, key) ∉ table.members) ∧ name ∈ table.functions) ∨
      (target = ⟨name, .importUse⟩ ∧ (∀ key, (name, key) ∉ table.members) ∧
        name ∉ table.functions ∧ ∃ origin, (name, origin) ∈ table.imports) := by
  unfold resolve
  cases keys : table.memberKeys name with
  | cons first rest =>
    have declared : ¬ ∀ key, (name, key) ∉ table.members := fun none =>
      none first (mem_memberKeys_iff.mp (keys ▸ List.mem_cons_self))
    have asMember : target ∈ (first :: rest).map (fun key => (⟨key, .call⟩ : Target)) ↔
        target.kind = .call ∧ (name, target.key) ∈ table.members := by
      rw [← keys, ← mem_memberKeys_iff, List.mem_map]
      constructor
      · rintro ⟨key, member, rfl⟩
        exact ⟨rfl, member⟩
      · rintro ⟨isCall, member⟩
        exact ⟨target.key, member, by rw [← isCall]⟩
    rw [asMember]
    simp only [declared, false_and, and_false, or_false]
  | nil =>
    have none : ∀ key, (name, key) ∉ table.members := fun key member => by
      have listed := mem_memberKeys_iff.mpr member
      rw [keys] at listed
      cases listed
    have imported : (table.imports.any fun entry => entry.1 == name) = true ↔
        ∃ origin, (name, origin) ∈ table.imports := by
      simp
    by_cases function : name ∈ table.functions
    · simp [none, function]
    · by_cases isImport : ∃ origin, (name, origin) ∈ table.imports
      · simp [none, function, imported.mpr isImport, isImport]
      · simp [none, function, isImport, imported]

/-- Tables tell a name alike if their members with the name are the same, in the same order, and both
or none of them have the name as a function and as an import. -/
theorem resolve_congr {other : SymbolTable}
    (members : table.memberKeys name = other.memberKeys name)
    (functions : name ∈ table.functions ↔ name ∈ other.functions)
    (imports : (∃ origin, (name, origin) ∈ table.imports) ↔
      ∃ origin, (name, origin) ∈ other.imports) :
    table.resolve name = other.resolve name := by
  have declared : table.functions.contains name = other.functions.contains name := by
    rw [Bool.eq_iff_iff]
    simpa using functions
  have imported : (table.imports.any fun entry => entry.1 == name) =
      other.imports.any fun entry => entry.1 == name := by
    rw [Bool.eq_iff_iff]
    simpa using imports
  unfold resolve
  rw [members, declared, imported]

/-- A name of members stands for nothing else. -/
theorem resolve_of_member (declared : table.memberKeys name ≠ []) :
    table.resolve name = (table.memberKeys name).map fun key => ⟨key, .call⟩ := by
  unfold resolve
  cases keys : table.memberKeys name with
  | nil => exact absurd keys declared
  | cons => rfl

/-- A name of a function that no member has stands for no import. -/
theorem resolve_of_function (none : table.memberKeys name = []) (declared : name ∈ table.functions) :
    table.resolve name = [⟨name, .call⟩] := by
  unfold resolve
  rw [none]
  exact if_pos (by simpa using declared)

end SymbolTable

end DeclGraph
