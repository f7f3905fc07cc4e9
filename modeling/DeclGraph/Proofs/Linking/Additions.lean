/-
**What the links of calls depend on.**

Of the additions to a table it matters only which keys the members of each name have, in their order,
and which functions and imports there are: functions and imports count once, and additions of
different names, or of different categories, may change places. One addition more concerns the calls
of its own name, and not even these if the name stands for something of a category that comes before.

* `memberKeysGiven`, `GivesAlike`: what two sequences of additions have in common for a name;
* `resolve_of_givesAlike`: the name stands for the same after both;
* `CallSite`, `links_eq_flatMap_sites`: links are made call site by call site;
* `DifferOnlyAt`: two resolvers differ in the calls of one name;
* `Outranked`: an addition comes after something that counts more;
* **`SymbolTable.links_after_additions`**: what the links depend on, and what one addition changes.
-/

import DeclGraph.Proofs.Linking.CallSites

namespace DeclGraph

/-! ### Call sites -/

/-- A place where a name is called: the key of the caller, and the name. -/
structure CallSite where
  caller : String
  call : String
  deriving DecidableEq, Repr

namespace CallSite

/-- The links that are made at a call site. -/
def links (resolver : Resolver) (site : CallSite) : List Link :=
  Caller.linksOfCall resolver site.caller site.call

end CallSite

namespace Caller

/-- The call sites of a caller, in their order. -/
def sites (caller : Caller) : List CallSite := caller.calls.map (CallSite.mk caller.key)

end Caller

/-- **Links are made call site by call site.** -/
theorem links_eq_flatMap_sites (callers : List Caller) (resolver : Resolver) :
    (resolveCalls callers resolver).links =
      (callers.flatMap Caller.sites).flatMap (CallSite.links resolver) := by
  rw [List.flatMap_assoc]
  refine List.flatMap_congr fun caller _ => ?_
  rw [Caller.sites, List.flatMap_map]
  rfl

/-- **Two resolvers differ in the calls of a name only.** Each makes its links call site by call site;
where another name is called both make the same ones, and the same names are used. -/
structure DifferOnlyAt (name : String) (callers : List Caller) (first second : Resolver) : Prop where
  first_links : (resolveCalls callers first).links =
    (callers.flatMap Caller.sites).flatMap (CallSite.links first)
  second_links : (resolveCalls callers second).links =
    (callers.flatMap Caller.sites).flatMap (CallSite.links second)
  others : ∀ site ∈ callers.flatMap Caller.sites, site.call ≠ name →
    site.links first = site.links second
  usedNames : (resolveCalls callers first).usedNames = (resolveCalls callers second).usedNames

theorem DifferOnlyAt.of_resolve {name : String} {first second : Resolver}
    (same : ∀ call, call ≠ name → first call = second call) (callers : List Caller) :
    DifferOnlyAt name callers first second where
  first_links := links_eq_flatMap_sites callers first
  second_links := links_eq_flatMap_sites callers second
  others site _ differs := by
    rw [CallSite.links, CallSite.links, Caller.linksOfCall, Caller.linksOfCall, same _ differs]
  usedNames := rfl

namespace SymbolTable

/-! ### What is given for a name -/

namespace Addition

/-- The name that an addition is for. -/
def name : Addition → String
  | member _ name => name
  | function name => name
  | importing binding _ => binding

/-- The key that an addition gives to a member with a name. -/
def memberKey? (name : String) : Addition → Option String
  | member key other => if other = name then some key else none
  | _ => none

end Addition

variable {additions others : List Addition} {addition : Addition} {name : String}

/-- The keys that some additions give to the members with a name, in their order. -/
def memberKeysGiven (additions : List Addition) (name : String) : List String :=
  additions.filterMap (Addition.memberKey? name)

/-- **Two sequences of additions give a name alike**: its members have the same keys in the same
order, and both or none of the sequences give it to a function, and bind it to an import. -/
structure GivesAlike (name : String) (additions others : List Addition) : Prop where
  members : memberKeysGiven additions name = memberKeysGiven others name
  functions : .function name ∈ additions ↔ .function name ∈ others
  imports : (∃ origin, .importing name origin ∈ additions) ↔
    ∃ origin, .importing name origin ∈ others

theorem memberKeys_ofAdditions : (ofAdditions additions).memberKeys name =
    memberKeysGiven additions name := by
  rw [memberKeys, ofAdditions_eq, List.filter_filterMap, List.map_filterMap, memberKeysGiven]
  refine List.filterMap_congr fun addition _ => ?_
  cases addition with
  | member key other =>
    by_cases same : other = name <;> simp [Addition.member?, Addition.memberKey?, same]
  | function => rfl
  | importing => rfl

theorem mem_functions_ofAdditions_iff :
    name ∈ (ofAdditions additions).functions ↔ .function name ∈ additions := by
  rw [ofAdditions_eq, List.mem_filterMap]
  constructor
  · rintro ⟨addition, added, isFunction⟩
    cases addition <;> cases isFunction
    exact added
  · exact fun added => ⟨_, added, rfl⟩

theorem mem_imports_ofAdditions_iff {origin : String} :
    (name, origin) ∈ (ofAdditions additions).imports ↔ .importing name origin ∈ additions := by
  rw [ofAdditions_eq, List.mem_filterMap]
  constructor
  · rintro ⟨addition, added, isImport⟩
    cases addition <;> cases isImport
    exact added
  · exact fun added => ⟨_, added, rfl⟩

/-- **A name that is given alike stands for the same.** -/
theorem resolve_of_givesAlike (alike : GivesAlike name additions others) :
    (ofAdditions additions).resolve name = (ofAdditions others).resolve name := by
  refine resolve_congr ?_ ?_ ?_
  · rw [memberKeys_ofAdditions, memberKeys_ofAdditions, alike.members]
  · rw [mem_functions_ofAdditions_iff, mem_functions_ofAdditions_iff, alike.functions]
  · simp only [mem_imports_ofAdditions_iff, alike.imports]

/-! ### One addition more -/

theorem memberKeysGiven_concat : memberKeysGiven (additions ++ [addition]) name =
    memberKeysGiven additions name ++ (addition.memberKey? name).toList := by
  rw [memberKeysGiven, List.filterMap_append]
  cases given : addition.memberKey? name <;> simp [memberKeysGiven, given]

/-- One addition more gives all names but its own as they were. -/
theorem givesAlike_concat (differs : name ≠ addition.name) :
    GivesAlike name (additions ++ [addition]) additions where
  members := by
    have none : addition.memberKey? name = none := by
      cases addition with
      | member => exact if_neg (Ne.symm differs)
      | function => rfl
      | importing => rfl
    rw [memberKeysGiven_concat, none, Option.toList_none, List.append_nil]
  functions := by
    have other : .function name ≠ addition := fun same => differs (by rw [← same]; rfl)
    simp [other]
  imports := by
    have other : ∀ origin, .importing name origin ≠ addition := fun origin same =>
      differs (by rw [← same]; rfl)
    simp [other]

/-- **An addition is outranked**: its name stands for something of a category that comes before. Nothing
comes before members. -/
def Outranked (additions : List Addition) : Addition → Prop
  | .member _ _ => False
  | .function name => ∃ key, .member key name ∈ additions
  | .importing name _ => (∃ key, .member key name ∈ additions) ∨ .function name ∈ additions

theorem memberKeysGiven_ne_nil {key : String} (added : .member key name ∈ additions) :
    memberKeysGiven additions name ≠ [] :=
  List.ne_nil_of_mem (List.mem_filterMap.mpr ⟨_, added, if_pos rfl⟩)

/-- A name of members stands for the same after an addition that adds no member. -/
theorem resolve_concat_of_member (declared : memberKeysGiven additions name ≠ [])
    (none : addition.memberKey? name = none) :
    (ofAdditions (additions ++ [addition])).resolve name = (ofAdditions additions).resolve name := by
  have keys : memberKeysGiven (additions ++ [addition]) name = memberKeysGiven additions name := by
    rw [memberKeysGiven_concat, none, Option.toList_none, List.append_nil]
  rw [← memberKeys_ofAdditions] at declared
  rw [← memberKeys_ofAdditions, ← memberKeys_ofAdditions] at keys
  rw [resolve_of_member declared, resolve_of_member (keys ▸ declared), keys]

/-- **An addition that is outranked changes nothing.** -/
theorem resolve_of_outranked (outranked : Outranked additions addition) (call : String) :
    (ofAdditions (additions ++ [addition])).resolve call = (ofAdditions additions).resolve call := by
  by_cases same : call = addition.name
  · subst same
    cases addition with
    | member => exact outranked.elim
    | function name =>
      obtain ⟨_, added⟩ := outranked
      exact resolve_concat_of_member (memberKeysGiven_ne_nil added) rfl
    | importing name origin =>
      by_cases keys : memberKeysGiven additions name = []
      · rcases outranked with ⟨_, added⟩ | added
        · exact absurd keys (memberKeysGiven_ne_nil added)
        · have more : memberKeysGiven (additions ++ [.importing name origin]) name = [] := by
            rw [memberKeysGiven_concat, keys]
            rfl
          rw [← memberKeys_ofAdditions] at keys more
          exact (resolve_of_function more (mem_functions_ofAdditions_iff.mpr
              (List.mem_append_left _ added))).trans
            (resolve_of_function keys (mem_functions_ofAdditions_iff.mpr added)).symm
      · exact resolve_concat_of_member keys rfl
  · exact resolve_of_givesAlike (givesAlike_concat same)

/-- **What the links of calls depend on.** After additions that give every name alike, all callers have
the same links in the same order, and the same names are used. One addition more changes the links at
calls of its own name only, and none if it is outranked. -/
theorem links_after_additions (additions : List Addition) :
    (∀ others, (∀ name, GivesAlike name others additions) → ∀ callers,
      resolveCalls callers (ofAdditions others).resolve =
        resolveCalls callers (ofAdditions additions).resolve) ∧
      ∀ addition callers,
        DifferOnlyAt addition.name callers (ofAdditions (additions ++ [addition])).resolve
            (ofAdditions additions).resolve ∧
          (Outranked additions addition →
            resolveCalls callers (ofAdditions (additions ++ [addition])).resolve =
              resolveCalls callers (ofAdditions additions).resolve) := by
  refine ⟨fun others alike callers => ?_, fun addition callers => ⟨?_, fun outranked => ?_⟩⟩
  · exact resolveCalls_congr fun _ _ call _ => resolve_of_givesAlike (alike call)
  · exact .of_resolve (fun _ differs => resolve_of_givesAlike (givesAlike_concat differs)) callers
  · exact resolveCalls_congr fun _ _ call _ => resolve_of_outranked outranked call

/-- Two members of one name, and a function with the name of an import. -/
def mixedAdditions : List Addition :=
  [.member "B.run" "run", .function "load", .member "A.run" "run", .importing "load" "json.load"]

/-- The same additions in another order, with the function added twice and the import from elsewhere. -/
def reorderedAdditions : List Addition :=
  [.importing "load" "pickle.load", .function "load", .member "B.run" "run", .member "A.run" "run",
    .function "load"]

theorem givesAlike_reorderedAdditions (name : String) :
    GivesAlike name reorderedAdditions mixedAdditions where
  members := by
    by_cases same : "run" = name <;>
      simp [memberKeysGiven, reorderedAdditions, mixedAdditions, List.filterMap_cons,
        Addition.memberKey?, same]
  functions := by simp [reorderedAdditions, mixedAdditions]
  imports := by simp [reorderedAdditions, mixedAdditions]

/-- The order does not matter here, and an import of the members' name changes nothing. -/
theorem links_after_reorderedAdditions :
    (∀ name, GivesAlike name reorderedAdditions mixedAdditions) ∧
      Outranked mixedAdditions (.importing "run" "tasks.run") ∧
      ∀ callers,
        resolveCalls callers (ofAdditions reorderedAdditions).resolve =
            resolveCalls callers (ofAdditions mixedAdditions).resolve ∧
          resolveCalls callers
              (ofAdditions (mixedAdditions ++ [.importing "run" "tasks.run"])).resolve =
            resolveCalls callers (ofAdditions mixedAdditions).resolve := by
  have outranked : Outranked mixedAdditions (.importing "run" "tasks.run") :=
    Or.inl ⟨"B.run", List.mem_cons_self⟩
  obtain ⟨alike, further⟩ := links_after_additions mixedAdditions
  exact ⟨givesAlike_reorderedAdditions, outranked, fun callers =>
    ⟨alike _ givesAlike_reorderedAdditions callers, (further _ callers).2 outranked⟩⟩

end SymbolTable

end DeclGraph
