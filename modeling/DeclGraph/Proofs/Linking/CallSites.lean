/-
**How many links a call makes.**

A call makes one link for each registration of what its name stands for. Functions and imports are
kept once however often they are added, but a member that is added again, as the setter of a property
or a second definition is, is registered again, and every call of it makes one link more. So there is
one link for each call site and target exactly if no member is registered twice under one name.

* `linksBetween`, `callSites`: the links between two keys, and the calls that may make them;
* `hits`: how often a name stands for a key;
* `linksBetween_eq_sum`: the links between two keys, call site by call site;
* **`one_link_per_site_iff`**: when a resolver gives one link for each call site and target;
* `SymbolTable.ofAdditions`: the table after some additions;
* `SymbolTable.hits_ofAdditions`: how often a name stands for a key then;
* **`SymbolTable.links_of_call_sites`**: the links between two keys, and when they are as many as the
  call sites;
* **`SymbolTable.property_linked_twice`**: one call with two links.
-/

import DeclGraph.Declarations.Basic
import DeclGraph.Proofs.Linking
import Mathlib.Algebra.Ring.Nat

namespace DeclGraph

/-! ### Links between two keys -/

/-- The number of links from one key to another. -/
def linksBetween (links : List Link) (source target : String) : Nat :=
  links.countP fun link => link.source == source && link.target == target

/-- The names called under a key, once for each call site. -/
def callSites (callers : List Caller) (source : String) : List String :=
  (callers.filter fun caller => caller.key == source).flatMap Caller.calls

/-- How often a name stands for a key. -/
def hits (resolver : Resolver) (call target : String) : Nat :=
  (resolver call).countP fun found => found.key == target

/-- A name stands for a key. -/
def reaches (resolver : Resolver) (target call : String) : Bool :=
  (resolver call).any fun found => found.key == target

section Resolver

variable {resolver : Resolver} {callers : List Caller} {call source target : String}

theorem linksBetween_linksOfCall (caller : String) :
    linksBetween (Caller.linksOfCall resolver caller call) source target =
      if caller == source then hits resolver call target else 0 := by
  unfold linksBetween Caller.linksOfCall hits
  rw [List.countP_map]
  cases same : caller == source <;> simp [Function.comp_def, same]

theorem linksBetween_links (caller : Caller) :
    linksBetween (caller.links resolver) source target =
      if caller.key == source then
        (caller.calls.map fun call => hits resolver call target).sum else 0 := by
  have sites : linksBetween (caller.links resolver) source target =
      (caller.calls.map fun call =>
        linksBetween (Caller.linksOfCall resolver caller.key call) source target).sum :=
    List.countP_flatMap
  rw [sites]
  simp only [linksBetween_linksOfCall]
  cases caller.key == source <;> simp

/-- **The links of a caller come from its call sites**, each of which makes one for each time that its
name stands for the target. -/
theorem linksBetween_eq_sum (resolver : Resolver) (callers : List Caller) (source target : String) :
    linksBetween (resolveCalls callers resolver).links source target =
      ((callSites callers source).map fun call => hits resolver call target).sum := by
  induction callers with
  | nil => rfl
  | cons caller callers ih =>
    have parts : linksBetween (resolveCalls (caller :: callers) resolver).links source target =
        linksBetween (caller.links resolver) source target +
          linksBetween (resolveCalls callers resolver).links source target := List.countP_append
    rw [parts, ih, linksBetween_links]
    cases same : caller.key == source <;> simp [callSites, same]

/-- A name that stands for a key at most once makes one link for each call site that reaches it. -/
theorem hits_eq_ite (once : hits resolver call target ≤ 1) :
    hits resolver call target = if reaches resolver target call then 1 else 0 := by
  have positive : 0 < hits resolver call target ↔ reaches resolver target call = true := by
    rw [hits, List.countP_pos_iff, reaches, List.any_eq_true]
  by_cases reached : reaches resolver target call = true
  · have := positive.mpr reached
    rw [if_pos reached]
    omega
  · have := mt positive.mp reached
    rw [if_neg reached]
    omega

/-- **When there is one link for each call site and target**: whatever the callers are, there are as
many links from one key to another as there are call sites that reach it, exactly if no name stands for
a key twice. -/
theorem one_link_per_site_iff :
    (∀ callers source target, linksBetween (resolveCalls callers resolver).links source target =
      (callSites callers source).countP (reaches resolver target)) ↔
        ∀ call target, hits resolver call target ≤ 1 := by
  constructor
  · intro same call target
    have single := same [⟨"", [call]⟩] "" target
    rw [linksBetween_eq_sum] at single
    have sites : callSites [⟨"", [call]⟩] "" = [call] := rfl
    rw [sites, List.map_singleton, List.sum_singleton] at single
    rw [single]
    exact List.countP_le_length
  · intro once callers source target
    rw [linksBetween_eq_sum]
    induction callSites callers source with
    | nil => rfl
    | cons call calls ih =>
      rw [List.map_cons, List.sum_cons, ih, List.countP_cons, hits_eq_ite (once call target),
        Nat.add_comm]

end Resolver

namespace SymbolTable

/-! ### Additions to a table -/

/-- One addition to a table. -/
inductive Addition where
  | member (key name : String)
  | function (name : String)
  | importing (binding origin : String)
  deriving DecidableEq, Repr

namespace Addition

/-- The simple name and the key of a member. -/
def member? : Addition → Option (String × String)
  | member key name => some (name, key)
  | _ => none

def function? : Addition → Option String
  | function name => some name
  | _ => none

/-- The binding and the origin of an import. -/
def import? : Addition → Option (String × String)
  | importing binding origin => some (binding, origin)
  | _ => none

/-- Whether a member is added under a simple name. -/
def isMember (name : String) : Addition → Bool
  | member _ other => other == name
  | _ => false

/-- Whether a function or an import is added under a name. -/
def isPlain (name : String) : Addition → Bool
  | member _ _ => false
  | function other => other == name
  | importing other _ => other == name

end Addition

/-- The table after one more addition. -/
def add (table : SymbolTable) : Addition → SymbolTable
  | .member key name => table.addMember key name
  | .function name => table.addFunction name
  | .importing binding origin => table.addImport binding origin

/-- The table after some additions, one after the other. -/
def ofAdditions (additions : List Addition) : SymbolTable := additions.foldl add empty

/-- How often what a name stands for is registered under a key: members as often as they are added,
functions and imports once. -/
def registrations (additions : List Addition) (call target : String) : Nat :=
  if additions.any (Addition.isMember call) then additions.count (.member target call)
  else if call = target ∧ additions.any (Addition.isPlain call) then 1 else 0

/-- **No member is registered twice under one name.** -/
def RegistersOnce (additions : List Addition) : Prop :=
  ∀ key name, additions.count (.member key name) ≤ 1

variable {additions : List Addition} {table : SymbolTable} {key name call target : String}

/-- What an addition puts behind each list of a table. -/
theorem add_eq (table : SymbolTable) (addition : Addition) : table.add addition =
    { members := table.members ++ addition.member?.toList
      functions := table.functions ++ addition.function?.toList
      imports := table.imports ++ addition.import?.toList } := by
  cases addition <;>
    simp [add, addMember, addFunction, addImport, Addition.member?, Addition.function?,
      Addition.import?]

theorem foldl_add_eq (additions : List Addition) (table : SymbolTable) : additions.foldl add table =
    { members := table.members ++ additions.filterMap Addition.member?
      functions := table.functions ++ additions.filterMap Addition.function?
      imports := table.imports ++ additions.filterMap Addition.import? } := by
  induction additions generalizing table with
  | nil => simp
  | cons addition additions ih =>
    rw [List.foldl_cons, ih, add_eq]
    cases addition <;>
      simp [List.filterMap_cons, Addition.member?, Addition.function?, Addition.import?]

/-- **The table holds the additions of each category in their order.** -/
theorem ofAdditions_eq (additions : List Addition) : ofAdditions additions =
    { members := additions.filterMap Addition.member?
      functions := additions.filterMap Addition.function?
      imports := additions.filterMap Addition.import? } := by
  rw [ofAdditions, foldl_add_eq]
  rfl

/-! ### How often a name stands for a key -/

theorem count_memberKeys (table : SymbolTable) (name key : String) :
    (table.memberKeys name).count key = table.members.count (name, key) := by
  unfold memberKeys
  rw [List.count, List.countP_map, List.countP_filter, List.count]
  refine List.countP_congr fun entry _ => ?_
  obtain ⟨other, otherKey⟩ := entry
  simp [and_comm]

/-- A member stands as often in the table as it is added. -/
theorem count_memberKeys_ofAdditions :
    ((ofAdditions additions).memberKeys name).count key = additions.count (.member key name) := by
  rw [count_memberKeys, ofAdditions_eq, List.count, List.countP_filterMap, List.count]
  refine List.countP_congr fun addition _ => ?_
  cases addition <;> simp [Addition.member?, and_comm]

theorem memberKeys_ofAdditions_eq_nil_iff :
    (ofAdditions additions).memberKeys name = [] ↔
      ¬ additions.any (Addition.isMember name) = true := by
  rw [List.eq_nil_iff_forall_not_mem, List.any_eq_true]
  simp only [mem_memberKeys_iff, ofAdditions_eq, List.mem_filterMap]
  constructor
  · rintro none ⟨addition, added, isMember⟩
    cases addition with
    | member key other =>
      obtain rfl : other = name := eq_of_beq isMember
      exact none key ⟨_, added, rfl⟩
    | function => cases isMember
    | importing => cases isMember
  · rintro none key ⟨addition, added, same⟩
    cases addition with
    | member =>
      cases same
      exact none ⟨_, added, BEq.refl _⟩
    | function => cases same
    | importing => cases same

theorem plain_ofAdditions :
    ((ofAdditions additions).functions.contains name ||
      (ofAdditions additions).imports.any fun entry => entry.1 == name) =
        additions.any (Addition.isPlain name) := by
  rw [ofAdditions_eq]
  induction additions with
  | nil => rfl
  | cons addition additions ih =>
    rw [List.any_cons, ← ih]
    cases addition with
    | member => rfl
    | function other =>
      rw [Addition.isPlain, ← Bool.or_assoc, BEq.comm (a := other)]
      rfl
    | importing other origin =>
      rw [Addition.isPlain, Bool.or_left_comm]
      rfl

/-- **How often a name stands for a key after some additions.** -/
theorem hits_ofAdditions :
    hits (ofAdditions additions).resolve call target = registrations additions call target := by
  unfold registrations hits resolve
  cases keys : (ofAdditions additions).memberKeys call with
  | nil =>
    rw [if_neg (memberKeys_ofAdditions_eq_nil_iff.mp keys), ← plain_ofAdditions]
    cases (ofAdditions additions).functions.contains call <;>
      cases (ofAdditions additions).imports.any fun entry => entry.1 == call <;>
        by_cases same : call = target <;> simp [same]
  | cons first rest =>
    have registered : additions.any (Addition.isMember call) = true := by
      by_contra none
      rw [memberKeys_ofAdditions_eq_nil_iff.mpr none] at keys
      cases keys
    rw [if_pos registered, ← count_memberKeys_ofAdditions, keys]
    exact List.countP_map

/-- Names stand for a key at most once exactly if no member is registered twice. -/
theorem hits_le_one_iff :
    (∀ call target, hits (ofAdditions additions).resolve call target ≤ 1) ↔
      RegistersOnce additions := by
  simp only [hits_ofAdditions]
  constructor
  · intro once key name
    by_cases registered : additions.any (Addition.isMember name) = true
    · have members := once name key
      rwa [registrations, if_pos registered] at members
    · have none : (Addition.member key name) ∉ additions := fun added =>
        registered (List.any_eq_true.mpr ⟨_, added, BEq.refl _⟩)
      rw [List.count_eq_zero.mpr none]
      exact Nat.zero_le 1
  · intro once call target
    unfold registrations
    split_ifs
    · exact once target call
    · exact Nat.le_refl 1
    · exact Nat.zero_le 1

/-- **The links between two keys after any additions.** Each call site makes one for each registration
of what its name stands for. So a call site makes one link at most to each target, and there are as many
links as call sites that reach the target, exactly if no member is registered twice under one name. -/
theorem links_of_call_sites (additions : List Addition) :
    (∀ callers source target,
      linksBetween (resolveCalls callers (ofAdditions additions).resolve).links source target =
        ((callSites callers source).map fun call => registrations additions call target).sum) ∧
      ((∀ source call target, linksBetween
          (Caller.linksOfCall (ofAdditions additions).resolve source call) source target ≤ 1) ↔
        RegistersOnce additions) ∧
      ((∀ callers source target,
          linksBetween (resolveCalls callers (ofAdditions additions).resolve).links source target =
            (callSites callers source).countP (reaches (ofAdditions additions).resolve target)) ↔
        RegistersOnce additions) := by
  refine ⟨fun callers source target => ?_, ?_, one_link_per_site_iff.trans hits_le_one_iff⟩
  · rw [linksBetween_eq_sum]
    simp only [hits_ofAdditions]
  · simp only [linksBetween_linksOfCall, BEq.rfl, if_true, forall_const]
    exact hits_le_one_iff

/-- A property with a getter and a setter, and a function that calls it once. -/
def getterAndSetter : Declarations where
  types := [⟨"A", "class A:", []⟩]
  members := [⟨"A", "x", "def x(self): return 1", []⟩, ⟨"A", "x", "def x(self, v): pass", []⟩]
  functions := [⟨"f", "def f(a): return a.x()", ["x"]⟩]

/-- **One call of a property with a setter makes two links to it.** -/
theorem property_linked_twice :
    getterAndSetter.table = ofAdditions [.member "A.x" "x", .member "A.x" "x", .function "f"] ∧
      getterAndSetter.resolution.links = [⟨"f", "A.x", .call⟩, ⟨"f", "A.x", .call⟩] ∧
      linksBetween getterAndSetter.resolution.links "f" "A.x" = 2 ∧
      (callSites getterAndSetter.callers "f").countP
        (reaches getterAndSetter.table.resolve "A.x") = 1 := by
  have links : getterAndSetter.resolution.links =
      [⟨"f", "A.x", .call⟩, ⟨"f", "A.x", .call⟩] := by decide
  refine ⟨rfl, links, ?_, by decide⟩
  rw [links]
  decide

end SymbolTable

end DeclGraph
