/-
**Trees with numbered entries.**

A walk meets its entries slot by slot. An entry of the tree that the walk is put together to has the
number at which it was met, so the first entries met can be kept in the tree and the others removed.

* `Numbered`: an entry with its number and what it has below it;
* `Numbered.firsts`: what is left of trees when all entries from a number on are removed;
* `Walk.met`: the entries of a walk in the order in which they are met;
* `Walk.numbered`: the tree that a walk is put together to, with numbers;
* **`Walk.met_of_mem_numbered`**, **`Walk.nodup_numbered`**: every entry of that tree is the one met at
  its number, and no number stands twice;
* **`Walk.unreadable_of_not_mem`**: an entry that was met and is not in the tree has a slot that holds
  nothing.
-/

import DeclGraph.Proofs.Tree.Bounds
import Mathlib.Data.List.Nodup
import Mathlib.Data.List.Infix

namespace DeclGraph.Tree

/-- An entry with its number, and what it gets below it unless it stays as it was met. -/
inductive Numbered where
  | mk (number : Nat) (entry : Entry) (below : Option (List Numbered))

namespace Numbered

def number : Numbered → Nat
  | mk number _ _ => number

def entry : Numbered → Entry
  | mk _ entry _ => entry

mutual

/-- The entry without numbers. -/
def plain : Numbered → Entry
  | mk _ entry none => entry
  | mk _ entry (some below) => entry.withChildren (plainAll below)

/-- Several entries without numbers. -/
def plainAll : List Numbered → List Entry
  | [] => []
  | first :: rest => first.plain :: plainAll rest

end

mutual

/-- The entry with only those of the numbers before a limit below it. -/
def trimmed (limit : Nat) : Numbered → Numbered
  | mk number entry none => mk number entry none
  | mk number entry (some below) => mk number entry (some (firsts limit below))

/-- **The entries of the numbers before a limit.** All others are removed at every level, and nothing
else is changed. -/
def firsts (limit : Nat) : List Numbered → List Numbered
  | [] => []
  | first :: rest =>
    if first.number < limit then first.trimmed limit :: firsts limit rest else firsts limit rest

end

mutual

/-- An entry and all those below it, with their numbers. -/
def within : Numbered → List (Nat × Entry)
  | mk number entry none => [(number, entry)]
  | mk number entry (some below) => (number, entry) :: withinAll below

/-- All entries of several trees, with their numbers. -/
def withinAll : List Numbered → List (Nat × Entry)
  | [] => []
  | first :: rest => first.within ++ withinAll rest

end

section Laws

variable {limit less more : Nat}

theorem withinAll_eq_flatMap (trees : List Numbered) : withinAll trees = trees.flatMap within := by
  induction trees with
  | nil => rfl
  | cons first rest ih => rw [withinAll, ih, List.flatMap_cons]

/-- **The first entries among the first ones are those of the smaller limit.** -/
theorem firsts_firsts (le : less ≤ more) :
    ∀ trees : List Numbered, firsts less (firsts more trees) = firsts less trees
  | [] => rfl
  | .mk number entry none :: rest => by
    have others := firsts_firsts le rest
    by_cases few : number < less
    · have many : number < more := Nat.lt_of_lt_of_le few le
      simp only [firsts, Numbered.number, trimmed, few, many, if_true, others]
    · by_cases many : number < more <;>
        simp only [firsts, Numbered.number, trimmed, few, many, if_true, if_false, others]
  | .mk number entry (some below) :: rest => by
    have others := firsts_firsts le rest
    have deeper := firsts_firsts le below
    by_cases few : number < less
    · have many : number < more := Nat.lt_of_lt_of_le few le
      simp only [firsts, Numbered.number, trimmed, few, many, if_true, others, deeper]
    · by_cases many : number < more <;>
        simp only [firsts, Numbered.number, trimmed, few, many, if_true, if_false, others]

/-- If no entry takes others of smaller numbers with it, only the numbers from the limit on are
removed. -/
theorem withinAll_firsts_of_forall {trees : List Numbered}
    (kept : ∀ tree ∈ trees, tree.number < limit →
      (tree.trimmed limit).within = tree.within.filter fun pair => pair.1 < limit)
    (gone : ∀ tree ∈ trees, limit ≤ tree.number → ∀ pair ∈ tree.within, limit ≤ pair.1) :
    withinAll (firsts limit trees) = (withinAll trees).filter fun pair => pair.1 < limit := by
  induction trees with
  | nil => rfl
  | cons first rest ih =>
    rw [List.forall_mem_cons] at kept gone
    have others := ih kept.2 gone.2
    rw [firsts, withinAll, List.filter_append]
    by_cases before : first.number < limit
    · rw [if_pos before, withinAll, kept.1 before, others]
    · have none : (first.within.filter fun pair => decide (pair.1 < limit)) = [] := by
        refine List.filter_eq_nil_iff.mpr fun pair member => ?_
        have behind := gone.1 (Nat.not_lt.mp before) pair member
        simpa using behind
      rw [if_neg before, none, others, List.nil_append]

/-- Where all numbers are before the limit nothing is removed. -/
theorem firsts_of_forall_lt :
    ∀ trees : List Numbered, (∀ pair ∈ withinAll trees, pair.1 < limit) → firsts limit trees = trees
  | [], _ => rfl
  | .mk number entry none :: rest, before => by
    rw [withinAll, within, List.forall_mem_append, List.forall_mem_singleton] at before
    rw [firsts, Numbered.number, if_pos before.1, trimmed, firsts_of_forall_lt rest before.2]
  | .mk number entry (some below) :: rest, before => by
    rw [withinAll, within, List.forall_mem_append, List.forall_mem_cons] at before
    rw [firsts, Numbered.number, if_pos before.1.1, trimmed, firsts_of_forall_lt rest before.2,
      firsts_of_forall_lt below before.1.2]

end Laws

end Numbered

/-- **A tree that is another one with entries removed**: those kept are in the same order and at the
same places, and an entry is removed with everything below it. -/
inductive Thinned : List Entry → List Entry → Prop
  | nil : Thinned [] []
  | removed {few many : List Entry} (entry : Entry) : Thinned few many → Thinned few (entry :: many)
  | kept {few many : List Entry} (entry : Entry) :
      Thinned few many → Thinned (entry :: few) (entry :: many)
  | filled {few many fewBelow manyBelow : List Entry} (entry : Entry) :
      Thinned fewBelow manyBelow → Thinned few many →
        Thinned (entry.withChildren fewBelow :: few) (entry.withChildren manyBelow :: many)

theorem thinned_firsts {less more : Nat} (le : less ≤ more) : ∀ trees : List Numbered,
    Thinned (Numbered.plainAll (Numbered.firsts less trees))
      (Numbered.plainAll (Numbered.firsts more trees))
  | [] => .nil
  | .mk number entry below :: rest => by
    have others := thinned_firsts le rest
    by_cases few : number < less
    · have many : number < more := Nat.lt_of_lt_of_le few le
      rw [Numbered.firsts, Numbered.firsts, Numbered.number, if_pos few, if_pos many]
      match below with
      | none => exact .kept entry others
      | some below => exact .filled entry (thinned_firsts le below) others
    · rw [Numbered.firsts, Numbered.number, if_neg few, Numbered.firsts, Numbered.number]
      split
      · exact .removed _ others
      · exact others

namespace Walk

variable {isLink : Path → Bool} {limits : Limits} {root : Path} {walk : Walk}

/-! ### The order in which entries are met -/

/-- **The entries of a walk in the order in which they are met**, slot by slot. -/
def met (walk : Walk) : List Entry := heldBefore walk.slots walk.slots.size

/-- The number of the entry at a place of a slot. -/
def numberAt (walk : Walk) (slot place : Nat) : Nat :=
  (heldBefore walk.slots slot).length + place

section Numbers

variable {slots : Array Slot} {number other : Nat}

theorem heldBefore_isPrefix (slots : Array Slot) (le : number ≤ other) :
    heldBefore slots number <+: heldBefore slots other := by
  induction le with
  | refl => exact List.prefix_rfl
  | step _ ih => exact ih.trans (List.prefix_append _ _)

theorem heldIn_eq {slot : Slot} {entries : List Entry} (found : slots[number]? = some slot)
    (holds : slot.entries = some entries) : heldIn slots number = entries := by
  rw [heldIn, found, Option.bind_some, holds, Option.getD_some]

variable {slot : Slot} {entries : List Entry} {entry : Entry} {place : Nat}

/-- An entry is met at its number. -/
theorem met_numberAt (found : walk.slots[number]? = some slot) (holds : slot.entries = some entries)
    (foundEntry : entries[place]? = some entry) :
    walk.met[walk.numberAt number place]? = some entry := by
  have inside := (Array.getElem?_eq_some_iff.mp found).1
  have upTo : (heldBefore walk.slots (number + 1))[walk.numberAt number place]? = some entry := by
    rw [heldBefore, heldIn_eq found holds, numberAt, List.getElem?_append_right (by omega),
      Nat.add_sub_cancel_left]
    exact foundEntry
  obtain ⟨behind, same⟩ := heldBefore_isPrefix walk.slots (Nat.succ_le_of_lt inside)
  have within := (List.getElem?_eq_some_iff.mp upTo).1
  rw [met, ← same, List.getElem?_append_left within]
  exact upTo

/-- Numbers of later slots are larger. -/
theorem numberAt_lt (found : walk.slots[number]? = some slot) (holds : slot.entries = some entries)
    (inside : place < entries.length) (later : number < other) (behind : Nat) :
    walk.numberAt number place < walk.numberAt other behind := by
  have longer := (heldBefore_isPrefix walk.slots (Nat.succ_le_of_lt later)).length_le
  rw [heldBefore, heldIn_eq found holds, List.length_append] at longer
  unfold numberAt
  omega

/-- Every number is that of an entry in a slot. -/
theorem exists_place_of_met {met : Nat} (upTo : (heldBefore slots number)[met]? = some entry) :
    ∃ (index place : Nat) (slot : Slot) (entries : List Entry), slots[index]? = some slot ∧
      slot.entries = some entries ∧ entries[place]? = some entry ∧
        met = (heldBefore slots index).length + place := by
  induction number with
  | zero => cases upTo
  | succ number ih =>
    rw [heldBefore] at upTo
    by_cases earlier : met < (heldBefore slots number).length
    · rw [List.getElem?_append_left earlier] at upTo
      exact ih upTo
    · rw [List.getElem?_append_right (Nat.not_lt.mp earlier)] at upTo
      cases found : slots[number]? with
      | none => simp [heldIn, found] at upTo
      | some slot =>
        cases holds : slot.entries with
        | none => simp [heldIn, found, holds] at upTo
        | some entries =>
          rw [heldIn_eq found holds] at upTo
          exact ⟨number, _, slot, entries, found, holds, upTo,
            (Nat.add_sub_cancel' (Nat.not_lt.mp earlier)).symm⟩

end Numbers

/-! ### The tree of a walk -/

/-- What a slot holds in the end, with numbers; nothing if it holds nothing. The slot of an entry
stands behind the slot that the entry is in. -/
def numberedIn (walk : Walk) (number : Nat) : Option (List Numbered) :=
  ((walk.slots[number]?).bind Slot.entries).map fun entries =>
    entries.zipIdx.filterMap fun pair =>
      match _ : walk.slotAt? (number + 1) (number, pair.2) with
      | none => some (.mk (walk.numberAt number pair.2) pair.1 none)
      | some child =>
        (walk.numberedIn child).map fun below => .mk (walk.numberAt number pair.2) pair.1 (some below)
termination_by walk.slots.size - number
decreasing_by
  obtain ⟨later, _, found, _⟩ := slotAt?_some ‹_›
  have inside := (Array.getElem?_eq_some_iff.mp found).1
  omega

/-- What becomes of an entry of a slot, with its number. -/
def numberedEntry (walk : Walk) (number : Nat) (pair : Entry × Nat) : Option Numbered :=
  match walk.slotAt? (number + 1) (number, pair.2) with
  | none => some (.mk (walk.numberAt number pair.2) pair.1 none)
  | some child =>
    (walk.numberedIn child).map fun below => .mk (walk.numberAt number pair.2) pair.1 (some below)

/-- **The tree that a walk is put together to, with numbers.** -/
def numbered (walk : Walk) : List Numbered := (walk.numberedIn 0).getD []

theorem numberedIn_eq (number : Nat) :
    walk.numberedIn number = ((walk.slots[number]?).bind Slot.entries).map fun entries =>
      entries.zipIdx.filterMap (walk.numberedEntry number) := by
  rw [numberedIn]
  congr 1
  funext entries
  congr 1
  funext pair
  unfold numberedEntry
  split <;> rename_i found <;> simp only [found]

theorem numbered_cases (walk : Walk) : walk.numberedIn 0 = some walk.numbered ∨ walk.numbered = [] := by
  unfold numbered
  cases walk.numberedIn 0 with
  | none => exact Or.inr rfl
  | some tree => exact Or.inl rfl

theorem numberedEntry_eq_some_iff {number place : Nat} {entry : Entry} {tree : Numbered} :
    walk.numberedEntry number (entry, place) = some tree ↔
      walk.slotAt? (number + 1) (number, place) = none ∧
          tree = .mk (walk.numberAt number place) entry none ∨
        ∃ child below, walk.slotAt? (number + 1) (number, place) = some child ∧
          walk.numberedIn child = some below ∧
            tree = .mk (walk.numberAt number place) entry (some below) := by
  unfold numberedEntry
  cases walk.slotAt? (number + 1) (number, place) with
  | none => simp [eq_comm]
  | some child => simp [Option.map_eq_some_iff, eq_comm (b := tree)]

/-- **What holds of a slot, given that it holds of the slots behind it, holds of every slot.** -/
theorem numberedIn_induction {motive : Nat → List Numbered → Prop}
    (step : ∀ number slot entries, walk.slots[number]? = some slot → slot.entries = some entries →
      (∀ child, number < child → ∀ below, walk.numberedIn child = some below →
        motive child below) → motive number (entries.zipIdx.filterMap (walk.numberedEntry number)))
    {number : Nat} {tree : List Numbered} (made : walk.numberedIn number = some tree) :
    motive number tree := by
  induction left : walk.slots.size - number using Nat.strongRecOn generalizing number tree with
  | ind left ih =>
    rw [numberedIn_eq] at made
    obtain ⟨entries, held, rfl⟩ := Option.map_eq_some_iff.mp made
    obtain ⟨slot, found, holds⟩ := Option.bind_eq_some_iff.mp held
    have inside := (Array.getElem?_eq_some_iff.mp found).1
    exact step number slot entries found holds fun child later below made =>
      ih _ (by omega) made rfl

theorem mem_withinAll_filterMap {number : Nat} {entries : List Entry} {pair : Nat × Entry} :
    pair ∈ Numbered.withinAll (entries.zipIdx.filterMap (walk.numberedEntry number)) ↔
      ∃ place entry tree, entries[place]? = some entry ∧
        walk.numberedEntry number (entry, place) = some tree ∧ pair ∈ tree.within := by
  rw [Numbered.withinAll_eq_flatMap]
  simp only [List.mem_flatMap, List.mem_filterMap, Prod.exists, List.mem_zipIdx_iff_getElem?]
  constructor
  · rintro ⟨tree, ⟨entry, place, found, made⟩, member⟩
    exact ⟨place, entry, tree, found, made, member⟩
  · rintro ⟨place, entry, tree, found, made, member⟩
    exact ⟨tree, ⟨entry, place, found, made⟩, member⟩

/-! ### Slots below a slot -/

/-- One slot is below another one, or is that slot. -/
inductive Beneath (walk : Walk) (top : Nat) : Nat → Prop
  | self : Beneath walk top top
  | hangs {number parent place : Nat} {slot : Slot} : walk.slots[number]? = some slot →
      slot.parent = some (parent, place) → Beneath walk top parent → Beneath walk top number

namespace Beneath

variable {top number parent place : Nat} {slot : Slot}

theorem le (coherent : walk.Coherent isLink limits root) (beneath : walk.Beneath top number) :
    top ≤ number := by
  induction beneath with
  | self => exact Nat.le_refl _
  | hangs found hangs _ ih => exact ih.trans (Nat.le_of_lt (coherent.hangs found hangs).earlier)

theorem above (found : walk.slots[top]? = some slot) (hangs : slot.parent = some (parent, place))
    (beneath : walk.Beneath top number) : walk.Beneath parent number := by
  induction beneath with
  | self => exact .hangs found hangs .self
  | hangs found hangs _ ih => exact .hangs found hangs ih

/-- **A slot is below no two slots of one directory.** -/
theorem unique (coherent : walk.Coherent isLink limits root) {other behind : Nat} {later : Slot}
    (found : walk.slots[top]? = some slot) (hangs : slot.parent = some (parent, place))
    (foundOther : walk.slots[other]? = some later) (hangsOther : later.parent = some (parent, behind))
    (beneath : walk.Beneath top number) (beneathOther : walk.Beneath other number) :
    top = other := by
  have earlier := (coherent.hangs found hangs).earlier
  have earlierOther := (coherent.hangs foundOther hangsOther).earlier
  induction beneath with
  | self =>
    cases beneathOther with
    | self => rfl
    | hangs foundTop hangsTop further =>
      rw [found] at foundTop
      cases foundTop
      rw [hangs] at hangsTop
      cases hangsTop
      exact absurd (further.le coherent) (Nat.not_le.mpr earlierOther)
  | hangs foundLast hangsLast further ih =>
    cases beneathOther with
    | self =>
      rw [foundOther] at foundLast
      cases foundLast
      rw [hangsOther] at hangsLast
      cases hangsLast
      exact absurd (further.le coherent) (Nat.not_le.mpr earlier)
    | hangs foundSame hangsSame furtherOther =>
      rw [foundLast] at foundSame
      cases foundSame
      rw [hangsLast] at hangsSame
      cases hangsSame
      exact ih furtherOther

end Beneath

/-! ### The numbers of a tree -/

section Tree

variable {number : Nat} {tree : List Numbered} {pair : Nat × Entry}

/-- **The entries of a tree stand in the slots below its own**, each under its number. -/
theorem placed_of_mem (made : walk.numberedIn number = some tree)
    (member : pair ∈ Numbered.withinAll tree) :
    ∃ (index place : Nat) (slot : Slot) (entries : List Entry), walk.Beneath number index ∧
      walk.slots[index]? = some slot ∧ slot.entries = some entries ∧
        entries[place]? = some pair.2 ∧ pair.1 = walk.numberAt index place := by
  refine numberedIn_induction (motive := fun number tree => ∀ pair ∈ Numbered.withinAll tree,
    ∃ (index place : Nat) (slot : Slot) (entries : List Entry), walk.Beneath number index ∧
      walk.slots[index]? = some slot ∧ slot.entries = some entries ∧
        entries[place]? = some pair.2 ∧ pair.1 = walk.numberAt index place) ?_ made pair member
  intro number slot entries found holds ih pair member
  obtain ⟨place, entry, tree, foundEntry, made, within⟩ := mem_withinAll_filterMap.mp member
  rcases numberedEntry_eq_some_iff.mp made with ⟨_, rfl⟩ | ⟨child, below, there, madeBelow, rfl⟩
  · rw [Numbered.within, List.mem_singleton] at within
    subst within
    exact ⟨number, place, slot, entries, .self, found, holds, foundEntry, rfl⟩
  · rcases List.mem_cons.mp within with rfl | deeper
    · exact ⟨number, place, slot, entries, .self, found, holds, foundEntry, rfl⟩
    · obtain ⟨later, _, foundChild, hangs⟩ := slotAt?_some there
      obtain ⟨index, placeBelow, rest⟩ := ih child later below madeBelow pair deeper
      exact ⟨index, placeBelow, rest.imp fun _ => Exists.imp fun _ stands =>
        ⟨stands.1.above foundChild hangs, stands.2⟩⟩

/-- **Every entry of the tree is the one met at its number.** -/
theorem met_of_mem_numbered (member : pair ∈ Numbered.withinAll walk.numbered) :
    walk.met[pair.1]? = some pair.2 := by
  rcases numbered_cases walk with made | empty
  · obtain ⟨index, place, slot, entries, _, found, holds, foundEntry, same⟩ :=
      placed_of_mem made member
    rw [same]
    exact met_numberAt found holds foundEntry
  · rw [empty, Numbered.withinAll] at member
    cases member

/-- Below an entry stand larger numbers only. -/
theorem numberAt_lt_of_mem (coherent : walk.Coherent isLink limits root) {slot : Slot}
    {entries : List Entry} {place child : Nat} {below : List Numbered}
    (found : walk.slots[number]? = some slot) (holds : slot.entries = some entries)
    (inside : place < entries.length) (later : number < child)
    (made : walk.numberedIn child = some below) (member : pair ∈ Numbered.withinAll below) :
    walk.numberAt number place < pair.1 := by
  obtain ⟨index, behind, _, _, beneath, _, _, _, isNumber⟩ := placed_of_mem made member
  rw [isNumber]
  exact numberAt_lt found holds inside (Nat.lt_of_lt_of_le later (beneath.le coherent)) behind

/-- A number belongs to one place only. -/
theorem numberAt_injective {index other place behind : Nat} {slot later : Slot}
    {entries entriesLater : List Entry} (found : walk.slots[index]? = some slot)
    (holds : slot.entries = some entries) (inside : place < entries.length)
    (foundOther : walk.slots[other]? = some later) (holdsOther : later.entries = some entriesLater)
    (insideOther : behind < entriesLater.length)
    (same : walk.numberAt index place = walk.numberAt other behind) :
    index = other ∧ place = behind := by
  rcases Nat.lt_trichotomy index other with before | rfl | after
  · exact absurd same (Nat.ne_of_lt (numberAt_lt found holds inside before behind))
  · exact ⟨rfl, Nat.add_left_cancel same⟩
  · exact absurd same (Nat.ne_of_gt (numberAt_lt foundOther holdsOther insideOther after place))

/-- A place is that of an entry in a slot, or in a slot below that entry. -/
def Under (walk : Walk) (number place index behind : Nat) : Prop :=
  index = number ∧ behind = place ∨ ∃ (child : Nat) (below : Slot), walk.slots[child]? = some below ∧
    below.parent = some (number, place) ∧ walk.Beneath child index

/-- No place is under two entries of a slot. -/
theorem Under.unique (coherent : walk.Coherent isLink limits root) {place other index behind : Nat}
    (under : walk.Under number place index behind)
    (underOther : walk.Under number other index behind) : place = other := by
  rcases under with ⟨rfl, rfl⟩ | ⟨child, below, found, hangs, beneath⟩ <;>
    rcases underOther with ⟨same, sameToo⟩ | ⟨later, above, foundLater, hangsLater, beneathLater⟩
  · exact sameToo
  · have earlier := (coherent.hangs foundLater hangsLater).earlier
    exact absurd (beneathLater.le coherent) (Nat.not_le.mpr earlier)
  · subst same
    have earlier := (coherent.hangs found hangs).earlier
    exact absurd (beneath.le coherent) (Nat.not_le.mpr earlier)
  · obtain rfl := Beneath.unique coherent found hangs foundLater hangsLater beneath beneathLater
    rw [found] at foundLater
    cases foundLater
    rw [hangs] at hangsLater
    cases hangsLater
    rfl

/-- The numbers of what becomes of an entry belong to places under it. -/
theorem under_of_mem_within {slot : Slot}
    {entries : List Entry} {entry : Entry} {place : Nat} {tree : Numbered}
    (found : walk.slots[number]? = some slot) (holds : slot.entries = some entries)
    (foundEntry : entries[place]? = some entry)
    (made : walk.numberedEntry number (entry, place) = some tree) (member : pair ∈ tree.within) :
    ∃ (index behind : Nat) (own : Slot) (held : List Entry), walk.Under number place index behind ∧
      walk.slots[index]? = some own ∧ own.entries = some held ∧ held[behind]? = some pair.2 ∧
        pair.1 = walk.numberAt index behind := by
  rcases numberedEntry_eq_some_iff.mp made with ⟨_, rfl⟩ | ⟨child, below, there, madeBelow, rfl⟩
  · rw [Numbered.within, List.mem_singleton] at member
    subst member
    exact ⟨number, place, slot, entries, Or.inl ⟨rfl, rfl⟩, found, holds, foundEntry, rfl⟩
  · rcases List.mem_cons.mp member with rfl | deeper
    · exact ⟨number, place, slot, entries, Or.inl ⟨rfl, rfl⟩, found, holds, foundEntry, rfl⟩
    · obtain ⟨_, above, foundChild, hangs⟩ := slotAt?_some there
      obtain ⟨index, behind, own, held, beneath, rest⟩ := placed_of_mem madeBelow deeper
      exact ⟨index, behind, own, held, Or.inr ⟨child, above, foundChild, hangs, beneath⟩, rest⟩

theorem nodup_numberedIn (coherent : walk.Coherent isLink limits root)
    (made : walk.numberedIn number = some tree) :
    ((Numbered.withinAll tree).map Prod.fst).Nodup := by
  refine numberedIn_induction (motive := fun _ tree =>
    ((Numbered.withinAll tree).map Prod.fst).Nodup) ?_ made
  intro number slot entries found holds ih
  rw [Numbered.withinAll_eq_flatMap, List.map_flatMap, List.nodup_flatMap]
  constructor
  · intro tree member
    obtain ⟨⟨entry, place⟩, placed, made⟩ := List.mem_filterMap.mp member
    have foundEntry := List.mem_zipIdx_iff_getElem?.mp placed
    have inside := (List.getElem?_eq_some_iff.mp foundEntry).1
    rcases numberedEntry_eq_some_iff.mp made with ⟨_, rfl⟩ | ⟨child, below, there, madeBelow, rfl⟩
    · simp [Numbered.within]
    · have later := (slotAt?_some there).1
      rw [Numbered.within, List.map_cons, List.nodup_cons]
      refine ⟨fun again => ?_, ih child later below madeBelow⟩
      obtain ⟨pair, deeper, same⟩ := List.mem_map.mp again
      have larger := numberAt_lt_of_mem coherent found holds inside later madeBelow deeper
      exact absurd same (Nat.ne_of_gt larger)
  · have ascending : entries.zipIdx.Pairwise fun first second => first.2 < second.2 := by
      refine List.pairwise_map.mp ?_
      rw [List.zipIdx_map_snd]
      exact List.pairwise_lt_range'
    refine List.pairwise_filterMap.mpr (ascending.imp_of_mem ?_)
    rintro ⟨first, place⟩ ⟨second, other⟩ placed placedOther before tree made treeOther madeOther
    refine List.disjoint_left.mpr fun met member memberOther => ?_
    obtain ⟨pair, within, rfl⟩ := List.mem_map.mp member
    obtain ⟨pairOther, withinOther, same⟩ := List.mem_map.mp memberOther
    obtain ⟨index, behind, own, held, under, foundOwn, holdsOwn, foundBehind, isNumber⟩ :=
      under_of_mem_within found holds (List.mem_zipIdx_iff_getElem?.mp placed) made within
    obtain ⟨indexOther, behindOther, ownOther, heldOther, underOther, foundOther, holdsOther,
      foundBehindOther, isNumberOther⟩ := under_of_mem_within found holds
        (List.mem_zipIdx_iff_getElem?.mp placedOther) madeOther withinOther
    obtain ⟨rfl, rfl⟩ := numberAt_injective foundOther holdsOther
      (List.getElem?_eq_some_iff.mp foundBehindOther).1 foundOwn holdsOwn
      (List.getElem?_eq_some_iff.mp foundBehind).1 (by omega)
    exact Nat.ne_of_lt before (under.unique coherent underOther)

/-- **No number stands twice in the tree.** -/
theorem nodup_numbered (coherent : walk.Coherent isLink limits root) :
    ((Numbered.withinAll walk.numbered).map Prod.fst).Nodup := by
  rcases numbered_cases walk with made | empty
  · exact nodup_numberedIn coherent made
  · rw [empty]
    exact List.nodup_nil

theorem withinAll_firsts_numberedIn (coherent : walk.Coherent isLink limits root)
    (made : walk.numberedIn number = some tree) (limit : Nat) :
    Numbered.withinAll (Numbered.firsts limit tree) =
      (Numbered.withinAll tree).filter fun pair => pair.1 < limit := by
  refine numberedIn_induction (motive := fun _ tree =>
    Numbered.withinAll (Numbered.firsts limit tree) =
      (Numbered.withinAll tree).filter fun pair => pair.1 < limit) ?_ made
  intro number slot entries found holds ih
  refine Numbered.withinAll_firsts_of_forall (fun tree member before => ?_)
    fun tree member behind pair within => ?_
  · obtain ⟨⟨entry, place⟩, placed, made⟩ := List.mem_filterMap.mp member
    rcases numberedEntry_eq_some_iff.mp made with ⟨_, rfl⟩ | ⟨child, below, there, madeBelow, rfl⟩
    · have first : walk.numberAt number place < limit := before
      simp [Numbered.trimmed, Numbered.within, first]
    · have first : walk.numberAt number place < limit := before
      have deeper := ih child (slotAt?_some there).1 below madeBelow
      simp [Numbered.trimmed, Numbered.within, first, deeper]
  · obtain ⟨⟨entry, place⟩, placed, made⟩ := List.mem_filterMap.mp member
    have foundEntry := List.mem_zipIdx_iff_getElem?.mp placed
    have inside := (List.getElem?_eq_some_iff.mp foundEntry).1
    rcases numberedEntry_eq_some_iff.mp made with ⟨_, rfl⟩ | ⟨child, below, there, madeBelow, rfl⟩
    · rw [Numbered.within, List.mem_singleton] at within
      subst within
      exact behind
    · rcases List.mem_cons.mp within with rfl | deeper
      · exact behind
      · have larger := numberAt_lt_of_mem coherent found holds inside (slotAt?_some there).1 madeBelow
          deeper
        exact Nat.le_of_lt (Nat.lt_of_le_of_lt behind larger)

/-- **Removing the entries from a number on removes those numbers and no others.** -/
theorem withinAll_firsts_numbered (coherent : walk.Coherent isLink limits root) (limit : Nat) :
    Numbered.withinAll (Numbered.firsts limit walk.numbered) =
      (Numbered.withinAll walk.numbered).filter fun pair => pair.1 < limit := by
  rcases numbered_cases walk with made | empty
  · exact withinAll_firsts_numberedIn coherent made limit
  · rw [empty]
    rfl

/-! ### What is missing in the tree -/

/-- A slot that holds something is part of the tree. -/
theorem withinAll_subset_numbered (coherent : walk.Coherent isLink limits root)
    (made : walk.numberedIn number = some tree) :
    Numbered.withinAll tree ⊆ Numbered.withinAll walk.numbered := by
  induction number using Nat.strongRecOn generalizing tree with
  | ind number ih =>
    rcases Nat.eq_zero_or_pos number with rfl | positive
    · rw [numbered, made, Option.getD_some]
      exact List.Subset.refl _
    · obtain ⟨slot, found, _⟩ : ∃ slot, walk.slots[number]? = some slot ∧ slot.entries.isSome := by
        have held := made
        rw [numberedIn_eq] at held
        obtain ⟨entries, held, _⟩ := Option.map_eq_some_iff.mp held
        obtain ⟨slot, found, holds⟩ := Option.bind_eq_some_iff.mp held
        exact ⟨slot, found, Option.isSome_of_eq_some holds⟩
      obtain ⟨parent, place, hangs⟩ := coherent.parent_of_pos positive found
      obtain ⟨earlier, above, entries, entry, foundAbove, holds, foundEntry, _⟩ :=
        coherent.hangs found hangs
      have madeAbove : walk.numberedIn parent =
          some (entries.zipIdx.filterMap (walk.numberedEntry parent)) := by
        rw [numberedIn_eq, foundAbove, Option.bind_some, holds, Option.map_some]
      have here : walk.numberedEntry parent (entry, place) =
          some (.mk (walk.numberAt parent place) entry (some tree)) :=
        numberedEntry_eq_some_iff.mpr (Or.inr ⟨number, tree,
          coherent.slotAt?_eq_some earlier found hangs, made, rfl⟩)
      refine fun pair member => ih parent earlier madeAbove (mem_withinAll_filterMap.mpr ?_)
      exact ⟨place, entry, _, foundEntry, here, List.mem_cons_of_mem _ member⟩

/-- **An entry that was met and is not in the tree is that of a slot that holds nothing.** -/
theorem unreadable_of_not_mem (coherent : walk.Coherent isLink limits root) {met : Nat}
    {entry : Entry} (isMet : walk.met[met]? = some entry)
    (missing : (met, entry) ∉ Numbered.withinAll walk.numbered) :
    ∃ (parent child : Nat) (slot below : Slot), walk.slots[parent]? = some slot ∧
      enters isLink limits slot.depth entry = true ∧ walk.slots[child]? = some below ∧
        below.path = entry.path ∧ below.entries = none := by
  obtain ⟨number, place, slot, entries, found, holds, foundEntry, rfl⟩ := exists_place_of_met isMet
  have made : walk.numberedIn number =
      some (entries.zipIdx.filterMap (walk.numberedEntry number)) := by
    rw [numberedIn_eq, found, Option.bind_some, holds, Option.map_some]
  have dropped : walk.numberedEntry number (entry, place) = none := by
    refine Option.eq_none_iff_forall_not_mem.mpr fun tree becomes => missing ?_
    refine withinAll_subset_numbered coherent made (mem_withinAll_filterMap.mpr ?_)
    refine ⟨place, entry, tree, foundEntry, becomes, ?_⟩
    rcases numberedEntry_eq_some_iff.mp becomes with ⟨_, rfl⟩ | ⟨_, _, _, _, rfl⟩
    · exact List.mem_singleton_self _
    · exact List.mem_cons_self
  cases entered : enters isLink limits slot.depth entry with
  | false =>
    have free := slotAt?_of_not_entered coherent found holds foundEntry entered
    rw [numberedEntry, free] at dropped
    cases dropped
  | true =>
    obtain ⟨child, below, _, foundBelow, _, path, _, here⟩ :=
      slotAt?_of_entered coherent found holds foundEntry entered
    refine ⟨number, child, slot, below, found, entered, foundBelow, path, ?_⟩
    rw [numberedEntry, here, Option.map_eq_none_iff, numberedIn_eq, foundBelow, Option.bind_some,
      Option.map_eq_none_iff] at dropped
    exact dropped

end Tree

end Walk

end DeclGraph.Tree
