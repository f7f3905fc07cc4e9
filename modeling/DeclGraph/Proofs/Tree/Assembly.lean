/-
**Putting a walk together.**

The slots of a finished walk are settled from the last to the first: what a slot holds by then moves
into the entry that the slot hangs at, or that entry is taken away. Entries are taken away behind a
place before the place is used, never in front of it, so every place still points at its own entry.

* `Walk.contents`: what a slot holds when it is moved into its parent;
* `Walk.settledEntries`: what becomes of the entries of a slot when the slots from a number on are
  settled;
* **`Walk.getElem?_settledFrom`**: the slots in the middle of the assembly;
* **`Walk.assemblesInPlace`**: every slot finds its own entry at its place;
* **`Walk.contents_eq`**: the contents of a slot, given those of the slots that hang at its entries.
-/

import DeclGraph.Proofs.Tree.Walk
import Mathlib.Data.List.Basic

namespace DeclGraph.Tree.Walk

variable {isLink : Path → Bool} {limits : Limits} {root : Path} {walk : Walk}

/-! ### Settling one entry of a list -/

/-- Settling the entry behind some others leaves these and those behind it alone. -/
theorem settle_append {before behind : List Entry} {entry : Entry} {place : Nat}
    (length : before.length = place) (children : Option (List Entry)) :
    settle place children (before ++ entry :: behind) =
      before ++ ((children.map fun children => entry.withChildren children).toList ++ behind) := by
  subst length
  induction before with
  | nil => cases children <;> rfl
  | cons first before ih => cases children <;> simpa [settle] using ih

/-- A list with the places of its entries, split at one of them. -/
theorem zipIdx_split {entries : List Entry} {place : Nat} {entry : Entry}
    (found : entries[place]? = some entry) :
    entries.zipIdx =
      (entries.take place).zipIdx ++ (entry, place) :: (entries.drop (place + 1)).zipIdx (place + 1) := by
  obtain ⟨inside, rfl⟩ := List.getElem?_eq_some_iff.mp found
  have split : entries = entries.take place ++ entries[place] :: entries.drop (place + 1) := by
    rw [List.getElem_cons_drop, List.take_append_drop]
  have length : (entries.take place).length = place := by
    rw [List.length_take]
    omega
  conv_lhs => rw [split]
  rw [List.zipIdx_append, length, Nat.zero_add, List.zipIdx_cons]

/-- A choice among entries with their places that looks at the entries only. -/
theorem filterMap_zipIdx {entries : List Entry} {choose : Entry × Nat → Option Entry}
    {pick : Entry → Option Entry}
    (same : ∀ entry place, entries[place]? = some entry → choose (entry, place) = pick entry) :
    entries.zipIdx.filterMap choose = entries.filterMap pick := by
  have onEntries : entries.zipIdx.filterMap choose = entries.zipIdx.filterMap (pick ∘ Prod.fst) :=
    List.filterMap_congr fun pair member =>
      same pair.1 pair.2 (List.mem_zipIdx_iff_getElem?.mp member)
  rw [onEntries, ← List.filterMap_map, List.zipIdx_map_fst]

/-! ### The slot at a place -/

/-- The slot, among those from a number on, that hangs at a place. -/
def slotAt? (walk : Walk) (number : Nat) (place : Nat × Nat) : Option Nat :=
  (List.range' number (walk.slots.size - number)).find? fun child =>
    (walk.slots[child]?.bind Slot.parent) == some place

section SlotAt

variable {number : Nat} {place : Nat × Nat} {slot : Slot}

theorem slotAt?_some {child : Nat} (found : walk.slotAt? number place = some child) :
    number ≤ child ∧ ∃ below, walk.slots[child]? = some below ∧ below.parent = some place := by
  refine ⟨(List.mem_range'_1.mp (List.mem_of_find?_eq_some found)).1, ?_⟩
  have hangs := List.find?_some found
  simp only [beq_iff_eq, Option.bind_eq_some_iff] at hangs
  exact hangs

theorem slotAt?_none
    (free : ∀ child below, number ≤ child → walk.slots[child]? = some below →
      below.parent ≠ some place) : walk.slotAt? number place = none := by
  cases found : walk.slotAt? number place with
  | none => rfl
  | some child =>
    obtain ⟨later, below, foundBelow, hangs⟩ := slotAt?_some found
    exact absurd hangs (free child below later foundBelow)

theorem range'_slots (found : walk.slots[number]? = some slot) :
    List.range' number (walk.slots.size - number) =
      number :: List.range' (number + 1) (walk.slots.size - (number + 1)) := by
  have inside := (Array.getElem?_eq_some_iff.mp found).1
  rw [show walk.slots.size - number = walk.slots.size - (number + 1) + 1 by omega, List.range'_succ]

/-- A slot that does not hang at the place is passed over. -/
theorem slotAt?_succ (found : walk.slots[number]? = some slot)
    (elsewhere : slot.parent ≠ some place) :
    walk.slotAt? number place = walk.slotAt? (number + 1) place := by
  unfold slotAt?
  rw [range'_slots found, List.find?_cons_of_neg]
  simp [found, elsewhere]

end SlotAt

/-! ### Coherent walks -/

namespace Coherent

/-- Slots are in the order of the places that they hang at. -/
theorem earlier (coherent : walk.Coherent isLink limits root) {number other : Nat}
    {slot later : Slot} (before : number < other) (found : walk.slots[number]? = some slot)
    (foundLater : walk.slots[other]? = some later) : Earlier slot.parent later.parent := by
  obtain ⟨inside, rfl⟩ := Array.getElem?_eq_some_iff.mp found
  obtain ⟨insideLater, rfl⟩ := Array.getElem?_eq_some_iff.mp foundLater
  have ordered := List.pairwise_iff_getElem.mp coherent.ordered number other
    (by simpa [places] using inside) (by simpa [places] using insideLater) before
  simpa [places] using ordered

/-- Every slot but the first hangs at a place. -/
theorem parent_of_pos (coherent : walk.Coherent isLink limits root) {number : Nat} {slot : Slot}
    (positive : 0 < number) (found : walk.slots[number]? = some slot) :
    ∃ parent place, slot.parent = some (parent, place) := by
  obtain ⟨held, first⟩ := coherent.first
  have behind := coherent.earlier positive first found
  cases hangs : slot.parent with
  | none => rw [hangs] at behind; exact behind.elim
  | some pair => exact ⟨pair.1, pair.2, rfl⟩

/-- Two slots do not hang at one place. -/
theorem parent_injective (coherent : walk.Coherent isLink limits root) {number other : Nat}
    {slot later : Slot} {place : Nat × Nat} (found : walk.slots[number]? = some slot)
    (foundLater : walk.slots[other]? = some later) (hangs : slot.parent = some place)
    (hangsLater : later.parent = some place) : number = other := by
  rcases Nat.lt_trichotomy number other with before | same | after
  · have behind := coherent.earlier before found foundLater
    rw [hangs, hangsLater] at behind
    rcases behind with less | ⟨_, less⟩ <;> exact absurd less (Nat.lt_irrefl _)
  · exact same
  · have behind := coherent.earlier after foundLater found
    rw [hangs, hangsLater] at behind
    rcases behind with less | ⟨_, less⟩ <;> exact absurd less (Nat.lt_irrefl _)

/-- The slot at a place is the one that hangs there. -/
theorem slotAt?_eq_some (coherent : walk.Coherent isLink limits root) {number child : Nat}
    {below : Slot} {place : Nat × Nat} (later : number ≤ child)
    (found : walk.slots[child]? = some below) (hangs : below.parent = some place) :
    walk.slotAt? number place = some child := by
  cases first : walk.slotAt? number place with
  | none =>
    have inside := (Array.getElem?_eq_some_iff.mp found).1
    have member : child ∈ List.range' number (walk.slots.size - number) :=
      List.mem_range'_1.mpr ⟨later, by omega⟩
    have passed := List.find?_eq_none.mp first child member
    simp [found, hangs] at passed
  | some other =>
    obtain ⟨_, slot, foundSlot, hangsSlot⟩ := slotAt?_some first
    rw [coherent.parent_injective foundSlot found hangsSlot hangs]

/-- What is known of a slot that hangs at an entry. -/
theorem hangs_at (coherent : walk.Coherent isLink limits root) {number place child : Nat}
    {slot below : Slot} {entries : List Entry} {entry : Entry}
    (found : walk.slots[number]? = some slot) (holds : slot.entries = some entries)
    (foundEntry : entries[place]? = some entry) (foundBelow : walk.slots[child]? = some below)
    (hangs : below.parent = some (number, place)) :
    number < child ∧ enters isLink limits slot.depth entry = true ∧ below.path = entry.path ∧
      below.depth = slot.depth + 1 := by
  obtain ⟨earlier, above, held, other, foundAbove, heldBy, foundOther, entered, path, depth⟩ :=
    coherent.hangs foundBelow hangs
  rw [found] at foundAbove
  cases foundAbove
  rw [holds] at heldBy
  cases heldBy
  rw [foundEntry] at foundOther
  cases foundOther
  exact ⟨earlier, entered, path, depth⟩

end Coherent

/-! ### The middle of the assembly -/

/-- What a slot holds when it is moved into its parent: by then the slots behind it are settled. -/
def contents (walk : Walk) (number : Nat) : Option (List Entry) :=
  ((walk.settledFrom (number + 1))[number]?).bind Slot.entries

/-- What becomes of the entry at a place when the slots from a number on are settled. -/
def settledEntry (walk : Walk) (number : Nat) (place : Nat × Nat) (entry : Entry) : Option Entry :=
  match walk.slotAt? number place with
  | some child => (walk.contents child).map fun children => entry.withChildren children
  | none => some entry

/-- What becomes of entries that stand in a slot from a place on, when the slots from a number on are
settled. -/
def settledEntries (walk : Walk) (number slot place : Nat) (entries : List Entry) : List Entry :=
  (entries.zipIdx place).filterMap fun pair => walk.settledEntry number (slot, pair.2) pair.1

theorem settledFrom_of_size_le {number : Nat} (behind : walk.slots.size ≤ number) :
    walk.settledFrom number = walk.slots := by
  unfold settledFrom
  rw [Nat.sub_eq_zero_of_le behind]
  rfl

theorem settledFrom_step {number : Nat} {slot : Slot} (found : walk.slots[number]? = some slot) :
    walk.settledFrom number = settleSlot (walk.settledFrom (number + 1)) number := by
  unfold settledFrom
  rw [range'_slots found]
  rfl

/-- The entries of a slot, split at one of them. -/
theorem settledEntries_split {number slot place : Nat} {entries : List Entry} {entry : Entry}
    (found : entries[place]? = some entry) :
    walk.settledEntries number slot 0 entries =
      walk.settledEntries number slot 0 (entries.take place) ++
        ((walk.settledEntry number (slot, place) entry).toList ++
          walk.settledEntries number slot (place + 1) (entries.drop (place + 1))) := by
  unfold settledEntries
  rw [zipIdx_split found, List.filterMap_append, List.filterMap_cons]
  cases walk.settledEntry number (slot, place) entry <;> rfl

/-- Only the slot that hangs at an entry changes it. -/
theorem settledEntry_succ {number : Nat} {slot : Slot} {place : Nat × Nat}
    (found : walk.slots[number]? = some slot) (elsewhere : slot.parent ≠ some place) (entry : Entry) :
    walk.settledEntry number place entry = walk.settledEntry (number + 1) place entry := by
  unfold settledEntry
  rw [slotAt?_succ found elsewhere]

theorem settledEntries_succ {number other start : Nat} {slot : Slot} {entries : List Entry}
    (found : walk.slots[number]? = some slot)
    (elsewhere : ∀ place, start ≤ place → place < start + entries.length →
      slot.parent ≠ some (other, place)) :
    walk.settledEntries number other start entries =
      walk.settledEntries (number + 1) other start entries := by
  unfold settledEntries
  refine List.filterMap_congr fun pair member => settledEntry_succ found (elsewhere _ ?_ ?_) _
  · exact List.le_snd_of_mem_zipIdx member
  · exact List.snd_lt_add_of_mem_zipIdx member

section Step

variable {number parent place : Nat} {slot : Slot} {entries : List Entry} {entry : Entry}

/-- The slots behind a slot hang at places behind its own. -/
theorem settledEntry_before (coherent : walk.Coherent isLink limits root)
    (found : walk.slots[number]? = some slot) (hangs : slot.parent = some (parent, place))
    {before : Nat} (notBehind : before ≤ place) (other : Entry) :
    walk.settledEntry (number + 1) (parent, before) other = some other := by
  have free : walk.slotAt? (number + 1) (parent, before) = none := by
    refine slotAt?_none fun child below later foundBelow hangsBelow => ?_
    have order := coherent.earlier later found foundBelow
    rw [hangs, hangsBelow] at order
    rcases order with less | ⟨_, less⟩
    · exact Nat.lt_irrefl _ less
    · exact Nat.not_lt.mpr notBehind less
  unfold settledEntry
  rw [free]

/-- What stands in front of the place of a slot is not changed before the slot is settled. -/
theorem settledEntries_front (coherent : walk.Coherent isLink limits root)
    (found : walk.slots[number]? = some slot) (hangs : slot.parent = some (parent, place)) :
    walk.settledEntries (number + 1) parent 0 (entries.take place) = entries.take place := by
  refine (filterMap_zipIdx fun other before foundOther => ?_).trans List.filterMap_some
  have inside := (List.getElem?_eq_some_iff.mp foundOther).1
  rw [List.length_take] at inside
  exact settledEntry_before coherent found hangs (by omega) other

/-- **Before a slot is settled, its entry stands at its place, and nothing in front of it has
changed.** -/
theorem settledEntries_before (coherent : walk.Coherent isLink limits root)
    (found : walk.slots[number]? = some slot) (hangs : slot.parent = some (parent, place))
    (foundEntry : entries[place]? = some entry) :
    walk.settledEntries (number + 1) parent 0 entries = entries.take place ++ entry ::
      walk.settledEntries (number + 1) parent (place + 1) (entries.drop (place + 1)) := by
  rw [settledEntries_split foundEntry, settledEntries_front coherent found hangs,
    settledEntry_before coherent found hangs (Nat.le_refl _)]
  rfl

/-- **Settling a slot gives its parent the entries that are due.** -/
theorem settle_settledEntries (coherent : walk.Coherent isLink limits root)
    (found : walk.slots[number]? = some slot) (hangs : slot.parent = some (parent, place))
    (foundEntry : entries[place]? = some entry) :
    settle place (walk.contents number) (walk.settledEntries (number + 1) parent 0 entries) =
      walk.settledEntries number parent 0 entries := by
  have length : (entries.take place).length = place := by
    have inside := (List.getElem?_eq_some_iff.mp foundEntry).1
    rw [List.length_take]
    omega
  have here : walk.settledEntry number (parent, place) entry =
      (walk.contents number).map fun children => entry.withChildren children := by
    unfold settledEntry
    rw [coherent.slotAt?_eq_some (Nat.le_refl _) found hangs]
  have elsewhere : ∀ other ≠ place, slot.parent ≠ some (parent, other) := by
    rintro other different same
    rw [hangs] at same
    cases same
    exact different rfl
  have front : walk.settledEntries number parent 0 (entries.take place) = entries.take place := by
    rw [settledEntries_succ found fun other _ before => elsewhere other (by omega)]
    exact settledEntries_front coherent found hangs
  have back : walk.settledEntries number parent (place + 1) (entries.drop (place + 1)) =
      walk.settledEntries (number + 1) parent (place + 1) (entries.drop (place + 1)) :=
    settledEntries_succ found fun other behind _ => elsewhere other (by omega)
  rw [settledEntries_before coherent found hangs foundEntry, settledEntries_split foundEntry, front,
    here, back]
  exact settle_append length _

end Step

/-- Behind the last slot nothing is settled. -/
theorem settledEntries_of_size_le {start : Nat} (behind : walk.slots.size ≤ start) (number : Nat) :
    walk.settledEntries start number 0 = id := by
  have none : ∀ place, walk.slotAt? start place = none := fun place => by
    unfold slotAt?
    rw [Nat.sub_eq_zero_of_le behind]
    rfl
  funext entries
  refine (filterMap_zipIdx fun entry place _ => ?_).trans List.filterMap_some
  show walk.settledEntry start (number, place) entry = some entry
  unfold settledEntry
  rw [none]

/-- **One step of the assembly.** If every slot has the entries that are due behind a number, it has
those that are due from it on when the slot with the number is settled. -/
theorem getElem?_settledFrom_step (coherent : walk.Coherent isLink limits root) {start : Nat}
    (positive : 0 < start) (inside : start < walk.slots.size)
    (before : ∀ {number : Nat} {slot : Slot}, walk.slots[number]? = some slot →
      (walk.settledFrom (start + 1))[number]? = some
        { slot with entries := slot.entries.map (walk.settledEntries (start + 1) number 0) })
    {number : Nat} {slot : Slot} (found : walk.slots[number]? = some slot) :
    (walk.settledFrom start)[number]? =
      some { slot with entries := slot.entries.map (walk.settledEntries start number 0) } := by
  obtain ⟨last, foundLast⟩ : ∃ last, walk.slots[start]? = some last :=
    ⟨_, Array.getElem?_eq_getElem inside⟩
  obtain ⟨parent, place, hangs⟩ := coherent.parent_of_pos positive foundLast
  obtain ⟨earlier, above, entries, entry, foundAbove, holds, foundEntry, _⟩ :=
    coherent.hangs foundLast hangs
  have lastContents : walk.contents start =
      last.entries.map (walk.settledEntries (start + 1) start 0) := by
    unfold contents
    rw [before foundLast]
    rfl
  rw [settledFrom_step foundLast]
  unfold settleSlot
  rw [before foundLast]
  simp only [hangs, Array.getElem?_modify, before found, ← lastContents]
  by_cases same : parent = number
  · subst same
    rw [foundAbove] at found
    cases found
    simp only [if_true, Option.map_some, holds,
      settle_settledEntries coherent foundLast hangs foundEntry]
  · rw [if_neg same]
    have elsewhere : ∀ place, last.parent ≠ some (number, place) := by
      rintro place same'
      rw [hangs] at same'
      cases same'
      exact same rfl
    have unchanged : walk.settledEntries start number 0 =
        walk.settledEntries (start + 1) number 0 :=
      funext fun entries => settledEntries_succ foundLast fun place _ _ => elsewhere place
    rw [unchanged]

/-- **The slots in the middle of the assembly.** Every slot has the entries that are due when those
from a number on are settled, the last slot first. -/
theorem getElem?_settledFrom (coherent : walk.Coherent isLink limits root) {start number : Nat}
    {slot : Slot} (positive : 0 < start) (found : walk.slots[number]? = some slot) :
    (walk.settledFrom start)[number]? =
      some { slot with entries := slot.entries.map (walk.settledEntries start number 0) } := by
  induction remaining : walk.slots.size - start generalizing start number slot with
  | zero =>
    have behind : walk.slots.size ≤ start := by omega
    rw [settledFrom_of_size_le behind, found, settledEntries_of_size_le behind, Option.map_id_fun,
      id]
  | succ remaining ih =>
    have inside : start < walk.slots.size := by omega
    exact getElem?_settledFrom_step coherent positive inside
      (fun found => ih (Nat.succ_pos start) found (by omega)) found

/-! ### Places -/

/-- When its turn comes, a slot finds at its place the very entry that it was made for: the entries
of its parent are, up to that place, as they were read. -/
structure FindsEntry (walk : Walk) (number : Nat) (slot : Slot) (parent place : Nat)
    (entries left : List Entry) (entry : Entry) : Prop where
  hangs : slot.parent = some (parent, place)
  earlier : parent < number
  read : ∃ above, walk.slots[parent]? = some above ∧ above.entries = some entries
  made_for : entries[place]? = some entry ∧ entry.path = slot.path
  own : ∃ own, (walk.settledFrom (number + 1))[number]? = some own ∧ own.parent = slot.parent
  now : ∃ now, (walk.settledFrom (number + 1))[parent]? = some now ∧ now.entries = some left
  there : left[place]? = some entry
  front : left.take place = entries.take place

/-- Every slot but the first finds its own entry. -/
def AssemblesInPlace (walk : Walk) : Prop :=
  ∀ (number : Nat) (slot : Slot), 0 < number → walk.slots[number]? = some slot →
    ∃ parent place entries left entry, walk.FindsEntry number slot parent place entries left entry

/-- **Every slot of a coherent walk finds its own entry at its place.** -/
theorem assemblesInPlace (coherent : walk.Coherent isLink limits root) : walk.AssemblesInPlace := by
  intro number slot positive found
  obtain ⟨parent, place, hangs⟩ := coherent.parent_of_pos positive found
  obtain ⟨earlier, above, entries, entry, foundAbove, holds, foundEntry, _, path, _⟩ :=
    coherent.hangs found hangs
  have own := getElem?_settledFrom coherent (Nat.succ_pos number) found
  have now := getElem?_settledFrom coherent (Nat.succ_pos number) foundAbove
  have before := settledEntries_before coherent found hangs foundEntry
  have length : (entries.take place).length = place := by
    have inside := (List.getElem?_eq_some_iff.mp foundEntry).1
    rw [List.length_take]
    omega
  refine ⟨parent, place, entries, walk.settledEntries (number + 1) parent 0 entries, entry, hangs,
    earlier, ⟨above, foundAbove, holds⟩, ⟨foundEntry, path.symm⟩, ⟨_, own, rfl⟩, ⟨_, now, ?_⟩, ?_, ?_⟩
  · rw [holds]
    rfl
  · rw [before, List.getElem?_append_right (Nat.le_of_eq length), length, Nat.sub_self]
    rfl
  · rw [before, List.take_append_of_le_length (Nat.le_of_eq length.symm), List.take_take,
      Nat.min_self]

/-! ### Contents -/

/-- **The contents of a slot**, given those of the slots that hang at its entries. -/
theorem contents_eq (coherent : walk.Coherent isLink limits root) {number : Nat} {slot : Slot}
    (found : walk.slots[number]? = some slot) :
    walk.contents number = slot.entries.map (walk.settledEntries (number + 1) number 0) := by
  unfold contents
  rw [getElem?_settledFrom coherent (Nat.succ_pos number) found]
  rfl

section Contents

variable {number place : Nat} {slot : Slot} {entries : List Entry} {entry : Entry}

/-- An entry that the walk goes into has its slot. -/
theorem slotAt?_of_entered (coherent : walk.Coherent isLink limits root)
    (found : walk.slots[number]? = some slot) (holds : slot.entries = some entries)
    (foundEntry : entries[place]? = some entry)
    (entered : enters isLink limits slot.depth entry = true) :
    ∃ (child : Nat) (below : Slot), number < child ∧ walk.slots[child]? = some below ∧
      below.parent = some (number, place) ∧ below.path = entry.path ∧
        below.depth = slot.depth + 1 ∧ walk.slotAt? (number + 1) (number, place) = some child := by
  obtain ⟨child, below, foundBelow, hangs⟩ := coherent.complete found holds foundEntry entered
  obtain ⟨earlier, _, path, depth⟩ := coherent.hangs_at found holds foundEntry foundBelow hangs
  exact ⟨child, below, earlier, foundBelow, hangs, path, depth,
    coherent.slotAt?_eq_some earlier foundBelow hangs⟩

/-- At an entry that the walk does not go into hangs no slot. -/
theorem slotAt?_of_not_entered (coherent : walk.Coherent isLink limits root)
    (found : walk.slots[number]? = some slot) (holds : slot.entries = some entries)
    (foundEntry : entries[place]? = some entry)
    (passed : enters isLink limits slot.depth entry = false) :
    walk.slotAt? (number + 1) (number, place) = none := by
  refine slotAt?_none fun child below _ foundBelow hangs => ?_
  obtain ⟨_, entered, _⟩ := coherent.hangs_at found holds foundEntry foundBelow hangs
  rw [passed] at entered
  cases entered

/-- An entry that the walk goes into gets the contents of its slot. -/
theorem settledEntry_of_entered (coherent : walk.Coherent isLink limits root)
    (found : walk.slots[number]? = some slot) (holds : slot.entries = some entries)
    (foundEntry : entries[place]? = some entry)
    (entered : enters isLink limits slot.depth entry = true) :
    ∃ (child : Nat) (below : Slot), number < child ∧ walk.slots[child]? = some below ∧
      below.path = entry.path ∧ below.depth = slot.depth + 1 ∧
        walk.settledEntry (number + 1) (number, place) entry =
          (walk.contents child).map fun children => entry.withChildren children := by
  obtain ⟨child, below, earlier, foundBelow, _, path, depth, here⟩ :=
    slotAt?_of_entered coherent found holds foundEntry entered
  refine ⟨child, below, earlier, foundBelow, path, depth, ?_⟩
  unfold settledEntry
  rw [here]

/-- An entry that the walk does not go into stays as it is. -/
theorem settledEntry_of_not_entered (coherent : walk.Coherent isLink limits root)
    (found : walk.slots[number]? = some slot) (holds : slot.entries = some entries)
    (foundEntry : entries[place]? = some entry)
    (passed : enters isLink limits slot.depth entry = false) :
    walk.settledEntry (number + 1) (number, place) entry = some entry := by
  unfold settledEntry
  rw [slotAt?_of_not_entered coherent found holds foundEntry passed]

end Contents

end DeclGraph.Tree.Walk
