/-
**Walks through a directory tree.**

* `Walk.Hangs`: a slot hangs at a place of an earlier slot, at an entry that the walk goes into;
* `Walk.Coherent`: what holds of a walk after every reading. Every slot but the first hangs at a
  place, the slots are in the order of their places, and every entry that the walk goes into has its
  slot;
* **`Walk.runFrom_induction`**: what every reading preserves holds in the end;
* **`Walk.coherent_run`**: a finished walk is coherent, and all its slots are read. The limit on
  entries bounds the slots, so the bound on the readings never ends a walk;
* `list_of_files`: a directory with nothing but files.
-/

import DeclGraph.Tree.Listing

namespace DeclGraph.Tree

namespace Walk

variable {ε : Type} {isLink : Path → Bool} {limits : Limits} {root : Path} {walk : Walk}

/-! ### The slots for the entries of a directory -/

/-- The slots for a directory are those of the entries that the walk goes into. -/
theorem mem_slotsFor {number depth : Nat} {entries : List Entry} {slot : Slot} :
    slot ∈ slotsFor isLink limits number depth entries ↔
      ∃ (place : Nat) (entry : Entry), entries[place]? = some entry ∧
        enters isLink limits depth entry = true ∧
          slot = { path := entry.path, depth := depth + 1, parent := some (number, place) } := by
  unfold slotsFor
  simp only [List.mem_map, List.mem_filter, Prod.exists, List.mem_zipIdx_iff_getElem?]
  constructor
  · rintro ⟨entry, place, ⟨found, entered⟩, rfl⟩
    exact ⟨place, entry, found, entered, rfl⟩
  · rintro ⟨place, entry, found, entered, rfl⟩
    exact ⟨entry, place, ⟨found, entered⟩, rfl⟩

theorem length_slotsFor_le (isLink : Path → Bool) (limits : Limits) (number depth : Nat)
    (entries : List Entry) :
    (slotsFor isLink limits number depth entries).length ≤ entries.length := by
  unfold slotsFor
  rw [List.length_map]
  exact Nat.le_trans (List.length_filter_le _ _) (Nat.le_of_eq List.length_zipIdx)

/-! ### The order of places -/

/-- One place comes before another: it belongs to an earlier slot, or stands earlier in the same
one. The root has no place and comes first. -/
def Earlier : Option (Nat × Nat) → Option (Nat × Nat) → Prop
  | none, some _ => True
  | some (slot, place), some (other, behind) => slot < other ∨ slot = other ∧ place < behind
  | _, none => False

/-- The places at which the slots hang. -/
def places (walk : Walk) : List (Option (Nat × Nat)) := walk.slots.toList.map Slot.parent

/-- The slots for a directory are in the order of its entries. -/
theorem pairwise_slotsFor (number depth : Nat) (entries : List Entry) :
    ((slotsFor isLink limits number depth entries).map Slot.parent).Pairwise Earlier := by
  have ascending : (entries.zipIdx.map Prod.snd).Pairwise (· < ·) := by
    rw [List.zipIdx_map_snd]
    exact List.pairwise_lt_range'
  unfold slotsFor
  rw [List.pairwise_map, List.pairwise_map]
  refine (List.Pairwise.filter _ (List.pairwise_map.mp ascending)).imp fun before => ?_
  exact Or.inr ⟨rfl, before⟩

/-! ### What a reading changes -/

section Take

variable {slot : Slot} {entries : List Entry}

theorem size_take :
    (walk.take isLink limits slot entries).slots.size = walk.slots.size +
      (slotsFor isLink limits walk.next slot.depth (walk.cap limits entries)).length := by
  simp [take, ← Array.length_toList]

/-- The next slot holds what was read. -/
theorem getElem?_take_next (found : walk.slots[walk.next]? = some slot) :
    (walk.take isLink limits slot entries).slots[walk.next]? =
      some { slot with entries := some (walk.cap limits entries) } := by
  have inside := (Array.getElem?_eq_some_iff.mp found).1
  simp [take, ← Array.getElem?_toList, List.getElem?_append, inside]

/-- The other slots are as they were. -/
theorem getElem?_take_of_ne {number : Nat} (inside : number < walk.slots.size)
    (other : number ≠ walk.next) :
    (walk.take isLink limits slot entries).slots[number]? = walk.slots[number]? := by
  simp [take, ← Array.getElem?_toList, List.getElem?_append, inside, other.symm]

/-- Behind them stand the slots for the directories that were read. -/
theorem getElem?_take_new {number : Nat} (behind : walk.slots.size ≤ number) :
    (walk.take isLink limits slot entries).slots[number]? =
      (slotsFor isLink limits walk.next slot.depth (walk.cap limits entries))[
        number - walk.slots.size]? := by
  simp [take, ← Array.getElem?_toList, List.getElem?_append, Nat.not_lt.mpr behind]

theorem places_take (found : walk.slots[walk.next]? = some slot) :
    (walk.take isLink limits slot entries).places = walk.places ++
      (slotsFor isLink limits walk.next slot.depth (walk.cap limits entries)).map Slot.parent := by
  have same : (walk.slots.toList.map Slot.parent)[walk.next]? = some slot.parent := by
    rw [List.getElem?_map, Array.getElem?_toList, found, Option.map_some]
  obtain ⟨inside, same⟩ := List.getElem?_eq_some_iff.mp same
  simp only [places, take, Array.toList_appendList, Array.toList_setIfInBounds, List.map_append,
    List.map_set]
  rw [← same, List.set_getElem_self]

end Take

/-! ### Coherent walks -/

/-- A slot hangs at a place: there an earlier slot holds the entry that the slot was made for. -/
structure Hangs (isLink : Path → Bool) (limits : Limits) (walk : Walk) (number : Nat) (slot : Slot)
    (parent place : Nat) : Prop where
  earlier : parent < number
  at_entry : ∃ (above : Slot) (entries : List Entry) (entry : Entry),
    walk.slots[parent]? = some above ∧ above.entries = some entries ∧
      entries[place]? = some entry ∧ enters isLink limits above.depth entry = true ∧
        slot.path = entry.path ∧ slot.depth = above.depth + 1

/-- **What holds of a walk after every reading.** -/
structure Coherent (isLink : Path → Bool) (limits : Limits) (root : Path) (walk : Walk) : Prop where
  first : ∃ held, walk.slots[0]? =
    some { path := root, depth := 0, parent := none, entries := held }
  hangs : ∀ {number parent place : Nat} {slot : Slot}, walk.slots[number]? = some slot →
    slot.parent = some (parent, place) → walk.Hangs isLink limits number slot parent place
  ordered : walk.places.Pairwise Earlier
  complete : ∀ {number place : Nat} {slot : Slot} {entries : List Entry} {entry : Entry},
    walk.slots[number]? = some slot →
    slot.entries = some entries → entries[place]? = some entry →
      enters isLink limits slot.depth entry = true →
        ∃ (child : Nat) (below : Slot), walk.slots[child]? = some below ∧
          below.parent = some (number, place)
  unread : ∀ {number : Nat} {slot : Slot}, walk.next ≤ number → walk.slots[number]? = some slot →
    slot.entries = none
  size_le : walk.slots.size ≤ walk.total + 1
  total_le : walk.total ≤ limits.entries

namespace Coherent

/-- The slot that a reading leaves out stays empty. -/
theorem skip (coherent : walk.Coherent isLink limits root) :
    { walk with next := walk.next + 1 }.Coherent isLink limits root where
  first := coherent.first
  hangs found place := ⟨(coherent.hangs found place).earlier, (coherent.hangs found place).at_entry⟩
  ordered := coherent.ordered
  complete := coherent.complete
  unread later found := coherent.unread (Nat.le_of_succ_le later) found
  size_le := coherent.size_le
  total_le := coherent.total_le

theorem start (root : Path) : (start root).Coherent isLink limits root where
  first := ⟨none, rfl⟩
  hangs := by
    intro number slot parent place found hangs
    obtain ⟨inside, rfl⟩ := Array.getElem?_eq_some_iff.mp found
    simp [Walk.start] at hangs
  ordered := by simp [places, Walk.start]
  complete := by
    intro number slot entries place entry found holds
    obtain ⟨inside, rfl⟩ := Array.getElem?_eq_some_iff.mp found
    simp [Walk.start] at holds
  unread := by
    intro number slot _ found
    obtain ⟨inside, rfl⟩ := Array.getElem?_eq_some_iff.mp found
    simp [Walk.start]
  size_le := Nat.le_refl 1
  total_le := Nat.zero_le _

section Take

variable {slot : Slot} {entries : List Entry}

/-- A slot after a reading is an earlier one, the one just read, or one of those for the directories
that were read. -/
theorem take_cases (found : walk.slots[walk.next]? = some slot) {number : Nat} {other : Slot}
    (later : (walk.take isLink limits slot entries).slots[number]? = some other) :
    (number ≠ walk.next ∧ walk.slots[number]? = some other) ∨
      (number = walk.next ∧ other = { slot with entries := some (walk.cap limits entries) }) ∨
      (walk.slots.size ≤ number ∧ ∃ place entry, (walk.cap limits entries)[place]? = some entry ∧
        enters isLink limits slot.depth entry = true ∧ other =
          { path := entry.path, depth := slot.depth + 1, parent := some (walk.next, place) }) := by
  by_cases inside : number < walk.slots.size
  · by_cases same : number = walk.next
    · subst same
      rw [getElem?_take_next found] at later
      exact Or.inr (Or.inl ⟨rfl, (Option.some.inj later).symm⟩)
    · rw [getElem?_take_of_ne inside same] at later
      exact Or.inl ⟨same, later⟩
  · have behind := Nat.not_lt.mp inside
    rw [getElem?_take_new behind] at later
    exact Or.inr (Or.inr ⟨behind, mem_slotsFor.mp (List.mem_of_getElem? later)⟩)

/-- A slot that holds entries before a reading still holds them afterwards. -/
theorem take_kept (coherent : walk.Coherent isLink limits root) {number : Nat} {other : Slot}
    {held : List Entry} (found : walk.slots[number]? = some other) (holds : other.entries = some held) :
    (walk.take isLink limits slot entries).slots[number]? = some other := by
  have different : number ≠ walk.next := by
    rintro rfl
    rw [coherent.unread (Nat.le_refl _) found] at holds
    cases holds
  rw [getElem?_take_of_ne (Array.getElem?_eq_some_iff.mp found).1 different, found]

/-- A slot keeps its place in a reading. -/
theorem take_parent (found : walk.slots[walk.next]? = some slot) {number : Nat} {other : Slot}
    (before : walk.slots[number]? = some other) :
    ∃ after, (walk.take isLink limits slot entries).slots[number]? = some after ∧
      after.parent = other.parent := by
  by_cases same : number = walk.next
  · subst same
    rw [found] at before
    obtain rfl := Option.some.inj before
    exact ⟨_, getElem?_take_next found, rfl⟩
  · have inside := (Array.getElem?_eq_some_iff.mp before).1
    exact ⟨other, (getElem?_take_of_ne inside same).trans before, rfl⟩

theorem take_hangs (coherent : walk.Coherent isLink limits root)
    (found : walk.slots[walk.next]? = some slot) {number parent place : Nat} {other : Slot}
    (later : (walk.take isLink limits slot entries).slots[number]? = some other)
    (hangs : other.parent = some (parent, place)) :
    (walk.take isLink limits slot entries).Hangs isLink limits number other parent place := by
  have old : ∀ {before : Slot}, walk.slots[number]? = some before → before.parent = other.parent →
      before.path = other.path → before.depth = other.depth →
        (walk.take isLink limits slot entries).Hangs isLink limits number other parent place := by
    intro before foundBefore sameParent samePath sameDepth
    obtain ⟨earlier, above, held, entry, foundAbove, holds, foundEntry, entered, path, depth⟩ :=
      coherent.hangs foundBefore (sameParent.trans hangs)
    exact ⟨earlier, above, held, entry, coherent.take_kept foundAbove holds, holds, foundEntry,
      entered, samePath.symm.trans path, sameDepth.symm.trans depth⟩
  rcases take_cases found later with
    ⟨_, before⟩ | ⟨rfl, rfl⟩ | ⟨behind, i, entry, foundEntry, entered, rfl⟩
  · exact old before rfl rfl rfl
  · exact old found rfl rfl rfl
  · cases hangs
    have inside := (Array.getElem?_eq_some_iff.mp found).1
    exact ⟨Nat.lt_of_lt_of_le inside behind, _, _, entry, getElem?_take_next found, rfl, foundEntry,
      entered, rfl, rfl⟩

theorem take_ordered (coherent : walk.Coherent isLink limits root)
    (found : walk.slots[walk.next]? = some slot) :
    (walk.take isLink limits slot entries).places.Pairwise Earlier := by
  rw [places_take found, List.pairwise_append]
  refine ⟨coherent.ordered, pairwise_slotsFor _ _ _, fun before isOld after isNew => ?_⟩
  obtain ⟨other, member, rfl⟩ := List.mem_map.mp isOld
  obtain ⟨child, childMember, rfl⟩ := List.mem_map.mp isNew
  obtain ⟨place, entry, _, _, rfl⟩ := mem_slotsFor.mp childMember
  obtain ⟨number, foundOther⟩ := List.getElem?_of_mem member
  rw [Array.getElem?_toList] at foundOther
  cases hangs : other.parent with
  | none => trivial
  | some pair =>
    obtain ⟨_, above, held, _, foundAbove, holds, _⟩ := coherent.hangs foundOther hangs
    refine Or.inl (Nat.lt_of_not_le fun later => ?_)
    rw [coherent.unread later foundAbove] at holds
    cases holds

theorem take_complete (coherent : walk.Coherent isLink limits root)
    (found : walk.slots[walk.next]? = some slot) {number place : Nat} {other : Slot}
    {held : List Entry} {entry : Entry}
    (later : (walk.take isLink limits slot entries).slots[number]? = some other)
    (holds : other.entries = some held) (foundEntry : held[place]? = some entry)
    (entered : enters isLink limits other.depth entry = true) :
    ∃ (child : Nat) (below : Slot),
      (walk.take isLink limits slot entries).slots[child]? = some below ∧
        below.parent = some (number, place) := by
  rcases take_cases found later with ⟨_, before⟩ | ⟨rfl, rfl⟩ | ⟨_, _, _, _, _, rfl⟩
  · obtain ⟨child, below, foundBelow, hangs⟩ := coherent.complete before holds foundEntry entered
    obtain ⟨after, foundAfter, same⟩ := take_parent found foundBelow
    exact ⟨child, after, foundAfter, same.trans hangs⟩
  · cases holds
    have member : { path := entry.path, depth := slot.depth + 1, parent := some (walk.next, place) } ∈
        slotsFor isLink limits walk.next slot.depth (walk.cap limits entries) :=
      mem_slotsFor.mpr ⟨place, entry, foundEntry, entered, rfl⟩
    obtain ⟨index, foundNew⟩ := List.getElem?_of_mem member
    have foundChild : (walk.take isLink limits slot entries).slots[walk.slots.size + index]? =
        some { path := entry.path, depth := slot.depth + 1, parent := some (walk.next, place) } := by
      rw [getElem?_take_new (Nat.le_add_right _ _), Nat.add_sub_cancel_left]
      exact foundNew
    exact ⟨_, _, foundChild, rfl⟩
  · cases holds

theorem take_unread (coherent : walk.Coherent isLink limits root)
    (found : walk.slots[walk.next]? = some slot) {number : Nat} {other : Slot}
    (unread : walk.next + 1 ≤ number)
    (later : (walk.take isLink limits slot entries).slots[number]? = some other) :
    other.entries = none := by
  rcases take_cases found later with ⟨_, before⟩ | ⟨rfl, _⟩ | ⟨_, _, _, _, _, rfl⟩
  · exact coherent.unread (Nat.le_of_succ_le unread) before
  · exact absurd unread (Nat.not_succ_le_self _)
  · rfl

end Take

/-- A reading keeps a walk coherent. -/
theorem take (coherent : walk.Coherent isLink limits root) {slot : Slot}
    (found : walk.slots[walk.next]? = some slot) (entries : List Entry) :
    (walk.take isLink limits slot entries).Coherent isLink limits root where
  first := by
    obtain ⟨held, foundFirst⟩ := coherent.first
    by_cases same : walk.next = 0
    · rw [same, foundFirst] at found
      obtain rfl := Option.some.inj found
      exact ⟨_, same ▸ getElem?_take_next (same ▸ foundFirst)⟩
    · have inside := (Array.getElem?_eq_some_iff.mp foundFirst).1
      exact ⟨held, (getElem?_take_of_ne inside (Ne.symm same)).trans foundFirst⟩
  hangs := coherent.take_hangs found
  ordered := coherent.take_ordered found
  complete := coherent.take_complete found
  unread := coherent.take_unread found
  size_le := by
    have counted := coherent.size_le
    have added := length_slotsFor_le isLink limits walk.next slot.depth (walk.cap limits entries)
    rw [size_take]
    show _ ≤ walk.total + (walk.cap limits entries).length + 1
    omega
  total_le := by
    have counted := coherent.total_le
    show walk.total + (walk.cap limits entries).length ≤ limits.entries
    simp only [cap, List.length_take]
    omega

end Coherent

/-! ### Finished walks -/

/-- **What every reading preserves holds in the end**, whether the reading succeeds or fails. -/
theorem runFrom_induction {read : Reader ε} {steps : Nat} {finished : Walk} {motive : Walk → Prop}
    (take : ∀ walk slot entries, motive walk → walk.slots[walk.next]? = some slot →
      read walk.next slot.path = .ok entries → motive (walk.take isLink limits slot entries))
    (skip : ∀ walk slot fault, motive walk → walk.slots[walk.next]? = some slot →
      read walk.next slot.path = .error fault → motive { walk with next := walk.next + 1 })
    (begun : motive walk) (ran : runFrom read isLink limits steps walk = some finished) :
    motive finished := by
  induction steps generalizing walk with
  | zero =>
    cases ran
    exact begun
  | succ steps ih =>
    unfold runFrom at ran
    cases found : walk.slots[walk.next]? with
    | none =>
      rw [found] at ran
      cases ran
      exact begun
    | some slot =>
      rw [found] at ran
      cases readNext : read walk.next slot.path with
      | ok entries =>
        simp only [readNext] at ran
        exact ih (take walk slot entries begun found readNext) ran
      | error fault =>
        simp only [readNext] at ran
        split at ran
        · cases ran
        · exact ih (skip walk slot fault begun found readNext) ran

/-- Reading on keeps a walk coherent, and the steps suffice if there is one for every slot that the
limit on entries allows. -/
theorem coherent_runFrom {read : Reader ε} {steps : Nat} {finished : Walk}
    (coherent : walk.Coherent isLink limits root) (enough : limits.entries + 1 ≤ walk.next + steps)
    (ran : runFrom read isLink limits steps walk = some finished) :
    finished.Coherent isLink limits root ∧ finished.slots.size ≤ finished.next := by
  induction steps generalizing walk with
  | zero =>
    cases ran
    have sizes := coherent.size_le
    have totals := coherent.total_le
    exact ⟨coherent, by omega⟩
  | succ steps ih =>
    unfold runFrom at ran
    cases found : walk.slots[walk.next]? with
    | none =>
      rw [found] at ran
      cases ran
      exact ⟨coherent, Array.getElem?_eq_none_iff.mp found⟩
    | some slot =>
      rw [found] at ran
      have later : limits.entries + 1 ≤ walk.next + 1 + steps := by omega
      cases readNext : read walk.next slot.path with
      | ok entries =>
        simp only [readNext] at ran
        exact ih (coherent.take found entries) later ran
      | error fault =>
        simp only [readNext] at ran
        split at ran
        · cases ran
        · exact ih coherent.skip later ran

/-- **A finished walk is coherent, and all its slots are read.** -/
theorem coherent_run {read : Reader ε} {finished : Walk}
    (ran : run read isLink limits root = some finished) :
    finished.Coherent isLink limits root ∧ finished.slots.size ≤ finished.next :=
  coherent_runFrom (.start root) (by simp [Walk.start]) ran

/-! ### Walks that fail -/

/-- Once its first directory is read, a walk comes to an end. -/
theorem runFrom_ne_none {read : Reader ε} {steps : Nat} (begun : 0 < walk.next) :
    runFrom read isLink limits steps walk ≠ none := by
  induction steps generalizing walk with
  | zero => exact Option.some_ne_none _
  | succ steps ih =>
    unfold runFrom
    cases found : walk.slots[walk.next]? with
    | none => exact Option.some_ne_none _
    | some slot =>
      cases readNext : read walk.next slot.path with
      | ok entries =>
        simp only [readNext]
        exact ih (Nat.succ_pos walk.next)
      | error fault =>
        simp only [readNext, if_neg (Nat.ne_of_gt begun)]
        exact ih (Nat.succ_pos walk.next)

/-- **A walk fails exactly if its root cannot be read.** -/
theorem run_eq_none_iff {read : Reader ε} :
    run read isLink limits root = none ↔ ∃ fault, read 0 root = .error fault := by
  have begins : (start root).next = 0 := rfl
  have first : (start root).slots[0]? = some { path := root, depth := 0, parent := none } := rfl
  unfold run runFrom
  simp only [begins, first]
  cases readRoot : read 0 root with
  | ok entries =>
    constructor
    · exact fun fails => absurd fails (runFrom_ne_none Nat.one_pos)
    · rintro ⟨fault, failed⟩
      cases failed
  | error fault => simp

end Walk

/-! ### Directories without directories -/

/-- A directory with nothing but files is listed at once. -/
theorem list_of_files {read : Path → Except ε (List Entry)} {entries : List Entry}
    (reads : read root = .ok entries)
    (areFiles : ∀ entry ∈ entries, entry.isDirectory = false)
    (room : entries.length ≤ limits.entries) :
    list (fun _ => read) isLink limits root = .ok entries := by
  have enters : ∀ depth, ∀ entry ∈ entries, Walk.enters isLink limits depth entry = false := by
    intro depth entry member
    simp [Walk.enters, areFiles entry member]
  have noSlots : Walk.slotsFor isLink limits 0 0 entries = [] := by
    simp only [Walk.slotsFor, List.map_eq_nil_iff, List.filter_eq_nil_iff]
    rintro ⟨entry, place⟩ member
    simp [enters 0 entry (List.fst_mem_of_mem_zipIdx member)]
  have all : Walk.cap limits (Walk.start root) entries = entries := List.take_of_length_le room
  have taken : Walk.take isLink limits (Walk.start root)
      { path := root, depth := 0, parent := none } entries =
        { slots := #[{ path := root, depth := 0, parent := none, entries := some entries }]
          next := 1
          total := entries.length } := by
    simp only [Walk.take, all]
    simp [Walk.start, noSlots]
  have ran : Walk.run (fun _ => read) isLink limits root = some
      { slots := #[{ path := root, depth := 0, parent := none, entries := some entries }]
        next := 1
        total := entries.length } := by
    unfold Walk.run Walk.runFrom
    have first : (Walk.start root).slots[(Walk.start root).next]? =
      some { path := root, depth := 0, parent := none } := rfl
    simp only [first, reads, taken]
    cases limits.entries <;> rfl
  rw [list, ran]
  rfl

end DeclGraph.Tree
