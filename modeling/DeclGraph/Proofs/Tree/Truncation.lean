/-
**What a limit on entries cuts off.**

A walk with a limit on entries and one that no limit cuts read the same directories in the same order,
until the first one runs out of slots. Where it takes fewer entries, it misses the slots for the
directories among those it leaves out; all of them stand behind its own, so the numbers of its slots
and entries stay the same.

* `Walk.Cut`: how a walk with a limit on entries stands to one without;
* **`Walk.cut_of_reached`**: every reading keeps it so;
* `Walk.Cut.heldBefore_eq`, **`Walk.Cut.met_eq`**: it has met the first entries;
* **`Walk.Cut.contents_eq`**: its slots become what is left of those of the other one;
* **`list_truncated`**: a limit on entries removes the entries from its number on, and nothing else.
-/

import DeclGraph.Proofs.Tree.Numbering
import DeclGraph.Proofs.Tree.Recursion

namespace DeclGraph.Tree

variable {ε : Type} {read : Path → Except ε (List Entry)} {isLink : Path → Bool} {limits : Limits}
  {root : Path}

namespace Walk

theorem le_of_mem_zipIdx_drop {room : Nat} {entries : List Entry} {pair : Entry × Nat}
    (member : pair ∈ (entries.drop room).zipIdx (entries.take room).length) : room ≤ pair.2 := by
  have behind := List.le_snd_of_mem_zipIdx member
  have left : 0 < (entries.drop room).length := by
    rw [← List.length_zipIdx (i := (entries.take room).length)]
    exact List.length_pos_of_mem member
  rw [List.length_drop] at left
  rw [List.length_take] at behind
  omega

/-- A choice among the first entries with their places. -/
theorem filterMap_zipIdx_take {room : Nat} {entries : List Entry}
    {choose pick : Entry × Nat → Option Entry}
    (same : ∀ entry place, entries[place]? = some entry → place < room →
      choose (entry, place) = pick (entry, place))
    (none : ∀ entry place, room ≤ place → pick (entry, place) = none) :
    (entries.take room).zipIdx.filterMap choose = entries.zipIdx.filterMap pick := by
  conv_rhs => rw [← List.take_append_drop room entries]
  rw [List.zipIdx_append, List.filterMap_append, Nat.zero_add]
  have behind : ((entries.drop room).zipIdx (entries.take room).length).filterMap pick = [] :=
    List.filterMap_eq_nil_iff.mpr fun pair member =>
      none pair.1 pair.2 (le_of_mem_zipIdx_drop member)
  rw [behind, List.append_nil]
  refine List.filterMap_congr fun pair member => ?_
  have found := List.mem_zipIdx_iff_getElem?.mp member
  have inside := (List.getElem?_eq_some_iff.mp found).1
  rw [List.length_take] at inside
  rw [List.getElem?_take_of_lt (by omega)] at found
  exact same pair.1 pair.2 found (by omega)

/-- The slots for the first entries of a directory come first. -/
theorem slotsFor_take (isLink : Path → Bool) (limits : Limits) (number depth room : Nat)
    (entries : List Entry) :
    ∃ rest, slotsFor isLink limits number depth entries =
        slotsFor isLink limits number depth (entries.take room) ++ rest ∧
      ∀ slot ∈ rest, ∃ place, room ≤ place ∧ slot.parent = some (number, place) := by
  refine ⟨(((entries.drop room).zipIdx (entries.take room).length).filter
    fun pair => enters isLink limits depth pair.1).map fun pair =>
      { path := pair.1.path, depth := depth + 1, parent := some (number, pair.2) }, ?_, ?_⟩
  · conv_lhs => rw [← List.take_append_drop room entries]
    unfold slotsFor
    rw [List.zipIdx_append, List.filter_append, List.map_append, Nat.zero_add]
  · intro slot member
    obtain ⟨⟨entry, place⟩, within, rfl⟩ := List.mem_map.mp member
    exact ⟨place, le_of_mem_zipIdx_drop (List.mem_of_mem_filter within), rfl⟩

/-- Where a slot holds nothing, cutting off changes nothing. -/
theorem cut_of_unread {slot : Slot} (unread : slot.entries = none) (room : Nat) :
    { slot with entries := slot.entries.map (List.take room) } = slot := by
  cases slot
  cases unread
  rfl

/-- A reading leaves the numbers of the earlier slots. -/
theorem numberAt_take {walk : Walk} {slot : Slot} {entries : List Entry}
    (found : walk.slots[walk.next]? = some slot) {number : Nat} (before : number ≤ walk.next)
    (place : Nat) :
    (walk.take isLink limits slot entries).numberAt number place = walk.numberAt number place := by
  unfold numberAt
  rw [heldBefore_take found before]

theorem Coherent.size_pos {walk : Walk} (coherent : walk.Coherent isLink limits root) :
    0 < walk.slots.size := by
  obtain ⟨_, first⟩ := coherent.first
  exact (Array.getElem?_eq_some_iff.mp first).1

/-- A slot hangs at an entry that was read. -/
theorem Coherent.parent_lt_next {walk : Walk} (coherent : walk.Coherent isLink limits root)
    {number parent place : Nat} {slot : Slot} (found : walk.slots[number]? = some slot)
    (hangs : slot.parent = some (parent, place)) : parent < walk.next := by
  obtain ⟨_, above, _, _, foundAbove, holds, _⟩ := coherent.hangs found hangs
  refine Nat.lt_of_not_le fun unread => ?_
  rw [coherent.unread unread foundAbove] at holds
  cases holds

/-! ### Walks with and without a limit -/

/-- **How a walk with a limit on entries stands to one without.** It has the first slots of the other
one, which are those of the entries numbered before the limit, and they hold the first entries. -/
structure Cut (limit : Nat) (few whole : Walk) : Prop where
  next_eq : few.next = min whole.next few.slots.size
  total_eq : few.total = min limit whole.total
  size_le : few.slots.size ≤ whole.slots.size
  slot_eq : ∀ {number : Nat} {slot : Slot}, number < few.slots.size →
    whole.slots[number]? = some slot → few.slots[number]? = some { slot with
      entries := slot.entries.map (List.take (limit - (heldBefore whole.slots number).length)) }
  numbered : ∀ {number parent place : Nat} {slot : Slot}, whole.slots[number]? = some slot →
    slot.parent = some (parent, place) →
      (number < few.slots.size ↔ whole.numberAt parent place < limit)

namespace Cut

variable {limit : Nat} {few whole : Walk} {calls : Nat} {reader : Reader ε}

theorem start (limit : Nat) (root : Path) : Cut limit (.start root) (.start root) where
  next_eq := rfl
  total_eq := (Nat.min_zero limit).symm
  size_le := Nat.le_refl _
  slot_eq _ found := by
    obtain ⟨_, rfl⟩ := Array.getElem?_eq_some_iff.mp found
    rw [found]
    simp [Walk.start]
  numbered found hangs := by
    obtain ⟨_, rfl⟩ := Array.getElem?_eq_some_iff.mp found
    simp [Walk.start] at hangs

/-- Where slots are missing, the entry of the first of them is numbered behind the limit. -/
theorem exists_missing (cut : Cut limit few whole) (coherent : whole.Coherent isLink limits root)
    (positive : 0 < few.slots.size) (missing : few.slots.size < whole.slots.size) :
    ∃ (parent place : Nat) (above : Slot) (entries : List Entry), parent < few.slots.size ∧
      parent < whole.next ∧ whole.slots[parent]? = some above ∧ above.entries = some entries ∧
        place < entries.length ∧ limit ≤ whole.numberAt parent place := by
  obtain ⟨slot, found⟩ : ∃ slot, whole.slots[few.slots.size]? = some slot :=
    ⟨_, Array.getElem?_eq_getElem missing⟩
  obtain ⟨parent, place, hangs⟩ := coherent.parent_of_pos positive found
  obtain ⟨earlier, above, entries, entry, foundAbove, holds, foundEntry, _⟩ :=
    coherent.hangs found hangs
  have behind : ¬ whole.numberAt parent place < limit := fun before =>
    Nat.lt_irrefl _ ((cut.numbered found hangs).mpr before)
  exact ⟨parent, place, above, entries, earlier, coherent.parent_lt_next found hangs, foundAbove,
    holds, (List.getElem?_eq_some_iff.mp foundEntry).1, Nat.not_lt.mp behind⟩

/-- Where slots are missing, the limit is reached in front of them. -/
theorem limit_le_of_missing (cut : Cut limit few whole)
    (coherent : whole.Coherent isLink limits root) (positive : 0 < few.slots.size)
    (missing : few.slots.size < whole.slots.size) :
    limit ≤ (heldBefore whole.slots few.slots.size).length := by
  obtain ⟨parent, place, above, entries, earlier, _, found, holds, inside, behind⟩ :=
    cut.exists_missing coherent positive missing
  exact Nat.le_of_lt (Nat.lt_of_le_of_lt behind (numberAt_lt found holds inside earlier 0))

/-- Where slots are missing, there is no room left. -/
theorem limit_le_total (cut : Cut limit few whole)
    (reached : Reached reader isLink limits root calls whole) (positive : 0 < few.slots.size)
    (missing : few.slots.size < whole.slots.size) : limit ≤ whole.total := by
  obtain ⟨parent, place, above, entries, _, read, found, holds, inside, behind⟩ :=
    cut.exists_missing reached.coherent positive missing
  rw [reached.total_eq]
  exact Nat.le_of_lt (Nat.lt_of_le_of_lt behind (numberAt_lt found holds inside read 0))

/-! ### What a reading keeps -/

section Step

variable {depth most : Nat} {slot : Slot} {entries : List Entry}

/-- As long as the slot is not missing, both walks read it. -/
theorem found_next (cut : Cut limit few whole) (coherent : whole.Coherent isLink limits root)
    (found : whole.slots[whole.next]? = some slot) (inside : whole.next < few.slots.size) :
    few.next = whole.next ∧ few.slots[few.next]? = some slot := by
  have next : few.next = whole.next := by rw [cut.next_eq, Nat.min_eq_left (Nat.le_of_lt inside)]
  refine ⟨next, ?_⟩
  rw [next, cut.slot_eq inside found, cut_of_unread (coherent.unread (Nat.le_refl _) found)]

/-- Both pass over a slot that cannot be read. -/
theorem skip (cut : Cut limit few whole) (inside : whole.next < few.slots.size) :
    Cut limit { few with next := few.next + 1 } { whole with next := whole.next + 1 } where
  next_eq := by
    have next := cut.next_eq
    show few.next + 1 = min (whole.next + 1) few.slots.size
    omega
  total_eq := cut.total_eq
  size_le := cut.size_le
  slot_eq := cut.slot_eq
  numbered := cut.numbered

/-- A missing slot is passed over by the other walk alone. -/
theorem skip_missing (cut : Cut limit few whole) (missing : few.slots.size ≤ whole.next) :
    Cut limit few { whole with next := whole.next + 1 } where
  next_eq := by
    have next := cut.next_eq
    show few.next = min (whole.next + 1) few.slots.size
    omega
  total_eq := cut.total_eq
  size_le := cut.size_le
  slot_eq := cut.slot_eq
  numbered := cut.numbered

/-- The slots that were there before a reading keep to the rule. -/
theorem numbered_take (cut : Cut limit few whole) (coherent : whole.Coherent isLink limits root)
    (found : whole.slots[whole.next]? = some slot) {number parent place : Nat} {other : Slot}
    (old : number < whole.slots.size)
    (later : (whole.take isLink limits slot entries).slots[number]? = some other)
    (hangs : other.parent = some (parent, place)) :
    number < few.slots.size ↔
      (whole.take isLink limits slot entries).numberAt parent place < limit := by
  obtain ⟨before, foundBefore, same⟩ : ∃ before, whole.slots[number]? = some before ∧
      before.parent = other.parent := by
    rcases Coherent.take_cases found later with ⟨_, foundBefore⟩ | ⟨rfl, rfl⟩ | ⟨behind, _⟩
    · exact ⟨other, foundBefore, rfl⟩
    · exact ⟨slot, found, rfl⟩
    · exact absurd old (Nat.not_lt.mpr behind)
  have hangsBefore := same.trans hangs
  rw [numberAt_take found (Nat.le_of_lt (coherent.parent_lt_next foundBefore hangsBefore))]
  exact cut.numbered foundBefore hangsBefore

/-- **A directory whose slot is missing changes nothing**: what is in it is numbered behind the
limit. -/
theorem take_missing (cut : Cut limit few whole)
    (reached : Reached reader isLink limits root calls whole) (positive : 0 < few.slots.size)
    (found : whole.slots[whole.next]? = some slot) (missing : few.slots.size ≤ whole.next) :
    Cut limit few (whole.take isLink limits slot entries) := by
  have inside := (Array.getElem?_eq_some_iff.mp found).1
  have full := cut.limit_le_total reached positive (Nat.lt_of_le_of_lt missing inside)
  have next := cut.next_eq
  have total := cut.total_eq
  refine ⟨?_, ?_, ?_, ?_, ?_⟩
  · show few.next = min (whole.next + 1) few.slots.size
    omega
  · show few.total = min limit (whole.total + (whole.cap limits entries).length)
    omega
  · rw [size_take]
    exact Nat.le_add_right_of_le cut.size_le
  · intro number other before later
    rw [heldBefore_take found (by omega)]
    rw [getElem?_take_of_ne (by omega) (by omega)] at later
    exact cut.slot_eq before later
  · intro number parent place other later hangs
    rcases Nat.lt_or_ge number whole.slots.size with old | new
    · exact cut.numbered_take reached.coherent found old later hangs
    · rw [getElem?_take_new new] at later
      obtain ⟨_, _, _, _, rfl⟩ := mem_slotsFor.mp (List.mem_of_getElem? later)
      cases hangs
      have behind : limit ≤ whole.numberAt whole.next place := by
        rw [numberAt, ← reached.total_eq]
        exact Nat.le_add_right_of_le full
      rw [numberAt_take found (Nat.le_refl _)]
      omega

/-- What both walks do with a directory that both read. -/
structure Reads (isLink : Path → Bool) (depth limit most : Nat) (few whole : Walk) (slot : Slot)
    (entries : List Entry) (left : Nat) : Prop where
  left_eq : left = limit - (heldBefore whole.slots whole.next).length
  next_eq : few.next = whole.next
  found_few : few.slots[few.next]? = some slot
  cap_few : few.cap ⟨depth, limit⟩ entries = entries.take left
  cap_whole : whole.cap ⟨depth, most⟩ entries = entries
  /-- where slots are missing, none comes in front of them -/
  none_new : few.slots.size < whole.slots.size → left = 0

theorem reads (cut : Cut limit few whole)
    (reached : Reached reader isLink ⟨depth, most⟩ root calls whole)
    (found : whole.slots[whole.next]? = some slot) (inside : whole.next < few.slots.size)
    (room : whole.cap ⟨depth, most⟩ entries = entries) :
    Reads isLink depth limit most few whole slot entries
      (limit - (heldBefore whole.slots whole.next).length) := by
  obtain ⟨next, foundFew⟩ := cut.found_next reached.coherent found inside
  have positive : 0 < few.slots.size := Nat.lt_of_le_of_lt (Nat.zero_le _) inside
  have total := cut.total_eq
  have held := reached.total_eq
  refine ⟨rfl, next, foundFew, ?_, room, fun missing => ?_⟩
  · show entries.take (limit - few.total) = _
    congr 1
    omega
  · have full := cut.limit_le_total reached positive missing
    omega

namespace Reads

variable {left : Nat} (reads : Reads isLink depth limit most few whole slot entries left)

include reads

theorem slots_few {number : Nat} (new : few.slots.size ≤ number) :
    (few.take isLink ⟨depth, limit⟩ slot entries).slots[number]? =
      (slotsFor isLink ⟨depth, most⟩ whole.next slot.depth (entries.take left))[
        number - few.slots.size]? := by
  rw [getElem?_take_new new, reads.cap_few, reads.next_eq]
  rfl

theorem size_few : (few.take isLink ⟨depth, limit⟩ slot entries).slots.size = few.slots.size +
    (slotsFor isLink ⟨depth, most⟩ whole.next slot.depth (entries.take left)).length := by
  rw [size_take, reads.cap_few, reads.next_eq]
  rfl

theorem size_few_of_missing (missing : few.slots.size < whole.slots.size) :
    (few.take isLink ⟨depth, limit⟩ slot entries).slots.size = few.slots.size := by
  rw [reads.size_few, reads.none_new missing, List.take_zero]
  rfl

/-- The slots that come new in both walks. -/
theorem new_cases (same : few.slots.size = whole.slots.size) {number : Nat} {other : Slot}
    (new : whole.slots.size ≤ number)
    (later : (whole.take isLink ⟨depth, most⟩ slot entries).slots[number]? = some other) :
    ∃ place, other.parent = some (whole.next, place) ∧
      (number < (few.take isLink ⟨depth, limit⟩ slot entries).slots.size ↔ place < left) ∧
      (place < left →
        (few.take isLink ⟨depth, limit⟩ slot entries).slots[number]? = some other) := by
  obtain ⟨rest, slots, behind⟩ := slotsFor_take isLink ⟨depth, most⟩ whole.next slot.depth left
    entries
  rw [getElem?_take_new new, reads.cap_whole, slots] at later
  rw [reads.size_few, reads.slots_few (same ▸ new), same]
  by_cases first : number - whole.slots.size <
      (slotsFor isLink ⟨depth, most⟩ whole.next slot.depth (entries.take left)).length
  · rw [List.getElem?_append_left first] at later
    obtain ⟨place, entry, foundEntry, _, rfl⟩ := mem_slotsFor.mp (List.mem_of_getElem? later)
    have inside := (List.getElem?_eq_some_iff.mp foundEntry).1
    rw [List.length_take] at inside
    exact ⟨place, rfl, by omega, fun _ => later⟩
  · rw [List.getElem?_append_right (Nat.not_lt.mp first)] at later
    obtain ⟨place, notBefore, hangs⟩ := behind other (List.mem_of_getElem? later)
    exact ⟨place, hangs, by omega, fun before => absurd before (Nat.not_lt.mpr notBefore)⟩

end Reads

theorem slot_eq_take (cut : Cut limit few whole)
    (reached : Reached reader isLink ⟨depth, most⟩ root calls whole)
    (found : whole.slots[whole.next]? = some slot) {left : Nat}
    (reads : Reads isLink depth limit most few whole slot entries left) {number : Nat} {other : Slot}
    (before : number < (few.take isLink ⟨depth, limit⟩ slot entries).slots.size)
    (later : (whole.take isLink ⟨depth, most⟩ slot entries).slots[number]? = some other) :
    (few.take isLink ⟨depth, limit⟩ slot entries).slots[number]? = some { other with
      entries := other.entries.map (List.take
        (limit - (heldBefore (whole.take isLink ⟨depth, most⟩ slot entries).slots number).length)) }
    := by
  have coherent := reached.coherent
  have fewer := cut.size_le
  rcases Nat.lt_or_ge number whole.slots.size with old | new
  · have inFew : number < few.slots.size := by
      refine Nat.lt_of_not_le fun missing => ?_
      rw [reads.size_few_of_missing (Nat.lt_of_le_of_lt missing old)] at before
      exact Nat.lt_irrefl _ (Nat.lt_of_lt_of_le before missing)
    rcases Nat.lt_trichotomy number whole.next with read | rfl | unread
    · rw [getElem?_take_of_ne old (Nat.ne_of_lt read)] at later
      rw [getElem?_take_of_ne inFew (reads.next_eq ▸ Nat.ne_of_lt read),
        heldBefore_take found (Nat.le_of_lt read)]
      exact cut.slot_eq inFew later
    · rw [getElem?_take_next found, reads.cap_whole] at later
      obtain rfl := Option.some.inj later
      rw [← reads.next_eq, getElem?_take_next reads.found_few, reads.cap_few, reads.next_eq,
        heldBefore_take found (Nat.le_refl _), ← reads.left_eq]
      rfl
    · rw [getElem?_take_of_ne old (Nat.ne_of_gt unread)] at later
      have empty := coherent.unread (Nat.le_of_lt unread) later
      rw [getElem?_take_of_ne inFew (reads.next_eq ▸ Nat.ne_of_gt unread), cut_of_unread empty,
        cut.slot_eq inFew later, cut_of_unread empty]
  · have same : few.slots.size = whole.slots.size := by
      refine Nat.le_antisymm fewer (Nat.not_lt.mp fun missing => ?_)
      rw [reads.size_few_of_missing missing] at before
      omega
    obtain ⟨place, _, isNew, there⟩ := reads.new_cases same new later
    have empty : other.entries = none := by
      rw [getElem?_take_new new] at later
      obtain ⟨_, _, _, _, rfl⟩ := mem_slotsFor.mp (List.mem_of_getElem? later)
      rfl
    rw [cut_of_unread empty]
    exact there (isNew.mp before)

/-- **A directory that both walks read**: the one with the limit takes the entries numbered before the
limit, and the slots for them. -/
theorem take (cut : Cut limit few whole)
    (reached : Reached reader isLink ⟨depth, most⟩ root calls whole)
    (found : whole.slots[whole.next]? = some slot) (inside : whole.next < few.slots.size)
    (room : whole.cap ⟨depth, most⟩ entries = entries) :
    Cut limit (few.take isLink ⟨depth, limit⟩ slot entries)
      (whole.take isLink ⟨depth, most⟩ slot entries) := by
  have reads := cut.reads reached found inside room
  have next := reads.next_eq
  have total := cut.total_eq
  have held := reached.total_eq
  have fewer := cut.size_le
  refine ⟨?_, ?_, ?_, fun before later => cut.slot_eq_take reached found reads before later, ?_⟩
  · have larger := reads.size_few
    show few.next + 1 = min (whole.next + 1) _
    omega
  · show few.total + (few.cap ⟨depth, limit⟩ entries).length =
      min limit (whole.total + (whole.cap ⟨depth, most⟩ entries).length)
    rw [room, reads.cap_few, List.length_take]
    omega
  · obtain ⟨rest, slots, _⟩ := slotsFor_take isLink ⟨depth, most⟩
      whole.next slot.depth (limit - (heldBefore whole.slots whole.next).length) entries
    rw [reads.size_few, size_take, room, slots, List.length_append]
    omega
  · intro number parent place other later hangs
    rcases Nat.lt_or_ge number whole.slots.size with old | new
    · rw [← cut.numbered_take reached.coherent found old later hangs]
      constructor
      · refine fun before => Nat.lt_of_not_le fun missing => ?_
        rw [reads.size_few_of_missing (Nat.lt_of_le_of_lt missing old)] at before
        exact Nat.lt_irrefl _ (Nat.lt_of_lt_of_le before missing)
      · intro before
        rw [reads.size_few]
        exact Nat.lt_add_right _ before
    · rcases Nat.lt_or_eq_of_le fewer with missing | same
      · have full := reads.none_new missing
        have isNew : other.parent = some (whole.next, place) := by
          rw [getElem?_take_new new] at later
          obtain ⟨_, _, _, _, rfl⟩ := mem_slotsFor.mp (List.mem_of_getElem? later)
          cases hangs
          rfl
        rw [isNew] at hangs
        cases hangs
        rw [reads.size_few_of_missing missing, numberAt_take found (Nat.le_refl _), numberAt]
        omega
      · obtain ⟨_, isParent, isNew, _⟩ := reads.new_cases same new later
        rw [isParent] at hangs
        cases hangs
        rw [isNew, numberAt_take found (Nat.le_refl _), numberAt]
        omega

end Step

end Cut

/-- **Whatever the walk without a limit has come to, the one with the limit comes to what is left of
it.** -/
theorem cut_of_reached {depth most calls : Nat} {whole : Walk} (limit : Nat)
    (room : metBelow read isLink depth root ≤ most)
    (reached : Reached (fun _ => read) isLink ⟨depth, most⟩ root calls whole) :
    whole.Faithful read isLink ⟨depth, most⟩ ∧
      ∃ callsFew few, Reached (fun _ => read) isLink ⟨depth, limit⟩ root callsFew few ∧
        Cut limit few whole := by
  induction reached with
  | start => exact ⟨.start room, 0, .start root, .start, .start limit root⟩
  | @take calls whole slot entries before found readNext ih =>
    obtain ⟨faithful, callsFew, few, reached, cut⟩ := ih
    have capped := faithful.cap_eq found readNext
    refine ⟨faithful.take found readNext, ?_⟩
    rcases Nat.lt_or_ge whole.next few.slots.size with inside | missing
    · obtain ⟨_, foundFew⟩ := cut.found_next before.coherent found inside
      exact ⟨_, _, reached.take foundFew readNext, cut.take before found inside capped⟩
    · exact ⟨callsFew, few, reached,
        cut.take_missing before reached.coherent.size_pos found missing⟩
  | @skip calls whole slot fault before found failed begun ih =>
    obtain ⟨faithful, callsFew, few, reached, cut⟩ := ih
    refine ⟨faithful.skip before.coherent found failed, ?_⟩
    rcases Nat.lt_or_ge whole.next few.slots.size with inside | missing
    · obtain ⟨next, foundFew⟩ := cut.found_next before.coherent found inside
      exact ⟨_, _, reached.skip foundFew failed (next ▸ begun), cut.skip inside⟩
    · exact ⟨callsFew, few, reached, cut.skip_missing missing⟩

/-! ### What is left in the end -/

namespace Cut

variable {limit : Nat} {few whole : Walk}

/-- What the slots hold is what is numbered before the limit. -/
theorem heldBefore_eq (cut : Cut limit few whole) {number : Nat} (inside : number ≤ few.slots.size) :
    heldBefore few.slots number = (heldBefore whole.slots number).take limit := by
  induction number with
  | zero => exact List.take_nil.symm
  | succ number ih =>
    obtain ⟨slot, found⟩ : ∃ slot, whole.slots[number]? = some slot :=
      ⟨_, Array.getElem?_eq_getElem (Nat.lt_of_lt_of_le inside cut.size_le)⟩
    have here : heldIn few.slots number =
        (heldIn whole.slots number).take (limit - (heldBefore whole.slots number).length) := by
      rw [heldIn, cut.slot_eq inside found, heldIn, found, Option.bind_some, Option.bind_some]
      cases slot.entries with
      | none => exact List.take_nil.symm
      | some entries => rfl
    rw [heldBefore, heldBefore, ih (Nat.le_of_succ_le inside), here, List.take_append]

/-- **A walk with a limit meets the first entries.** -/
theorem met_eq (cut : Cut limit few whole) (coherent : whole.Coherent isLink limits root)
    (positive : 0 < few.slots.size) : few.met = whole.met.take limit := by
  rw [met, cut.heldBefore_eq (Nat.le_refl _), met]
  rcases Nat.lt_or_eq_of_le cut.size_le with missing | same
  · have full := cut.limit_le_of_missing coherent positive missing
    obtain ⟨rest, all⟩ := heldBefore_isPrefix whole.slots cut.size_le
    rw [← all, List.take_append_of_le_length full]
  · rw [same]

/-- What is left of what becomes of an entry. -/
def kept (limit : Nat) (tree : Numbered) : Option Entry :=
  if tree.number < limit then some (tree.trimmed limit).plain else none

theorem plainAll_firsts (limit : Nat) (trees : List Numbered) :
    Numbered.plainAll (Numbered.firsts limit trees) = trees.filterMap (kept limit) := by
  induction trees with
  | nil => rfl
  | cons first rest ih =>
    rw [Numbered.firsts, List.filterMap_cons, kept]
    split
    · rw [Numbered.plainAll, ih]
    · exact ih

/-- **The slots of a walk with a limit become what is left of those of the other one.** What hangs at
an entry is in later slots, so the induction goes downwards from the last slot. -/
theorem contents_eq {depth most : Nat} (cut : Cut limit few whole)
    (coherentFew : few.Coherent isLink ⟨depth, limit⟩ root)
    (coherent : whole.Coherent isLink ⟨depth, most⟩ root) {number : Nat}
    (inside : number < few.slots.size) :
    few.contents number = (whole.numberedIn number).map fun trees =>
      Numbered.plainAll (Numbered.firsts limit trees) := by
  induction left : few.slots.size - number using Nat.strongRecOn generalizing number with
  | ind left ih =>
    obtain ⟨slot, found⟩ : ∃ slot, whole.slots[number]? = some slot :=
      ⟨_, Array.getElem?_eq_getElem (Nat.lt_of_lt_of_le inside cut.size_le)⟩
    have foundFew := cut.slot_eq inside found
    rw [Walk.contents_eq coherentFew foundFew, numberedIn_eq, found, Option.bind_some]
    cases holds : slot.entries with
    | none => rfl
    | some entries =>
      rw [holds] at foundFew
      refine congrArg some ?_
      show few.settledEntries (number + 1) number 0 _ = Numbered.plainAll (Numbered.firsts limit
        (entries.zipIdx.filterMap (whole.numberedEntry number)))
      rw [plainAll_firsts, List.filterMap_filterMap]
      refine filterMap_zipIdx_take (fun entry place foundEntry before => ?_)
        fun entry place behind => ?_
      · have numbered : whole.numberAt number place < limit := by
          unfold numberAt
          omega
        have foundFirst : (entries.take (limit - (heldBefore whole.slots number).length))[place]? =
            some entry := by
          rw [List.getElem?_take_of_lt before, foundEntry]
        cases entered : enters isLink ⟨depth, most⟩ slot.depth entry with
        | false =>
          have free := slotAt?_of_not_entered coherent found holds foundEntry entered
          have stays := settledEntry_of_not_entered coherentFew foundFew rfl foundFirst entered
          rw [numberedEntry, free]
          exact stays.trans (if_pos numbered).symm
        | true =>
          obtain ⟨child, below, later, foundBelow, hangs, _, _, here⟩ :=
            slotAt?_of_entered coherent found holds foundEntry entered
          have insideBelow := (cut.numbered foundBelow hangs).mpr numbered
          have hereFew : few.slotAt? (number + 1) (number, place) = some child :=
            coherentFew.slotAt?_eq_some later (cut.slot_eq insideBelow foundBelow) hangs
          have deeper := ih _ (by omega) insideBelow rfl
          rw [numberedEntry, here, settledEntry, hereFew]
          simp only [deeper]
          cases whole.numberedIn child with
          | none => rfl
          | some trees => exact (if_pos numbered).symm
      · have notNumbered : ¬ whole.numberAt number place < limit := by
          unfold numberAt
          omega
        refine Option.bind_eq_none_iff.mpr fun tree becomes => if_neg ?_
        rcases numberedEntry_eq_some_iff.mp becomes with ⟨_, rfl⟩ | ⟨_, _, _, _, rfl⟩
        · exact notNumbered
        · exact notNumbered

/-- **A walk with a limit is put together to the tree without the entries from the limit on.** -/
theorem assemble_eq {depth most : Nat} (cut : Cut limit few whole)
    (coherentFew : few.Coherent isLink ⟨depth, limit⟩ root)
    (coherent : whole.Coherent isLink ⟨depth, most⟩ root) :
    few.assemble = Numbered.plainAll (Numbered.firsts limit whole.numbered) := by
  show (few.contents 0).getD [] = _
  rw [cut.contents_eq coherentFew coherent coherentFew.size_pos, Walk.numbered]
  cases whole.numberedIn 0 with
  | none => rfl
  | some trees => rfl

end Cut

/-- The walk that no limit cuts, and the walks with a limit. -/
theorem exists_cut {depth most : Nat} (room : metBelow read isLink depth root ≤ most)
    (readable : ¬ ∃ fault, read root = .error fault) :
    ∃ calls whole, Reached (fun _ => read) isLink ⟨depth, most⟩ root calls whole ∧
      whole.slots.size ≤ whole.next ∧ whole.Faithful read isLink ⟨depth, most⟩ ∧
      ∀ limit, ∃ callsFew few, Reached (fun _ => read) isLink ⟨depth, limit⟩ root callsFew few ∧
        few.slots.size ≤ few.next ∧ Cut limit few whole := by
  have begun : Reached (fun _ => read) isLink ⟨depth, most⟩ root 0 (.start root) := .start
  obtain ⟨calls, whole, reached, finished⟩ := begun.ends readable
  refine ⟨calls, whole, reached, finished, (cut_of_reached 0 room reached).1, fun limit => ?_⟩
  obtain ⟨_, callsFew, few, reachedFew, cut⟩ := cut_of_reached limit room reached
  have next := cut.next_eq
  have fewer := cut.size_le
  exact ⟨callsFew, few, reachedFew, by omega, cut⟩

end Walk

/-! ### Listings -/

/-- **How listings with a limit on entries depend on a walk that no limit cuts.** -/
structure Truncated (read : Path → Except ε (List Entry)) (isLink : Path → Bool) (depth : Nat)
    (root : Path) (whole : Walk) : Prop where
  /-- with a limit, a walk meets the first entries -/
  met_eq : ∀ limit, ∃ few, Walk.run (fun _ => read) isLink ⟨depth, limit⟩ root = some few ∧
    few.met = whole.met.take limit
  /-- and the entries from the limit on are removed from its tree -/
  list_eq : ∀ limit, list (fun _ => read) isLink ⟨depth, limit⟩ root =
    .ok (Numbered.plainAll (Numbered.firsts limit whole.numbered))
  within_eq : ∀ limit, Numbered.withinAll (Numbered.firsts limit whole.numbered) =
    (Numbered.withinAll whole.numbered).filter fun pair => pair.1 < limit
  /-- numbers are those at which entries are met, and each stands once -/
  met_at : ∀ pair ∈ Numbered.withinAll whole.numbered, whole.met[pair.1]? = some pair.2
  nodup : ((Numbered.withinAll whole.numbered).map Prod.fst).Nodup
  /-- what is met and not listed is a directory that cannot be read -/
  dropped : ∀ number entry, whole.met[number]? = some entry →
    (number, entry) ∉ Numbered.withinAll whole.numbered →
      entry.isDirectory = true ∧ isLink entry.path = false ∧ ∃ fault, read entry.path = .error fault
  /-- a larger limit removes and moves nothing that a smaller one lists -/
  thinned : ∀ less more few many, less ≤ more →
    list (fun _ => read) isLink ⟨depth, less⟩ root = .ok few →
      list (fun _ => read) isLink ⟨depth, more⟩ root = .ok many → Thinned few many

/-- **A limit on entries removes the entries met from its number on, and nothing else**, unless the
root cannot be read. `most` is any limit that cuts nothing. -/
theorem list_truncated (read : Path → Except ε (List Entry)) (isLink : Path → Bool)
    (depth most : Nat) (root : Path) (room : metBelow read isLink depth root ≤ most) :
    (∃ fault, read root = .error fault) ∧
        (∀ limit, list (fun _ => read) isLink ⟨depth, limit⟩ root = .error (.notFound root)) ∨
      ∃ whole, Walk.run (fun _ => read) isLink ⟨depth, most⟩ root = some whole ∧
        list (fun _ => read) isLink ⟨depth, most⟩ root = .ok (Numbered.plainAll whole.numbered) ∧
        Truncated read isLink depth root whole := by
  by_cases failed : ∃ fault, read root = .error fault
  · refine Or.inl ⟨failed, fun limit => ?_⟩
    rw [list, Walk.run_eq_none_iff.mpr failed]
  · obtain ⟨calls, whole, reached, finished, faithful, cuts⟩ := Walk.exists_cut room failed
    have coherent := reached.coherent
    have listed : ∀ limit, list (fun _ => read) isLink ⟨depth, limit⟩ root =
        .ok (Numbered.plainAll (Numbered.firsts limit whole.numbered)) := by
      intro limit
      obtain ⟨_, few, reachedFew, finishedFew, cut⟩ := cuts limit
      rw [list, reachedFew.run_eq finishedFew]
      exact congrArg _ (cut.assemble_eq reachedFew.coherent coherent)
    have metAt : ∀ pair ∈ Numbered.withinAll whole.numbered, whole.met[pair.1]? = some pair.2 :=
      fun pair member => Walk.met_of_mem_numbered member
    refine Or.inr ⟨whole, reached.run_eq finished, ?_, ?_, listed,
      Walk.withinAll_firsts_numbered coherent, metAt, Walk.nodup_numbered coherent, ?_, ?_⟩
    · have few : whole.met.length ≤ most := by
        rw [Walk.met, ← Nat.le_antisymm reached.next_le_size finished, ← reached.total_eq]
        exact coherent.total_le
      rw [listed, Numbered.firsts_of_forall_lt]
      intro pair member
      exact Nat.lt_of_lt_of_le (List.getElem?_eq_some_iff.mp (metAt pair member)).1 few
    · intro limit
      obtain ⟨_, few, reachedFew, finishedFew, cut⟩ := cuts limit
      exact ⟨few, reachedFew.run_eq finishedFew,
        cut.met_eq coherent reachedFew.coherent.size_pos⟩
    · intro number entry isMet missing
      obtain ⟨_, child, slot, below, _, entered, foundBelow, path, unread⟩ :=
        Walk.unreadable_of_not_mem coherent isMet missing
      have inside := (Array.getElem?_eq_some_iff.mp foundBelow).1
      have held := faithful.held (Nat.lt_of_lt_of_le inside finished) foundBelow
      unfold Walk.enters at entered
      rw [Bool.and_eq_true, Bool.and_eq_true, Bool.not_eq_true'] at entered
      refine ⟨entered.1.1, entered.1.2, ?_⟩
      cases readEntry : read entry.path with
      | error fault => exact ⟨fault, rfl⟩
      | ok entries =>
        rw [unread, path, readEntry] at held
        cases held
    · intro less more few many le isFew isMany
      rw [listed] at isFew isMany
      cases isFew
      cases isMany
      exact thinned_firsts le whole.numbered

/-- With room for three of its seven entries the small file system lists the directories `b` and `c`
alone: the first entry is that of the unreadable directory `a`. -/
theorem list_small_truncated :
    Truncated smallReading (fun path => path.text = "r/d") 2 ⟨"r"⟩
        ((Walk.run (fun _ => smallReading) (fun path => path.text = "r/d") ⟨2, 7⟩ ⟨"r"⟩).getD
          (.start ⟨"r"⟩)) ∧
      list (fun _ => smallReading) (fun path => path.text = "r/d") ⟨2, 3⟩ ⟨"r"⟩ =
        .ok [.directory "b" ⟨"r/b"⟩, .directory "c" ⟨"r/c"⟩] := by
  have met : metBelow smallReading (fun path => path.text = "r/d") 2 ⟨"r"⟩ = 7 := by decide
  refine ⟨?_, rfl⟩
  rcases list_truncated smallReading (fun path => path.text = "r/d") 2 7 ⟨"r"⟩ (Nat.le_of_eq met)
    with ⟨⟨fault, failed⟩, _⟩ | ⟨whole, ran, _, truncated⟩
  · cases failed
  · rw [ran]
    exact truncated

end DeclGraph.Tree
