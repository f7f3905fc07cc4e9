/-
**What a walk costs at most.**

The readings may answer anything, also something else each time, so directories may go on without
end. Still every slot but the first is paid for with an entry that was taken, and putting the slots
together only moves entries or takes them away.

* `Entry.levels`: how deep a tree is;
* `Walk.Reached`: the walks that the loop comes to with so many readings, where nothing but the end of
  the slots stops it;
* `Walk.heldBefore`: what the first slots hold, one after the other;
* **`Walk.sizeAll_assemble_le`**, **`Walk.levelsAll_assemble_le`**: the size and the depth of what a
  walk is put together to;
* **`list_bounded`**: readings, running total, size and depth of a listing.
-/

import DeclGraph.Proofs.Tree.Assembly

namespace DeclGraph

/-! ### Sizes and levels -/

namespace Entry

mutual

/-- The number of levels of a tree. -/
def levels : Entry → Nat
  | mk _ _ _ none => 1
  | mk _ _ _ (some children) => levelsAll children + 1

/-- The number of levels of several trees. -/
def levelsAll : List Entry → Nat
  | [] => 0
  | entry :: entries => max entry.levels (levelsAll entries)

end

theorem levelsAll_le_iff {entries : List Entry} {bound : Nat} :
    levelsAll entries ≤ bound ↔ ∀ entry ∈ entries, entry.levels ≤ bound := by
  induction entries with
  | nil => simp [levelsAll]
  | cons entry entries ih => rw [levelsAll, Nat.max_le, ih, List.forall_mem_cons]

@[simp]
theorem levels_withChildren (entry : Entry) (children : List Entry) :
    (entry.withChildren children).levels = levelsAll children + 1 := by
  cases entry
  rw [withChildren, levels]

@[simp]
theorem size_withChildren (entry : Entry) (children : List Entry) :
    (entry.withChildren children).size = sizeAll children + 1 := by
  cases entry
  rw [withChildren, size]

theorem size_pos (entry : Entry) : 0 < entry.size := by
  obtain ⟨name, path, kind, children⟩ := entry
  cases children <;> rw [size] <;> omega

theorem Fresh.size_eq {entry : Entry} (fresh : entry.Fresh) : entry.size = 1 := by
  cases fresh <;> rfl

theorem Fresh.levels_eq {entry : Entry} (fresh : entry.Fresh) : entry.levels = 1 := by
  cases fresh <;> rfl

theorem sizeAll_of_fresh {entries : List Entry} (fresh : ∀ entry ∈ entries, entry.Fresh) :
    sizeAll entries = entries.length := by
  induction entries with
  | nil => rfl
  | cons entry entries ih =>
    rw [List.forall_mem_cons] at fresh
    rw [sizeAll, fresh.1.size_eq, ih fresh.2, List.length_cons, Nat.add_comm]

end Entry

open Entry

namespace Tree

variable {ε : Type} {read : Reader ε} {isLink : Path → Bool} {limits : Limits} {root : Path}

namespace Walk

variable {walk : Walk}

/-! ### The loop -/

/-- **The walks that the loop comes to with so many readings.** No number of steps is given: the loop
goes on as long as there is a slot to be read, and only a root that cannot be read stops it before. -/
inductive Reached (read : Reader ε) (isLink : Path → Bool) (limits : Limits) (root : Path) :
    Nat → Walk → Prop
  | start : Reached read isLink limits root 0 (.start root)
  | take {calls : Nat} {walk : Walk} {slot : Slot} {entries : List Entry} :
      Reached read isLink limits root calls walk → walk.slots[walk.next]? = some slot →
        read calls slot.path = .ok entries →
          Reached read isLink limits root (calls + 1) (walk.take isLink limits slot entries)
  | skip {calls : Nat} {walk : Walk} {slot : Slot} {fault : ε} :
      Reached read isLink limits root calls walk → walk.slots[walk.next]? = some slot →
        read calls slot.path = .error fault → walk.next ≠ 0 →
          Reached read isLink limits root (calls + 1) { walk with next := walk.next + 1 }

namespace Reached

variable {calls : Nat}

/-- Every reading moves on to the next slot. -/
theorem next_eq (reached : Reached read isLink limits root calls walk) : walk.next = calls := by
  induction reached with
  | start => rfl
  | take _ _ _ ih => exact congrArg (· + 1) ih
  | skip _ _ _ _ ih => exact congrArg (· + 1) ih

theorem coherent (reached : Reached read isLink limits root calls walk) :
    walk.Coherent isLink limits root := by
  induction reached with
  | start => exact .start root
  | take _ found _ ih => exact ih.take found _
  | skip _ _ _ _ ih => exact ih.skip

/-- The loop reads slots only. -/
theorem next_le_size (reached : Reached read isLink limits root calls walk) :
    walk.next ≤ walk.slots.size := by
  induction reached with
  | start => exact Nat.zero_le _
  | take _ found _ _ =>
    have inside := (Array.getElem?_eq_some_iff.mp found).1
    rw [size_take]
    exact Nat.le_add_right_of_le inside
  | skip _ found _ _ _ => exact (Array.getElem?_eq_some_iff.mp found).1

/-- **The slots bound the readings, and the limit on entries bounds the slots.** -/
theorem calls_le (reached : Reached read isLink limits root calls walk) :
    calls ≤ walk.slots.size ∧ walk.slots.size ≤ limits.entries + 1 := by
  have sizes := reached.coherent.size_le
  have totals := reached.coherent.total_le
  exact ⟨reached.next_eq ▸ reached.next_le_size, by omega⟩

/-- What the loop has come to is what a number of steps comes to. -/
theorem runFrom_eq (reached : Reached read isLink limits root calls walk) (steps : Nat) :
    runFrom read isLink limits (calls + steps) (.start root) =
      runFrom read isLink limits steps walk := by
  induction reached generalizing steps with
  | start => rw [Nat.zero_add]
  | take before found readNext ih =>
    rw [Nat.add_right_comm, Nat.add_assoc, ih, runFrom, found]
    simp only [before.next_eq, readNext]
  | skip before found failed begun ih =>
    rw [Nat.add_right_comm, Nat.add_assoc, ih, runFrom, found]
    simp only [if_neg begun]
    rw [before.next_eq, failed]

/-- **Once no slot is left, the loop has come to the walk that is put together.** -/
theorem run_eq (reached : Reached read isLink limits root calls walk)
    (finished : walk.slots.size ≤ walk.next) : run read isLink limits root = some walk := by
  obtain ⟨fewer, bound⟩ := reached.calls_le
  have stays : ∀ steps, runFrom read isLink limits steps walk = some walk := by
    intro steps
    cases steps with
    | zero => rfl
    | succ steps => rw [runFrom, Array.getElem?_eq_none finished]
  unfold run
  rw [show limits.entries + 1 = calls + (limits.entries + 1 - calls) by omega, reached.runFrom_eq,
    stays]

/-- As long as a slot is left, the loop goes on. -/
theorem continues (readable : ¬ ∃ fault, read 0 root = .error fault)
    (reached : Reached read isLink limits root calls walk)
    (unfinished : walk.next < walk.slots.size) :
    ∃ later, Reached read isLink limits root (calls + 1) later := by
  obtain ⟨slot, found⟩ : ∃ slot, walk.slots[walk.next]? = some slot :=
    ⟨_, Array.getElem?_eq_getElem unfinished⟩
  cases readNext : read calls slot.path with
  | ok entries => exact ⟨_, .take reached found readNext⟩
  | error fault =>
    refine ⟨_, .skip reached found readNext fun first => readable ⟨fault, ?_⟩⟩
    obtain ⟨held, isFirst⟩ := reached.coherent.first
    rw [first, isFirst] at found
    rw [← Option.some.inj found, ← reached.next_eq, first] at readNext
    exact readNext

/-- **The loop ends**: every reading takes it nearer to the bound. -/
theorem ends (readable : ¬ ∃ fault, read 0 root = .error fault)
    (reached : Reached read isLink limits root calls walk) :
    ∃ calls finished, Reached read isLink limits root calls finished ∧
      finished.slots.size ≤ finished.next := by
  induction left : limits.entries + 1 - calls generalizing calls walk with
  | zero =>
    obtain ⟨fewer, bound⟩ := reached.calls_le
    have next := reached.next_eq
    exact ⟨calls, walk, reached, by omega⟩
  | succ left ih =>
    by_cases finished : walk.slots.size ≤ walk.next
    · exact ⟨calls, walk, reached, finished⟩
    · obtain ⟨later, further⟩ := reached.continues readable (Nat.not_le.mp finished)
      exact ih further (by omega)

end Reached

/-! ### What the slots hold -/

section Held

variable {slots other : Array Slot} {number : Nat}

/-- What a slot holds. -/
def heldIn (slots : Array Slot) (number : Nat) : List Entry :=
  ((slots[number]?).bind Slot.entries).getD []

/-- What the slots before a number hold, one after the other. -/
def heldBefore (slots : Array Slot) : Nat → List Entry
  | 0 => []
  | number + 1 => heldBefore slots number ++ heldIn slots number

theorem heldBefore_congr (same : ∀ index < number, heldIn other index = heldIn slots index) :
    heldBefore other number = heldBefore slots number := by
  induction number with
  | zero => rfl
  | succ number ih =>
    rw [heldBefore, heldBefore, ih fun index before => same index (Nat.lt_succ_of_lt before),
      same number (Nat.lt_succ_self number)]

theorem mem_heldBefore {entry : Entry} (member : entry ∈ heldBefore slots number) :
    ∃ (index : Nat) (slot : Slot) (entries : List Entry), slots[index]? = some slot ∧
      slot.entries = some entries ∧ entry ∈ entries := by
  induction number with
  | zero => cases member
  | succ number ih =>
    rcases List.mem_append.mp member with earlier | here
    · exact ih earlier
    · unfold heldIn at here
      cases found : slots[number]? with
      | none => simp [found] at here
      | some slot =>
        cases holds : slot.entries with
        | none => simp [found, holds] at here
        | some entries =>
          simp only [found, Option.bind_some, holds, Option.getD_some] at here
          exact ⟨number, slot, entries, found, holds, here⟩

/-- If only one slot holds something else, the sizes differ by as much as its own. -/
theorem sizeAll_heldBefore_of_changed {changed : Nat} (before : changed < number)
    (same : ∀ index, index ≠ changed → heldIn other index = heldIn slots index) :
    sizeAll (heldBefore other number) + sizeAll (heldIn slots changed) =
      sizeAll (heldBefore slots number) + sizeAll (heldIn other changed) := by
  induction number with
  | zero => exact absurd before (Nat.not_lt_zero _)
  | succ number ih =>
    rw [heldBefore, heldBefore, sizeAll_append, sizeAll_append]
    rcases Nat.lt_succ_iff_lt_or_eq.mp before with earlier | rfl
    · have rest := ih earlier
      rw [same number (Nat.ne_of_gt earlier)]
      omega
    · rw [heldBefore_congr fun index earlier => same index (Nat.ne_of_lt earlier)]
      omega

theorem heldIn_take_next {slot : Slot} {entries : List Entry}
    (found : walk.slots[walk.next]? = some slot) :
    heldIn (walk.take isLink limits slot entries).slots walk.next = walk.cap limits entries := by
  rw [heldIn, getElem?_take_next found]
  rfl

/-- A reading leaves what the earlier slots hold. -/
theorem heldBefore_take {slot : Slot} {entries : List Entry}
    (found : walk.slots[walk.next]? = some slot) (before : number ≤ walk.next) :
    heldBefore (walk.take isLink limits slot entries).slots number =
      heldBefore walk.slots number := by
  refine heldBefore_congr fun index earlier => ?_
  have inside := (Array.getElem?_eq_some_iff.mp found).1
  rw [heldIn, getElem?_take_of_ne (by omega) (by omega), heldIn]

end Held

namespace Reached

variable {calls : Nat}

/-- **The total counts what the slots that were read hold.** -/
theorem total_eq (reached : Reached read isLink limits root calls walk) :
    walk.total = (heldBefore walk.slots walk.next).length := by
  induction reached with
  | start => rfl
  | @take _ walk slot entries _ found _ ih =>
    show walk.total + (walk.cap limits entries).length =
      (heldBefore (walk.take isLink limits slot entries).slots (walk.next + 1)).length
    rw [heldBefore, heldBefore_take found (Nat.le_refl _), heldIn_take_next found,
      List.length_append, ih]
  | @skip _ walk slot _ before found _ _ ih =>
    have empty : heldIn walk.slots walk.next = [] := by
      rw [heldIn, found, Option.bind_some, before.coherent.unread (Nat.le_refl _) found,
        Option.getD_none]
    show walk.total = (heldBefore walk.slots (walk.next + 1)).length
    rw [heldBefore, empty, List.append_nil, ih]

/-- Slots hold what was read only. -/
theorem fresh (readFresh : ∀ number path entries, read number path = .ok entries →
      ∀ entry ∈ entries, entry.Fresh)
    (reached : Reached read isLink limits root calls walk) {number : Nat} {slot : Slot}
    {entries : List Entry} (found : walk.slots[number]? = some slot)
    (holds : slot.entries = some entries) : ∀ entry ∈ entries, entry.Fresh := by
  induction reached generalizing number slot entries with
  | start =>
    obtain ⟨inside, rfl⟩ := Array.getElem?_eq_some_iff.mp found
    simp [Walk.start] at holds
  | take _ foundNext readNext ih =>
    rcases Coherent.take_cases foundNext found with ⟨_, before⟩ | ⟨_, rfl⟩ | ⟨_, _, _, _, _, rfl⟩
    · exact ih before holds
    · cases holds
      exact fun entry member => readFresh _ _ _ readNext entry (List.mem_of_mem_take member)
    · cases holds
  | skip _ _ _ _ ih => exact ih found holds

end Reached

/-! ### Size -/

/-- Giving an entry its children adds these, and taking an entry away adds nothing. -/
theorem sizeAll_settle_le (place : Nat) (children : Option (List Entry)) (entries : List Entry) :
    sizeAll (settle place children entries) ≤ sizeAll entries + sizeAll (children.getD []) := by
  induction entries generalizing place with
  | nil => cases children <;> simp [settle, sizeAll]
  | cons entry entries ih =>
    have positive := entry.size_pos
    cases place with
    | zero =>
      cases children with
      | none => simp [settle, sizeAll]
      | some children =>
        simp only [settle, List.modify_zero_cons, sizeAll, size_withChildren, Option.getD_some]
        omega
    | succ place =>
      have rest := ih place
      cases children with
      | none =>
        simp only [settle, List.eraseIdx_cons_succ, sizeAll] at rest ⊢
        omega
      | some children =>
        simp only [settle, List.modify_succ_cons, sizeAll] at rest ⊢
        omega

/-- **Moving what a slot holds into its parent adds nothing to the slots before it.** -/
theorem sizeAll_settleSlot_le {slots : Array Slot} {number parent place : Nat} {slot : Slot}
    (found : slots[number]? = some slot) (hangs : slot.parent = some (parent, place))
    (earlier : parent < number) :
    sizeAll (heldBefore (settleSlot slots number) number) ≤
      sizeAll (heldBefore slots (number + 1)) := by
  have settled : settleSlot slots number = slots.modify parent fun above =>
      { above with entries := above.entries.map (settle place slot.entries) } := by
    rw [settleSlot, found]
    simp only [hangs]
  have same : ∀ index, index ≠ parent →
      heldIn (settleSlot slots number) index = heldIn slots index := by
    intro index different
    rw [settled, heldIn, Array.getElem?_modify, if_neg (Ne.symm different), heldIn]
  have moved : sizeAll (heldIn (settleSlot slots number) parent) ≤
      sizeAll (heldIn slots parent) + sizeAll (heldIn slots number) := by
    rw [settled, heldIn, Array.getElem?_modify, if_pos rfl, heldIn, heldIn, found, Option.bind_some]
    cases slots[parent]? with
    | none => exact Nat.zero_le _
    | some above =>
      rw [Option.map_some, Option.bind_some, Option.bind_some]
      cases above.entries with
      | none => exact Nat.zero_le _
      | some entries => exact sizeAll_settle_le place slot.entries entries
  have changed := sizeAll_heldBefore_of_changed earlier same
  rw [heldBefore, sizeAll_append]
  omega

/-- **The assembly never makes the entries more.** -/
theorem sizeAll_settledFrom_le (coherent : walk.Coherent isLink limits root) {start : Nat}
    (positive : 0 < start) (inside : start ≤ walk.slots.size) :
    sizeAll (heldBefore (walk.settledFrom start) start) ≤
      sizeAll (heldBefore walk.slots walk.slots.size) := by
  induction left : walk.slots.size - start generalizing start with
  | zero =>
    obtain rfl : start = walk.slots.size := by omega
    exact Nat.le_of_eq (by rw [settledFrom_of_size_le (Nat.le_refl _)])
  | succ left ih =>
    have further := ih (Nat.succ_pos start) (by omega) (by omega)
    obtain ⟨slot, found⟩ : ∃ slot, walk.slots[start]? = some slot :=
      ⟨_, Array.getElem?_eq_getElem (by omega)⟩
    obtain ⟨parent, place, hangs⟩ := coherent.parent_of_pos positive found
    have now := getElem?_settledFrom coherent (Nat.succ_pos start) found
    rw [settledFrom_step found]
    have moved := sizeAll_settleSlot_le now hangs (coherent.hangs found hangs).earlier
    exact Nat.le_trans moved further

/-- **What a walk is put together to has no more entries than were taken.** -/
theorem sizeAll_assemble_le {calls : Nat}
    (readFresh : ∀ number path entries, read number path = .ok entries →
      ∀ entry ∈ entries, entry.Fresh)
    (reached : Reached read isLink limits root calls walk)
    (finished : walk.slots.size ≤ walk.next) : sizeAll walk.assemble ≤ walk.total := by
  obtain ⟨held, first⟩ := reached.coherent.first
  have inside := (Array.getElem?_eq_some_iff.mp first).1
  have fresh : ∀ entry ∈ heldBefore walk.slots walk.slots.size, entry.Fresh := by
    intro entry member
    obtain ⟨_, _, entries, found, holds, within⟩ := mem_heldBefore member
    exact reached.fresh readFresh found holds entry within
  have total : walk.total = sizeAll (heldBefore walk.slots walk.slots.size) := by
    rw [reached.total_eq, Nat.le_antisymm reached.next_le_size finished, sizeAll_of_fresh fresh]
  have bound := sizeAll_settledFrom_le reached.coherent Nat.one_pos inside
  rw [← total, heldBefore, heldBefore, List.nil_append] at bound
  exact bound

/-! ### Depth -/

/-- Slots are no deeper than the limit. -/
theorem Coherent.depth_le (coherent : walk.Coherent isLink limits root) {number : Nat} {slot : Slot}
    (found : walk.slots[number]? = some slot) : slot.depth ≤ limits.depth := by
  rcases Nat.eq_zero_or_pos number with rfl | positive
  · obtain ⟨held, first⟩ := coherent.first
    rw [first] at found
    cases found
    exact Nat.zero_le _
  · obtain ⟨parent, place, hangs⟩ := coherent.parent_of_pos positive found
    obtain ⟨_, above, _, entry, _, _, _, entered, _, depth⟩ := coherent.hangs found hangs
    unfold enters at entered
    rw [Bool.and_eq_true, decide_eq_true_iff] at entered
    exact depth ▸ entered.2

/-- **A slot has as many levels below it as its depth leaves.** Its entries get what slots behind it
hold, so the induction goes downwards from the last slot. -/
theorem levelsAll_contents_le {calls : Nat}
    (readFresh : ∀ number path entries, read number path = .ok entries →
      ∀ entry ∈ entries, entry.Fresh)
    (reached : Reached read isLink limits root calls walk) {number : Nat} {slot : Slot}
    (found : walk.slots[number]? = some slot) {tree : List Entry}
    (contents : walk.contents number = some tree) :
    levelsAll tree ≤ limits.depth - slot.depth + 1 := by
  have coherent := reached.coherent
  induction left : walk.slots.size - number using Nat.strongRecOn generalizing number slot tree with
  | ind left ih =>
    have inside := (Array.getElem?_eq_some_iff.mp found).1
    rw [contents_eq coherent found, Option.map_eq_some_iff] at contents
    obtain ⟨entries, holds, rfl⟩ := contents
    rw [levelsAll_le_iff]
    intro entry member
    obtain ⟨⟨before, place⟩, placed, settled⟩ := List.mem_filterMap.mp member
    have foundEntry := List.mem_zipIdx_iff_getElem?.mp placed
    have fresh := reached.fresh readFresh found holds before (List.mem_of_getElem? foundEntry)
    cases entered : enters isLink limits slot.depth before with
    | false =>
      rw [settledEntry_of_not_entered coherent found holds foundEntry entered] at settled
      rw [← Option.some.inj settled, fresh.levels_eq]
      exact Nat.succ_pos _
    | true =>
      obtain ⟨child, below, behind, foundBelow, _, depth, becomes⟩ :=
        settledEntry_of_entered coherent found holds foundEntry entered
      rw [becomes, Option.map_eq_some_iff] at settled
      obtain ⟨children, held, rfl⟩ := settled
      have deeper := ih _ (by omega) foundBelow held rfl
      have reachable := coherent.depth_le foundBelow
      rw [levels_withChildren]
      omega

theorem levelsAll_assemble_le {calls : Nat}
    (readFresh : ∀ number path entries, read number path = .ok entries →
      ∀ entry ∈ entries, entry.Fresh)
    (reached : Reached read isLink limits root calls walk) :
    levelsAll walk.assemble ≤ limits.depth + 1 := by
  obtain ⟨held, first⟩ := reached.coherent.first
  show levelsAll ((walk.contents 0).getD []) ≤ _
  cases contents : walk.contents 0 with
  | none => exact Nat.zero_le _
  | some tree => exact levelsAll_contents_le readFresh reached first contents

/-! ### The end of the loop -/

/-- **What holds of the loop at any time.** -/
structure Bounded (limits : Limits) (calls : Nat) (walk : Walk) : Prop where
  calls_le : calls ≤ limits.entries + 1
  /-- where a slot is left, its reading is still within the bound -/
  further : walk.next < walk.slots.size → calls + 1 ≤ limits.entries + 1
  total_le : walk.total ≤ limits.entries
  room_eq : walk.total + (limits.entries - walk.total) = limits.entries
  /-- the total stays within the limit whatever is read next -/
  taken_le : ∀ entries, walk.total + (walk.cap limits entries).length ≤ limits.entries

theorem Reached.bounded {calls : Nat} (reached : Reached read isLink limits root calls walk) :
    Bounded limits calls walk := by
  obtain ⟨fewer, slots⟩ := reached.calls_le
  have next := reached.next_eq
  have total := reached.coherent.total_le
  refine ⟨by omega, fun left => by omega, total, Nat.add_sub_cancel' total, fun entries => ?_⟩
  rw [cap, List.length_take]
  omega

end Walk

/-- **What a listing costs at most**, whatever the readings answer. The loop is within its bounds at
any time, it ends unless the root cannot be read, and where it ends is what the listing puts together.
The tree has no more entries than the limit on entries, and at most one level more than the limit on
depth. -/
theorem list_bounded (read : Reader ε) (isLink : Path → Bool) (limits : Limits) (root : Path)
    (fresh : ∀ number path entries, read number path = .ok entries →
      ∀ entry ∈ entries, entry.Fresh) :
    (∀ calls walk, Walk.Reached read isLink limits root calls walk → walk.Bounded limits calls) ∧
      ((∃ fault, read 0 root = .error fault) ∧
          list read isLink limits root = .error (.notFound root) ∨
        ∃ calls walk, Walk.Reached read isLink limits root calls walk ∧
          walk.slots.size ≤ walk.next ∧ list read isLink limits root = .ok walk.assemble) ∧
      ∀ tree, list read isLink limits root = .ok tree →
        sizeAll tree ≤ limits.entries ∧ levelsAll tree ≤ limits.depth + 1 := by
  refine ⟨fun _ _ reached => reached.bounded, ?_⟩
  by_cases failed : ∃ fault, read 0 root = .error fault
  · have stops : list read isLink limits root = .error (.notFound root) := by
      rw [list, Walk.run_eq_none_iff.mpr failed]
    refine ⟨Or.inl ⟨failed, stops⟩, fun tree lists => ?_⟩
    rw [stops] at lists
    cases lists
  · obtain ⟨calls, walk, reached, finished⟩ := Walk.Reached.start.ends failed
    have lists : list read isLink limits root = .ok walk.assemble := by
      rw [list, reached.run_eq finished]
    refine ⟨Or.inr ⟨calls, walk, reached, finished, lists⟩, fun tree same => ?_⟩
    rw [lists] at same
    cases same
    have few := Walk.sizeAll_assemble_le fresh reached finished
    exact ⟨Nat.le_trans few reached.coherent.total_le, Walk.levelsAll_assemble_le fresh reached⟩

/-- Readings of a directory that holds itself and, at every other reading, a file. -/
def endlessReading : Reader Unit := fun number path =>
  if number % 2 = 0 then .ok [.directory "again" path]
  else .ok [.directory "again" path, .file "x.py" path]

theorem endlessReading_fresh (number : Nat) (path : Path) (entries : List Entry)
    (reads : endlessReading number path = .ok entries) : ∀ entry ∈ entries, entry.Fresh := by
  unfold endlessReading at reads
  split at reads <;> cases reads <;> simp [Entry.Fresh.file, Entry.Fresh.directory]

/-- Five entries on four levels are taken, and the file of the fourth reading is cut off. -/
theorem list_endless :
    ∃ tree, list endlessReading (fun _ => false) { depth := 3, entries := 5 } ⟨"r"⟩ = .ok tree ∧
      sizeAll tree ≤ 5 ∧ levelsAll tree ≤ 4 ∧ sizeAll tree = 5 ∧ levelsAll tree = 4 := by
  obtain ⟨_, _, bounds⟩ := list_bounded endlessReading (fun _ => false)
    { depth := 3, entries := 5 } ⟨"r"⟩ endlessReading_fresh
  obtain ⟨tree, lists⟩ : ∃ tree, list endlessReading (fun _ => false)
      { depth := 3, entries := 5 } ⟨"r"⟩ = .ok tree := ⟨_, rfl⟩
  obtain ⟨few, flat⟩ := bounds tree lists
  refine ⟨tree, lists, few, flat, ?_⟩
  cases lists
  decide

end Tree

end DeclGraph
