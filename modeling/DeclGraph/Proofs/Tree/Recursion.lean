/-
**The tree of a directory, by recursion.**

As long as the limit on entries cuts nothing, the slots of a walk hold exactly what was read, and
what a slot holds in the end is the tree below its directory.

* `Walk.Faithful`: a walk that no limit on entries has cut or will cut;
* `Walk.contents_eq_listBelow`: the contents of its slots;
* **`list_eq_listBelow`**: walk and assembly give the tree that the recursion gives.
-/

import DeclGraph.Proofs.Tree.Assembly
import Mathlib.Algebra.Ring.Nat

namespace DeclGraph.Tree

variable {ε : Type} {read : Path → Except ε (List Entry)} {isLink : Path → Bool} {limits : Limits}
  {root : Path}

/-! ### One level of the recursion -/

/-- A fresh entry stays as it is unless the walk goes into it. -/
theorem entryBelow_of_fresh {entry : Entry} (fresh : entry.Fresh)
    (list : Path → Option (List Entry)) (room : Bool) :
    entryBelow isLink list room entry =
      if entry.isDirectory && !isLink entry.path && room then
        (list entry.path).map fun children => entry.withChildren children
      else some entry := by
  cases fresh with
  | file name path => rfl
  | directory name path =>
    cases link : isLink path <;> cases room <;>
      simp [entryBelow, Entry.isDirectory, Entry.kind, Entry.directory, Entry.path,
        Entry.withChildren, link]

/-- The tree below a directory, given those one level deeper. -/
theorem listBelow_eq (depth : Nat) (path : Path) :
    listBelow read isLink depth path = (read path).toOption.map fun entries =>
      entries.filterMap
        (entryBelow isLink (listBelow read isLink (depth - 1)) (decide (0 < depth))) := by
  cases depth with
  | zero =>
    have same : entryBelow isLink (fun _ => none) false =
        entryBelow isLink (listBelow read isLink 0) false := by
      funext entry
      unfold entryBelow
      simp
    unfold listBelow
    rw [same]
    cases read path <;> rfl
  | succ depth =>
    unfold listBelow
    cases read path <;> rfl

/-- The directory itself is all that can make the tree below it fail. -/
theorem listBelow_eq_none_iff {depth : Nat} {path : Path} :
    listBelow read isLink depth path = none ↔ ∃ fault, read path = .error fault := by
  rw [listBelow_eq]
  cases read path <;> simp [Except.toOption]

/-- A directory has its own entries, and those met below the ones that the walk goes into. -/
theorem metBelow_eq (number : Nat) {path : Path} {depth : Nat} {entries : List Entry}
    (readPath : read path = .ok entries) :
    metBelow read isLink (limits.depth - depth) path =
      entries.length + ((Walk.slotsFor isLink limits number depth entries).map fun slot =>
        metBelow read isLink (limits.depth - slot.depth) slot.path).sum := by
  have slots : (Walk.slotsFor isLink limits number depth entries).map
      (fun slot => metBelow read isLink (limits.depth - slot.depth) slot.path) =
      (entries.filter (Walk.enters isLink limits depth)).map fun entry =>
        metBelow read isLink (limits.depth - (depth + 1)) entry.path := by
    have firsts : (entries.zipIdx.filter fun pair => Walk.enters isLink limits depth pair.1).map
        Prod.fst = entries.filter (Walk.enters isLink limits depth) := by
      conv_rhs => rw [← List.zipIdx_map_fst 0 entries, List.filter_map]
      rfl
    rw [← firsts]
    unfold Walk.slotsFor
    simp only [List.map_map]
    rfl
  rw [slots]
  rcases Nat.lt_or_ge depth limits.depth with room | full
  · have deeper : limits.depth - depth = limits.depth - (depth + 1) + 1 := by omega
    have entered : Walk.enters isLink limits depth =
        fun entry => entry.isDirectory && !isLink entry.path := by
      funext entry
      simp [Walk.enters, Nat.succ_le_of_lt room]
    rw [deeper, metBelow, readPath, entered]
    rfl
  · have bottom : limits.depth - depth = 0 := by omega
    have deep : ¬ depth + 1 ≤ limits.depth := by omega
    have passed : entries.filter (Walk.enters isLink limits depth) = [] :=
      List.filter_eq_nil_iff.mpr fun entry _ => by simp [Walk.enters, deep]
    rw [bottom, metBelow, readPath, passed]
    rfl

/-! ### Walks that no limit cuts -/

namespace Walk

variable {walk : Walk}

/-- The number of entries that are still to be met. -/
def remaining (read : Path → Except ε (List Entry)) (isLink : Path → Bool) (limits : Limits)
    (walk : Walk) : Nat :=
  ((walk.slots.toList.drop walk.next).map fun slot =>
    metBelow read isLink (limits.depth - slot.depth) slot.path).sum

/-- **A walk that no limit on entries has cut or will cut.** -/
structure Faithful (read : Path → Except ε (List Entry)) (isLink : Path → Bool) (limits : Limits)
    (walk : Walk) : Prop where
  held : ∀ {number : Nat} {slot : Slot}, number < walk.next → walk.slots[number]? = some slot →
    slot.entries = (read slot.path).toOption
  room : walk.total + walk.remaining read isLink limits ≤ limits.entries

theorem remaining_of_found {slot : Slot} (found : walk.slots[walk.next]? = some slot) :
    walk.remaining read isLink limits =
      metBelow read isLink (limits.depth - slot.depth) slot.path +
        { walk with next := walk.next + 1 }.remaining read isLink limits := by
  obtain ⟨inside, rfl⟩ := Array.getElem?_eq_some_iff.mp found
  have inside' : walk.next < walk.slots.toList.length := by simpa using inside
  unfold remaining
  rw [List.drop_eq_getElem_cons inside', List.map_cons, List.sum_cons, Array.getElem_toList]

/-- What a reading puts in the place of the directory read: its entries, and the directories to be
read. -/
theorem remaining_take {slot : Slot} {entries : List Entry}
    (found : walk.slots[walk.next]? = some slot) (whole : walk.cap limits entries = entries) :
    (walk.take isLink limits slot entries).remaining read isLink limits =
      { walk with next := walk.next + 1 }.remaining read isLink limits +
        ((slotsFor isLink limits walk.next slot.depth entries).map fun slot =>
          metBelow read isLink (limits.depth - slot.depth) slot.path).sum := by
  have inside := (Array.getElem?_eq_some_iff.mp found).1
  unfold remaining take
  rw [whole]
  simp only [Array.toList_appendList, Array.toList_setIfInBounds]
  rw [List.drop_append_of_le_length, List.drop_set_of_lt, List.map_append, List.sum_append]
  · exact Nat.lt_succ_self _
  · simpa using Nat.succ_le_of_lt inside

namespace Faithful

theorem start (room : metBelow read isLink limits.depth root ≤ limits.entries) :
    (start root).Faithful read isLink limits where
  held behind := absurd behind (Nat.not_lt_zero _)
  room := by
    show 0 + (metBelow read isLink limits.depth root + 0) ≤ limits.entries
    omega

/-- There is room for all that is read. -/
theorem cap_eq (faithful : walk.Faithful read isLink limits) {slot : Slot} {entries : List Entry}
    (found : walk.slots[walk.next]? = some slot) (readSlot : read slot.path = .ok entries) :
    walk.cap limits entries = entries := by
  have room := faithful.room
  rw [remaining_of_found found, metBelow_eq walk.next readSlot] at room
  exact List.take_of_length_le (by omega)

theorem take (faithful : walk.Faithful read isLink limits) {slot : Slot} {entries : List Entry}
    (found : walk.slots[walk.next]? = some slot) (readSlot : read slot.path = .ok entries) :
    (walk.take isLink limits slot entries).Faithful read isLink limits where
  held := by
    intro number other behind later
    have whole := faithful.cap_eq found readSlot
    rcases Coherent.take_cases found later with ⟨different, before⟩ | ⟨rfl, rfl⟩ | ⟨far, _⟩
    · exact faithful.held (Nat.lt_of_le_of_ne (Nat.le_of_lt_succ behind) different) before
    · rw [whole, readSlot]
      rfl
    · have inside := (Array.getElem?_eq_some_iff.mp found).1
      exact absurd (Nat.lt_of_lt_of_le inside far) (Nat.not_lt.mpr (Nat.le_of_lt_succ behind))
  room := by
    have room := faithful.room
    have whole := faithful.cap_eq found readSlot
    rw [remaining_of_found found, metBelow_eq walk.next readSlot] at room
    rw [remaining_take found whole]
    show walk.total + (walk.cap limits entries).length + _ ≤ limits.entries
    rw [whole]
    omega

theorem skip (faithful : walk.Faithful read isLink limits) {slot : Slot} {fault : ε}
    (coherent : walk.Coherent isLink limits root) (found : walk.slots[walk.next]? = some slot)
    (failed : read slot.path = .error fault) :
    { walk with next := walk.next + 1 }.Faithful read isLink limits where
  held := by
    intro number other behind before
    rcases Nat.lt_succ_iff_lt_or_eq.mp behind with earlier | rfl
    · exact faithful.held earlier before
    · rw [found] at before
      cases before
      rw [coherent.unread (Nat.le_refl _) found, failed]
      rfl
  room := by
    have room := faithful.room
    rw [remaining_of_found found] at room
    show walk.total + _ ≤ limits.entries
    omega

end Faithful

/-- Reading on cuts nothing. -/
theorem faithful_runFrom {steps : Nat} {finished : Walk}
    (coherent : walk.Coherent isLink limits root) (faithful : walk.Faithful read isLink limits)
    (ran : runFrom (fun _ => read) isLink limits steps walk = some finished) :
    finished.Faithful read isLink limits := by
  refine (runFrom_induction (motive := fun walk =>
    walk.Coherent isLink limits root ∧ walk.Faithful read isLink limits) ?_ ?_
      ⟨coherent, faithful⟩ ran).2
  · rintro walk slot entries ⟨coherent, faithful⟩ found readSlot
    exact ⟨coherent.take found entries, faithful.take found readSlot⟩
  · rintro walk slot fault ⟨coherent, faithful⟩ found failed
    exact ⟨coherent.skip, faithful.skip coherent found failed⟩

/-- The walk goes into directories that are no links, as long as there is a level left. -/
theorem enters_eq (depth : Nat) (entry : Entry) :
    enters isLink limits depth entry =
      (entry.isDirectory && !isLink entry.path && decide (0 < limits.depth - depth)) := by
  unfold enters
  congr 1
  exact decide_eq_decide.mpr (by omega)

/-- **In the end a slot has the tree below its directory.** The slots of the directories in a
directory stand behind its own, so the induction goes downwards from the last slot. -/
theorem contents_eq_listBelow (coherent : walk.Coherent isLink limits root)
    (faithful : walk.Faithful read isLink limits) (finished : walk.slots.size ≤ walk.next)
    (fresh : ∀ path entries, read path = .ok entries → ∀ entry ∈ entries, entry.Fresh)
    {number : Nat} {slot : Slot} (found : walk.slots[number]? = some slot) :
    walk.contents number = listBelow read isLink (limits.depth - slot.depth) slot.path := by
  induction left : walk.slots.size - number using Nat.strongRecOn generalizing number slot with
  | ind left ih =>
    have inside := (Array.getElem?_eq_some_iff.mp found).1
    have held := faithful.held (Nat.lt_of_lt_of_le inside finished) found
    rw [contents_eq coherent found, listBelow_eq, held]
    cases readSlot : read slot.path with
    | error fault => rfl
    | ok entries =>
      have holds : slot.entries = some entries := by
        rw [held, readSlot]
        rfl
      refine congrArg some (filterMap_zipIdx fun entry place foundEntry => ?_)
      have freshEntry := fresh _ _ readSlot entry (List.mem_of_getElem? foundEntry)
      rw [entryBelow_of_fresh freshEntry, ← enters_eq]
      cases entered : enters isLink limits slot.depth entry with
      | true =>
        obtain ⟨child, below, earlier, foundBelow, path, depth, settled⟩ :=
          settledEntry_of_entered coherent found holds foundEntry entered
        have deeper := ih _ (by omega) foundBelow rfl
        rw [settled, deeper, path, depth, Nat.sub_sub]
        rfl
      | false =>
        rw [settledEntry_of_not_entered coherent found holds foundEntry entered]
        rfl

/-- **A walk that no limit cuts is put together to the tree of the recursion.** -/
theorem listBelow_eq_assemble
    (fresh : ∀ path entries, read path = .ok entries → ∀ entry ∈ entries, entry.Fresh)
    (room : metBelow read isLink limits.depth root ≤ limits.entries)
    (ran : run (fun _ => read) isLink limits root = some walk) :
    listBelow read isLink limits.depth root = some walk.assemble := by
  obtain ⟨coherent, finished⟩ := coherent_run ran
  have faithful := faithful_runFrom (.start root) (.start room) ran
  obtain ⟨held, first⟩ := coherent.first
  have contents : walk.contents 0 = listBelow read isLink limits.depth root :=
    contents_eq_listBelow coherent faithful finished fresh first
  have readable : listBelow read isLink limits.depth root ≠ none := fun none => by
    rw [run_eq_none_iff.mpr (listBelow_eq_none_iff.mp none)] at ran
    cases ran
  obtain ⟨tree, below⟩ := Option.ne_none_iff_exists'.mp readable
  show _ = some ((walk.contents 0).getD [])
  rw [contents, below]
  rfl

end Walk

/-! ### The tree of a directory -/

/-- A listing that no limit cuts gives the tree of the recursion. -/
theorem listBelow_of_list
    (fresh : ∀ path entries, read path = .ok entries → ∀ entry ∈ entries, entry.Fresh)
    (room : metBelow read isLink limits.depth root ≤ limits.entries) {tree : List Entry}
    (lists : list (fun _ => read) isLink limits root = .ok tree) :
    listBelow read isLink limits.depth root = some tree := by
  unfold list at lists
  cases ran : Walk.run (fun _ => read) isLink limits root with
  | none =>
    rw [ran] at lists
    cases lists
  | some walk =>
    rw [ran] at lists
    cases lists
    exact Walk.listBelow_eq_assemble fresh room ran

/-- **Walk and assembly give the tree that the recursion gives**, if the limit on entries admits all
entries met. The listing fails exactly if the root cannot be read, and in the assembly every slot
finds its own entry at the place that it remembers. -/
theorem list_eq_listBelow (read : Path → Except ε (List Entry)) (isLink : Path → Bool)
    (limits : Limits) (root : Path)
    (fresh : ∀ path entries, read path = .ok entries → ∀ entry ∈ entries, entry.Fresh)
    (room : metBelow read isLink limits.depth root ≤ limits.entries) :
    (∀ tree, list (fun _ => read) isLink limits root = .ok tree ↔
        listBelow read isLink limits.depth root = some tree) ∧
      (∀ error, list (fun _ => read) isLink limits root = .error error ↔
        error = .notFound root ∧ ∃ fault, read root = .error fault) ∧
      ∀ walk, Walk.run (fun _ => read) isLink limits root = some walk → walk.AssemblesInPlace := by
  unfold list
  cases ran : Walk.run (fun _ => read) isLink limits root with
  | none =>
    have failed := Walk.run_eq_none_iff.mp ran
    have below : listBelow read isLink limits.depth root = none := listBelow_eq_none_iff.mpr failed
    refine ⟨fun tree => ?_, fun error => ?_, fun walk same => ?_⟩
    · simp [below]
    · simp [failed, eq_comm]
    · cases same
  | some walk =>
    obtain ⟨coherent, _⟩ := Walk.coherent_run ran
    have readable : ¬ ∃ fault, read root = .error fault := fun failed => by
      rw [Walk.run_eq_none_iff.mpr failed] at ran
      cases ran
    have assembled := Walk.listBelow_eq_assemble fresh room ran
    refine ⟨fun tree => ?_, fun error => ?_, fun other same => ?_⟩
    · simp [assembled]
    · simp [readable]
    · cases same
      exact Walk.assemblesInPlace coherent

/-- Readings of a small file system: below `r` stand the directories `a`, `b`, `c` and `d` and a
file, of which `a` and `b/e` cannot be read, and `c` is empty. -/
def smallReading (path : Path) : Except Unit (List Entry) :=
  if path.text = "r" then
    .ok [.directory "a" ⟨"r/a"⟩, .directory "b" ⟨"r/b"⟩, .directory "c" ⟨"r/c"⟩,
      .directory "d" ⟨"r/d"⟩, .file "x.py" ⟨"r/x.py"⟩]
  else if path.text = "r/b" then .ok [.directory "e" ⟨"r/b/e"⟩, .file "y.py" ⟨"r/b/y.py"⟩]
  else if path.text = "r/c" then .ok []
  else .error ()

theorem smallReading_fresh (path : Path) (entries : List Entry)
    (readPath : smallReading path = .ok entries) : ∀ entry ∈ entries, entry.Fresh := by
  unfold smallReading at readPath
  split_ifs at readPath <;> cases readPath <;> simp [Entry.Fresh.file, Entry.Fresh.directory]

/-- The walk meets seven entries: the unreadable directories are dropped, and the link `d` stays
empty. -/
theorem list_small :
    metBelow smallReading (fun path => path.text = "r/d") 2 ⟨"r"⟩ = 7 ∧
      list (fun _ => smallReading) (fun path => path.text = "r/d") { depth := 2, entries := 7 }
          ⟨"r"⟩ =
        .ok [.mk "b" ⟨"r/b"⟩ .directory (some [.file "y.py" ⟨"r/b/y.py"⟩]),
          .directory "c" ⟨"r/c"⟩, .directory "d" ⟨"r/d"⟩, .file "x.py" ⟨"r/x.py"⟩] := by
  have met : metBelow smallReading (fun path => path.text = "r/d") 2 ⟨"r"⟩ = 7 := by decide
  refine ⟨met, ((list_eq_listBelow smallReading (fun path => path.text = "r/d")
    { depth := 2, entries := 7 } ⟨"r"⟩ smallReading_fresh (Nat.le_of_eq met)).1 _).mpr rfl⟩

end DeclGraph.Tree
