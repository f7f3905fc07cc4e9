/-
**Where the files of a tree come from.**

Whatever the limits are, a tree shows a file only because it was read in a directory that the walk
came to, and the walk comes to directories through directories that are no links.

* `Grown`: what becomes of the entries of a directory in a tree;
* `Grown.mem_cases`, `Grown.children_cases`: the entries of a tree and their children;
* **`list_induction`**: what holds of every directory with grown entries holds of a tree;
* `Visited`: the directories below a root to which a walk may come;
* `Shown`: the files read in such directories;
* **`shown_of_mem_list`**: the files of a tree are such files.
-/

import DeclGraph.Proofs.Tree.Assembly

namespace DeclGraph

/-- The files of several trees. -/
theorem Entry.mem_filesOfAll_iff {entries : List Entry} {path : Path} :
    path ∈ Entry.filesOfAll entries ↔ ∃ entry ∈ entries, path ∈ entry.filesBelow := by
  induction entries with
  | nil => simp [Entry.filesOfAll]
  | cons entry entries ih => simp [Entry.filesOfAll, ih]

namespace Tree

variable {ε : Type} {read : Path → Except ε (List Entry)} {isLink : Path → Bool} {limits : Limits}
  {root : Path}

/-! ### Trees of what was read -/

/-- **What becomes of the entries of a directory in a tree**, where `below` says what is told below
the directories among them: an entry stays, gets children or is dropped, and the last ones may be cut
off. -/
inductive Grown (isLink : Path → Bool) (below : Path → List Entry → Prop) :
    List Entry → List Entry → Prop
  | cut (entries : List Entry) : Grown isLink below entries []
  | kept {entry : Entry} {entries tree : List Entry} :
      Grown isLink below entries tree → Grown isLink below (entry :: entries) (entry :: tree)
  | filled {entry : Entry} {children entries tree : List Entry} :
      entry.isDirectory = true → isLink entry.path = false → below entry.path children →
        Grown isLink below entries tree →
          Grown isLink below (entry :: entries) (entry.withChildren children :: tree)
  | dropped {entry : Entry} {entries tree : List Entry} :
      Grown isLink below entries tree → Grown isLink below (entry :: entries) tree

namespace Grown

variable {below : Path → List Entry → Prop} {entries tree : List Entry}

theorem of_isPrefix {held : List Entry} (grown : Grown isLink below held tree)
    (isPrefix : held <+: entries) : Grown isLink below entries tree := by
  obtain ⟨rest, rfl⟩ := isPrefix
  induction grown with
  | cut => exact .cut _
  | kept _ ih => exact .kept ih
  | filled isDirectory own told _ ih => exact .filled isDirectory own told ih
  | dropped _ ih => exact .dropped ih

/-- A choice for each entry by its place makes entries grow. -/
theorem of_filterMap {choose : Entry × Nat → Option Entry} {start : Nat}
    (chosen : ∀ entry place, entries[place]? = some entry →
      choose (entry, start + place) = some entry ∨ choose (entry, start + place) = none ∨
        entry.isDirectory = true ∧ isLink entry.path = false ∧ ∃ children,
          below entry.path children ∧
            choose (entry, start + place) = some (entry.withChildren children)) :
    Grown isLink below entries ((entries.zipIdx start).filterMap choose) := by
  induction entries generalizing start with
  | nil => exact .cut _
  | cons entry entries ih =>
    have rest : Grown isLink below entries ((entries.zipIdx (start + 1)).filterMap choose) := by
      refine ih fun other place found => ?_
      rw [Nat.add_assoc, Nat.add_comm 1]
      exact chosen other (place + 1) found
    rw [List.zipIdx_cons, List.filterMap_cons]
    have first := chosen entry 0 rfl
    rw [Nat.add_zero] at first
    rcases first with same | none | ⟨isDirectory, own, children, told, filled⟩
    · rw [same]
      exact .kept rest
    · rw [none]
      exact .dropped rest
    · rw [filled]
      exact .filled isDirectory own told rest

/-- **An entry in a tree is as it was read**, or it is a directory with the children that it got. -/
theorem mem_cases (grown : Grown isLink below entries tree) {entry : Entry} (member : entry ∈ tree) :
    entry ∈ entries ∨ ∃ read ∈ entries, read.isDirectory = true ∧ isLink read.path = false ∧
      ∃ children, below read.path children ∧ entry = read.withChildren children := by
  induction grown with
  | cut => cases member
  | kept _ ih =>
    rcases List.mem_cons.mp member with rfl | later
    · exact Or.inl List.mem_cons_self
    · exact (ih later).imp (List.mem_cons_of_mem _) fun ⟨read, isRead, got⟩ =>
        ⟨read, List.mem_cons_of_mem _ isRead, got⟩
  | filled isDirectory own told _ ih =>
    rcases List.mem_cons.mp member with rfl | later
    · exact Or.inr ⟨_, List.mem_cons_self, isDirectory, own, _, told, rfl⟩
    · exact (ih later).imp (List.mem_cons_of_mem _) fun ⟨read, isRead, got⟩ =>
        ⟨read, List.mem_cons_of_mem _ isRead, got⟩
  | dropped _ ih =>
    exact (ih member).imp (List.mem_cons_of_mem _) fun ⟨read, isRead, got⟩ =>
      ⟨read, List.mem_cons_of_mem _ isRead, got⟩

/-- What holds of all entries of a directory, with any children, holds of what grows from them. -/
theorem forall_mem {property : Entry → Prop} (grown : Grown isLink below entries tree)
    (withChildren : ∀ entry children, entry.isDirectory = true → property entry →
      property (entry.withChildren children))
    (holds : ∀ entry ∈ entries, property entry) : ∀ entry ∈ tree, property entry := by
  intro entry member
  rcases grown.mem_cases member with same | ⟨read, isRead, isDirectory, _, children, _, rfl⟩
  · exact holds entry same
  · exact withChildren read children isDirectory (holds read isRead)

/-- The children of an entry in a tree are what is told below it, if it has any. -/
theorem children_cases (grown : Grown isLink below entries tree)
    (fresh : ∀ entry ∈ entries, entry.Fresh) {entry : Entry} (member : entry ∈ tree)
    {children : List Entry} (holds : entry.children = some children) :
    children = [] ∨ below entry.path children := by
  rcases grown.mem_cases member with same | ⟨read, _, _, _, children, told, rfl⟩
  · cases fresh entry same with
    | file => cases holds
    | directory =>
      cases holds
      exact Or.inl rfl
  · cases read
    cases holds
    exact Or.inr told

end Grown

namespace Walk

variable {walk : Walk}

/-- **The slots of a walk hold what was read in their directories**, as far as there was room. -/
structure Drawn (read : Path → Except ε (List Entry)) (walk : Walk) : Prop where
  held : ∀ {number : Nat} {slot : Slot} {held : List Entry}, walk.slots[number]? = some slot →
    slot.entries = some held → ∃ entries, read slot.path = .ok entries ∧ held <+: entries

namespace Drawn

theorem start (root : Path) : (start root).Drawn read where
  held found holds := by
    obtain ⟨inside, rfl⟩ := Array.getElem?_eq_some_iff.mp found
    simp [Walk.start] at holds

theorem skip (drawn : walk.Drawn read) : { walk with next := walk.next + 1 }.Drawn read where
  held := drawn.held

theorem take (drawn : walk.Drawn read) {slot : Slot} {entries : List Entry}
    (found : walk.slots[walk.next]? = some slot) (readSlot : read slot.path = .ok entries) :
    (walk.take isLink limits slot entries).Drawn read where
  held later holds := by
    rcases Coherent.take_cases found later with ⟨_, before⟩ | ⟨_, rfl⟩ | ⟨_, _, _, _, _, rfl⟩
    · exact drawn.held before holds
    · cases holds
      exact ⟨entries, readSlot, List.take_prefix _ _⟩
    · cases holds

end Drawn

/-- Reading on fills slots with what is read. -/
theorem drawn_runFrom {steps : Nat} {finished : Walk} (drawn : walk.Drawn read)
    (ran : runFrom (fun _ => read) isLink limits steps walk = some finished) :
    finished.Drawn read :=
  runFrom_induction (fun _ _ _ drawn found readSlot => drawn.take found readSlot)
    (fun _ _ _ drawn _ _ => drawn.skip) drawn ran

/-- **What holds of every directory with grown entries holds of the slots of a walk.** Entries get
what the slots behind hold, so the induction goes downwards from the last slot. -/
theorem contents_induction {motive : Path → List Entry → Prop}
    (step : ∀ directory entries tree, read directory = .ok entries →
      Grown isLink motive entries tree → motive directory tree)
    (coherent : walk.Coherent isLink limits root) (drawn : walk.Drawn read) {number : Nat}
    {slot : Slot} (found : walk.slots[number]? = some slot) {tree : List Entry}
    (contents : walk.contents number = some tree) : motive slot.path tree := by
  induction left : walk.slots.size - number using Nat.strongRecOn
    generalizing number slot tree with
  | ind left ih =>
    have inside := (Array.getElem?_eq_some_iff.mp found).1
    rw [contents_eq coherent found, Option.map_eq_some_iff] at contents
    obtain ⟨held, isHeld, rfl⟩ := contents
    obtain ⟨entries, readSlot, isPrefix⟩ := drawn.held found isHeld
    refine step _ _ _ readSlot ((Grown.of_filterMap fun entry place foundEntry => ?_).of_isPrefix
      isPrefix)
    rw [Nat.zero_add]
    cases entered : enters isLink limits slot.depth entry with
    | false =>
      exact Or.inl (settledEntry_of_not_entered coherent found isHeld foundEntry entered)
    | true =>
      obtain ⟨child, deeper, behind, foundDeeper, path, _, settled⟩ :=
        settledEntry_of_entered coherent found isHeld foundEntry entered
      cases below : walk.contents child with
      | none =>
        rw [below] at settled
        exact Or.inr (Or.inl settled)
      | some children =>
        rw [below] at settled
        have told := ih _ (by omega) foundDeeper below rfl
        rw [path] at told
        simp only [enters, Bool.and_eq_true, Bool.not_eq_true'] at entered
        exact Or.inr (Or.inr ⟨entered.1.1, entered.1.2, children, told, settled⟩)

end Walk

/-- **What holds of every directory with grown entries holds of a tree**, whatever the limits are. -/
theorem list_induction {motive : Path → List Entry → Prop}
    (step : ∀ directory entries tree, read directory = .ok entries →
      Grown isLink motive entries tree → motive directory tree)
    {tree : List Entry} (lists : list (fun _ => read) isLink limits root = .ok tree) :
    motive root tree := by
  unfold list at lists
  cases ran : Walk.run (fun _ => read) isLink limits root with
  | none =>
    rw [ran] at lists
    cases lists
  | some walk =>
    rw [ran] at lists
    cases lists
    obtain ⟨coherent, _⟩ := Walk.coherent_run ran
    obtain ⟨held, first⟩ := coherent.first
    have drawn : walk.Drawn read := Walk.drawn_runFrom (.start root) ran
    have assembled : walk.assemble = (walk.contents 0).getD [] := rfl
    rw [assembled]
    cases contents : walk.contents 0 with
    | some tree => exact Walk.contents_induction step coherent drawn first contents
    | none =>
      cases readRoot : read root with
      | ok entries => exact step root entries [] readRoot (.cut entries)
      | error fault =>
        rw [Walk.run_eq_none_iff.mpr ⟨fault, readRoot⟩] at ran
        cases ran

/-! ### The directories of a walk and their files -/

/-- **The directories to which a walk below a root may come.** -/
inductive Visited (read : Path → Except ε (List Entry)) (isLink : Path → Bool) (root : Path) :
    Path → Prop
  | root : Visited read isLink root root
  | deeper {directory : Path} {entries : List Entry} {entry : Entry} :
      Visited read isLink root directory → read directory = .ok entries → entry ∈ entries →
        entry.isDirectory = true → isLink entry.path = false → Visited read isLink root entry.path

/-- A file is read in a directory to which a walk may come. -/
def Shown (read : Path → Except ε (List Entry)) (isLink : Path → Bool) (root path : Path) : Prop :=
  ∃ directory entries entry, Visited read isLink root directory ∧ read directory = .ok entries ∧
    entry ∈ entries ∧ entry.isDirectory = false ∧ entry.path = path

/-- A file of grown entries is one of them, or it is told below one of them. -/
theorem Grown.mem_filesOfAll {below : Path → List Entry → Prop} {entries tree : List Entry}
    (grown : Grown isLink below entries tree) (fresh : ∀ entry ∈ entries, entry.Fresh) {path : Path}
    (member : path ∈ Entry.filesOfAll tree) :
    ∃ entry ∈ entries, entry.isDirectory = false ∧ entry.path = path ∨
      entry.isDirectory = true ∧ isLink entry.path = false ∧ ∃ children,
        below entry.path children ∧ path ∈ Entry.filesOfAll children := by
  obtain ⟨entry, isEntry, below⟩ := Entry.mem_filesOfAll_iff.mp member
  rcases grown.mem_cases isEntry with same | ⟨read, isRead, isDirectory, own, children, told, rfl⟩
  · cases fresh entry same with
    | file name other =>
      rw [Entry.file, Entry.filesBelow, List.mem_singleton] at below
      exact ⟨_, same, Or.inl ⟨rfl, below.symm⟩⟩
    | directory => cases below
  · cases read
    exact ⟨_, isRead, Or.inr ⟨isDirectory, own, children, told, below⟩⟩

/-- **The files of a tree were read in directories to which a walk may come.** -/
theorem shown_of_mem_list
    (fresh : ∀ path entries, read path = .ok entries → ∀ entry ∈ entries, entry.Fresh)
    {tree : List Entry} (lists : list (fun _ => read) isLink limits root = .ok tree) {path : Path}
    (member : path ∈ Entry.filesOfAll tree) : Shown read isLink root path := by
  suffices shown : Visited read isLink root root → ∀ path ∈ Entry.filesOfAll tree,
      Shown read isLink root path from shown .root path member
  refine list_induction (motive := fun directory tree => Visited read isLink root directory →
    ∀ path ∈ Entry.filesOfAll tree, Shown read isLink root path) ?_ lists
  intro directory entries tree reads grown visited path member
  obtain ⟨entry, isEntry, ⟨notDirectory, same⟩ | ⟨isDirectory, own, children, told, below⟩⟩ :=
    grown.mem_filesOfAll (fresh _ _ reads) member
  · exact ⟨directory, entries, entry, visited, reads, isEntry, notDirectory, same⟩
  · exact told (.deeper visited reads isEntry isDirectory own) path below

end Tree

end DeclGraph
