/-
**A command line without its output.**

The words of one option with its value can be taken out of a command line: all other words are
scanned as before, and the scan lacks this one option. For a run that writes to a file this gives
the words of the run that prints.

* `Omits`: words, and the same words without an option with a value;
* `Task.output?`, `Invocation.withoutOutput`: the file a run writes to, and the run that prints;
* `Role`, `step?_role`: what a word has to do with an option;
* **`omits_of_mem`**: the scan of the words without an option;
* `Prints`, **`ofWords?_omits`**: the words that ask for the run that prints.
-/

import DeclGraph.CommandLine.Invocation
import DeclGraph.Proofs.CommandLine.Scanning

namespace DeclGraph.CommandLine

variable {forms : List OptionForm} {scan next before last other : Scan} {stage follow : Stage}
  {letter : Char} {name value word : String} {letters : List Char}
  {words less back left taken : List String} {path : Path}

/-! ### Words without an option -/

/-- The word of some letters behind one dash; no word if there are no letters. -/
def dashed : List Char → List String
  | [] => []
  | letters => [String.ofList ('-' :: letters)]

/-- The words that give an option a value, and what is left of them without it. Behind one dash
other letters may stand in front. -/
inductive Gives (letter : Char) (name value : String) : List String → List String → Prop
  | name : Gives letter name value ["--" ++ name, value] []
  | nameAttached : Gives letter name value ["--" ++ name ++ "=" ++ value] []
  | letter (others : List Char) :
      Gives letter name value [String.ofList ('-' :: (others ++ [letter])), value] (dashed others)
  | letterAttached (others : List Char) :
      Gives letter name value [String.ofList ('-' :: (others ++ letter :: value.toList))]
        (dashed others)
  | letterEquals (others : List Char) :
      Gives letter name value [String.ofList ('-' :: (others ++ letter :: '=' :: value.toList))]
        (dashed others)

/-- Words, and the same words without an option with a value. -/
inductive Omits (letter : Char) (name value : String) : List String → List String → Prop
  | here {taken left : List String} (back : List String) :
      Gives letter name value taken left → Omits letter name value (taken ++ back) (left ++ back)
  | behind {words less : List String} (word : String) :
      Omits letter name value words less → Omits letter name value (word :: words) (word :: less)

theorem Omits.append (front : List String) (omits : Omits letter name value words less) :
    Omits letter name value (front ++ words) (front ++ less) := by
  induction front with
  | nil => exact omits
  | cons word front ih => exact .behind word ih

/-- The file that a task writes to. -/
def Task.output? : Task → Option Path
  | .graph _ _ output | .index _ output => output
  | .tree _ _ _ | .serve _ => none

/-- The same task, which prints. -/
def Task.withoutOutput : Task → Task
  | .graph file format _ => .graph file format none
  | .tree directory language project => .tree directory language project
  | .index directory _ => .index directory none
  | .serve port => .serve port

/-- The same invocation, which prints. -/
def Invocation.withoutOutput (invocation : Invocation) : Invocation :=
  { invocation with task := invocation.task.withoutOutput }

/-! ### A scan without an option -/

/-- A scan, and the same scan without one of its options. -/
def Scan.Lacks (scan : Scan) (entry : String × Option String) (other : Scan) : Prop :=
  ∃ before after, scan.options = before ++ entry :: after ∧
    other = { scan with options := before ++ after }

/-- Without an option that has been found, the words behind it are scanned as before. -/
theorem lacks_of_withOption {value : Option String}
    (scans : scanFrom? forms (fun _ => false) (scan.withOption name value) stage words =
      some last) :
    ∃ other, scanFrom? forms (fun _ => false) scan stage words = some other ∧
      last.Lacks (name, value) other := by
  have with_ : scan.withOption name value =
      ({ scan with options := [] } : Scan).behind (scan.options ++ [(name, value)]) := by
    rw [Scan.behind, List.append_nil, Scan.withOption]
  have without : scan = ({ scan with options := [] } : Scan).behind scan.options := by
    rw [Scan.behind, List.append_nil]
  rw [with_, scanFrom?_behind, Option.map_eq_some_iff] at scans
  obtain ⟨rest, scans, rfl⟩ := scans
  refine ⟨rest.behind scan.options, ?_, scan.options, rest.options, ?_, rfl⟩
  · conv_lhs => rw [without]
    rw [scanFrom?_behind, scans, Option.map_some]
  · simp only [Scan.behind, List.append_assoc, List.singleton_append]

/-! ### One option with its value -/

/-- A step of a scan that neither gives an option a value nor leaves it waiting for one. -/
structure Apart (name : String) (scan next : Scan) (follow : Stage) : Prop where
  noWait : follow ≠ .waiting name
  noEntry : ∀ value, (name, some value) ∈ next.options → (name, some value) ∈ scan.options

theorem Apart.refl (scan : Scan) : Apart name scan scan .ready := ⟨nofun, fun _ => id⟩

theorem Apart.trans {first : Scan} (apart : Apart name scan first .ready)
    (rest : Apart name first next follow) : Apart name scan next follow :=
  ⟨rest.noWait, fun value there => apart.noEntry value (rest.noEntry value there)⟩

theorem apart_of_options (noWait : follow ≠ .waiting name) (same : next.options = scan.options) :
    Apart name scan next follow :=
  ⟨noWait, fun _ there => same ▸ there⟩

theorem apart_withOption {given : String} {attached : Option String}
    (differs : given = name → attached = none) :
    Apart name scan (scan.withOption given attached) .ready := by
  refine ⟨nofun, fun value there => ?_⟩
  rcases List.mem_append.mp there with there | there
  · exact there
  · obtain ⟨rfl, rfl⟩ := Prod.mk.inj (List.mem_singleton.mp there)
    cases differs rfl

theorem Apart.notMem_withOption {given : String} (apart : Apart name scan before .ready)
    (new : (name, some value) ∉ scan.options) (differs : given ≠ value) :
    (name, some value) ∉ (before.withOption name (some given)).options := by
  intro there
  rcases List.mem_append.mp there with there | there
  · exact new (apart.noEntry value there)
  · cases List.mem_singleton.mp there
    exact differs rfl

/-- Letters behind one dash have nothing to do with an option, or leave it waiting for its value, or
give it a value. -/
theorem short?_cases (unique : ∀ form ∈ forms, form.name = name → form.letter = letter)
    (letters : List Char) (scan : Scan) (scans : short? forms scan letters = some (next, follow)) :
    Apart name scan next follow ∨
    ∃ others before, short? forms scan others = some (before, .ready) ∧
      Apart name scan before .ready ∧
      (letters = others ++ [letter] ∧ follow = .waiting name ∧ next = before ∨
        ∃ value : String,
          (letters = others ++ letter :: value.toList ∨
            letters = others ++ letter :: '=' :: value.toList) ∧
          follow = .ready ∧ next = before.withOption name (some value)) := by
  induction letters generalizing scan with
  | nil =>
    cases scans
    exact Or.inl (apart_of_options nofun rfl)
  | cons first rest ih =>
    obtain ⟨form, known, rfl, ⟨rfl, notice, rfl⟩ | ⟨rfl, rfl, rfl⟩ | ⟨value, spelled, rfl, rfl⟩ |
      ⟨scans, follows⟩⟩ := short?_cons_cases scans
    · exact Or.inl (apart_of_options nofun rfl)
    · by_cases same : form.name = name
      · refine Or.inr ⟨[], next, rfl, .refl next, Or.inl ⟨?_, by rw [same], rfl⟩⟩
        rw [unique form known same, List.nil_append]
      · exact Or.inl (apart_of_options (fun waits => same (Stage.waiting.inj waits)) rfl)
    · by_cases same : form.name = name
      · refine Or.inr ⟨[], scan, rfl, .refl scan, Or.inr ⟨value, ?_, rfl, by rw [same]⟩⟩
        rw [unique form known same, List.nil_append, List.nil_append]
        exact spelled.imp (congrArg _) (congrArg _)
      · exact Or.inl (apart_withOption fun equal => absurd equal same)
    · have flag : Apart name scan (scan.withOption form.name none) .ready :=
        apart_withOption fun _ => rfl
      rcases ih _ scans with apart | ⟨others, before, scansOthers, apart, gives⟩
      · exact Or.inl (flag.trans apart)
      · refine Or.inr ⟨form.letter :: others, before, (follows others).trans scansOthers,
          flag.trans apart, ?_⟩
        rcases gives with ⟨rfl, waits⟩ | ⟨value, spelled, given⟩
        · exact Or.inl ⟨rfl, waits⟩
        · exact Or.inr ⟨value, spelled.imp (congrArg _) (congrArg _), given⟩

/-- Words in front of others, after which a scan goes on from another one. -/
def Passes (forms : List OptionForm) (scan : Scan) (stage : Stage) (front : List String)
    (next : Scan) (follow : Stage) : Prop :=
  ∀ back, scanFrom? forms (fun _ => false) scan stage (front ++ back) =
    scanFrom? forms (fun _ => false) next follow back

theorem passes_of_step? (steps : step? forms scan stage word = some (next, follow)) :
    Passes forms scan stage [word] next follow := by
  intro back
  rw [List.singleton_append, scanFrom?_cons fun _ => rfl, steps, Option.bind_some]

theorem Passes.append {middle : Scan} {between : Stage} {front : List String}
    (first : Passes forms scan stage front middle between)
    (second : Passes forms middle between back next follow) :
    Passes forms scan stage (front ++ back) next follow := by
  intro rest
  rw [List.append_assoc, first, second]

/-- The letters in front of an option in one word are scanned as before without it. -/
theorem passes_dashed {others : List Char} (begins : ∃ c rest, letters = c :: rest ∧ c ≠ '-')
    (front : others <+: letters) (scans : short? forms scan others = some (next, .ready)) :
    Passes forms scan .ready (dashed others) next .ready := by
  obtain ⟨c, rest, rfl, noLong⟩ := begins
  cases others with
  | nil =>
    cases scans
    exact fun _ => rfl
  | cons first others =>
    obtain ⟨rfl, _⟩ := List.cons_prefix_cons.mp front
    apply passes_of_step?
    rw [step?, kindOf_dashed noLong]
    exact scans

/-- What a word has to do with an option: nothing, or it leaves it waiting for its value, or it
gives it a value. What is left of the word is scanned as before without the option. -/
inductive Role (forms : List OptionForm) (letter : Char) (name : String) (scan : Scan)
    (stage : Stage) (word : String) : Scan → Stage → Prop
  | apart {next : Scan} {follow : Stage} (apart : Apart name scan next follow) :
      Role forms letter name scan stage word next follow
  | waits {next : Scan} {left : List String}
      (gives : ∀ value, Gives letter name value [word, value] left)
      (apart : Apart name scan next .ready) (passes : Passes forms scan stage left next .ready) :
      Role forms letter name scan stage word next (.waiting name)
  | gives {before : Scan} {value : String} {left : List String}
      (gives : Gives letter name value [word] left) (apart : Apart name scan before .ready)
      (passes : Passes forms scan stage left before .ready) :
      Role forms letter name scan stage word (before.withOption name (some value)) .ready

theorem long?_role {given : String} {attached : Option String}
    (kind : kindOf word = .long given attached)
    (scans : long? forms scan given attached = some (next, follow)) :
    Role forms letter name scan .ready word next follow := by
  have spelled := eq_of_kindOf_long kind
  rcases long?_cases scans with ⟨rfl, _, rfl⟩ | ⟨rfl, rfl, rfl⟩ | ⟨rfl, rfl⟩
  · exact .apart (apart_of_options nofun rfl)
  · by_cases same : given = name
    · subst same spelled
      exact .waits (fun _ => .name) (.refl next) fun _ => rfl
    · exact .apart (apart_of_options (fun waits => same (Stage.waiting.inj waits)) rfl)
  · cases attached with
    | none => exact .apart (apart_withOption fun _ => rfl)
    | some value =>
      by_cases same : given = name
      · subst same spelled
        exact .gives .nameAttached (.refl scan) fun _ => rfl
      · exact .apart (apart_withOption fun equal => absurd equal same)

theorem short?_role (unique : ∀ form ∈ forms, form.name = name → form.letter = letter)
    (kind : kindOf word = .short letters)
    (scans : short? forms scan letters = some (next, follow)) :
    Role forms letter name scan .ready word next follow := by
  obtain ⟨rfl, begins⟩ := eq_of_kindOf_short kind
  rcases short?_cases unique letters scan scans with
    apart | ⟨others, before, scansOthers, apart, ⟨rfl, rfl, rfl⟩ | ⟨value, spelled, rfl, rfl⟩⟩
  · exact .apart apart
  · exact .waits (fun _ => .letter others) apart
      (passes_dashed begins (List.prefix_append _ _) scansOthers)
  · rcases spelled with rfl | rfl
    · exact .gives (.letterAttached others) apart
        (passes_dashed begins (List.prefix_append _ _) scansOthers)
    · exact .gives (.letterEquals others) apart
        (passes_dashed begins (List.prefix_append _ _) scansOthers)

/-- **What one word has to do with an option** that does not wait for its value. -/
theorem step?_role (unique : ∀ form ∈ forms, form.name = name → form.letter = letter)
    (elsewhere : stage ≠ .waiting name)
    (steps : step? forms scan stage word = some (next, follow)) :
    Role forms letter name scan stage word next follow := by
  cases stage with
  | noticed | operands =>
    cases steps
    exact .apart (apart_of_options (by simp) rfl)
  | waiting other =>
    rw [step?] at steps
    split at steps
    · cases steps
      exact .apart (apart_withOption fun equal => absurd (congrArg _ equal) elsewhere)
    · cases steps
  | ready =>
    rw [step?] at steps
    cases kind : kindOf word with
    | separator | plain =>
      rw [kind] at steps
      cases steps
      exact .apart (apart_of_options (by simp) rfl)
    | long given attached =>
      rw [kind] at steps
      exact long?_role kind steps
    | short letters =>
      rw [kind] at steps
      exact short?_role unique kind steps

/-- How words begin: with one that has nothing to do with an option, or with those that give it a
value. -/
inductive Start (forms : List OptionForm) (letter : Char) (name : String) (scan : Scan)
    (stage : Stage) : List String → Prop
  | apart {word : String} {words : List String} {next : Scan} {follow : Stage}
      (apart : Apart name scan next follow) (passes : Passes forms scan stage [word] next follow) :
      Start forms letter name scan stage (word :: words)
  | given {taken left words : List String} {before : Scan} {value : String}
      (gives : Gives letter name value taken left) (apart : Apart name scan before .ready)
      (without : Passes forms scan stage left before .ready)
      (passes : Passes forms scan stage taken (before.withOption name (some value)) .ready) :
      Start forms letter name scan stage (taken ++ words)

/-- Words that are scanned begin in one of these ways. -/
theorem start_of_scans (unique : ∀ form ∈ forms, form.name = name → form.letter = letter)
    (elsewhere : stage ≠ .waiting name) (some_ : words ≠ [])
    (scans : scanFrom? forms (fun _ => false) scan stage words = some last) :
    Start forms letter name scan stage words := by
  obtain ⟨word, words, rfl⟩ := List.exists_cons_of_ne_nil some_
  rw [scanFrom?_cons fun _ => rfl, Option.bind_eq_some_iff] at scans
  obtain ⟨⟨next, follow⟩, steps, scans⟩ := scans
  have first := passes_of_step? steps
  cases step?_role unique elsewhere steps with
  | apart apart => exact .apart apart first
  | waits gives apart passes =>
    cases words with
    | nil => cases scans
    | cons value words =>
      dsimp only at scans
      rw [scanFrom?_cons fun _ => rfl, Option.bind_eq_some_iff] at scans
      obtain ⟨⟨after, behind⟩, takes, _⟩ := scans
      have second := passes_of_step? takes
      rw [step?] at takes
      split at takes
      · cases takes
        exact .given (gives value) apart passes (first.append second)
      · cases takes
  | gives gives apart passes => exact .given gives apart passes first

theorem Gives.length_pos (gives : Gives letter name value taken left) : 0 < taken.length := by
  cases gives <;> exact Nat.succ_pos _

/-- **Words without an option:** if a scan finds an option with a value, then the words that give it
can be left out, and the scan of the other words lacks this option only. -/
theorem omits_of_mem (unique : ∀ form ∈ forms, form.name = name → form.letter = letter)
    (words : List String) (scan : Scan) (stage : Stage) (elsewhere : stage ≠ .waiting name)
    (new : (name, some value) ∉ scan.options)
    (scans : scanFrom? forms (fun _ => false) scan stage words = some last)
    (found : (name, some value) ∈ last.options) :
    ∃ less other, Omits letter name value words less ∧
      scanFrom? forms (fun _ => false) scan stage less = some other ∧
        last.Lacks (name, some value) other := by
  induction count : words.length using Nat.strongRecOn generalizing words scan stage with
  | ind _ ih =>
    subst count
    by_cases none_ : words = []
    · subst none_
      cases stage <;> cases scans <;> exact absurd found new
    · cases start_of_scans unique elsewhere none_ scans with
      | @apart word words next follow apart passes =>
        rw [← List.singleton_append, passes] at scans
        obtain ⟨less, other, omits, scansLess, lacks⟩ := ih _ (Nat.lt_succ_self _) words next follow
          apart.noWait (fun there => new (apart.noEntry value there)) scans rfl
        exact ⟨word :: less, other, .behind word omits, (passes less).trans scansLess, lacks⟩
      | @given taken left words before given gives apart without passes =>
        rw [passes] at scans
        by_cases equal : given = value
        · subst equal
          obtain ⟨other, scansRest, lacks⟩ := lacks_of_withOption scans
          exact ⟨left ++ words, other, .here words gives, (without words).trans scansRest, lacks⟩
        · have shorter : words.length < (taken ++ words).length := by
            rw [List.length_append]
            exact Nat.lt_add_of_pos_left gives.length_pos
          obtain ⟨less, other, omits, scansLess, lacks⟩ :=
            ih _ shorter words _ .ready nofun (apart.notMem_withOption new equal) scans rfl
          exact ⟨taken ++ less, other, omits.append taken, (passes less).trans scansLess, lacks⟩

/-! ### The run that prints -/

/-- A scan that lacks an option has the values of the others. -/
theorem values_of_lacks {given : String} (lacks : scan.Lacks (name, some value) other)
    (differs : given ≠ name) : other.values given = scan.values given := by
  obtain ⟨before, after, options, rfl⟩ := lacks
  simp [Scan.values, options, Ne.symm differs]

/-- A scan that lacks an option given once does not have it. -/
theorem values_of_lacks_once (lacks : scan.Lacks (name, some value) other)
    (once : scan.values name = [some value]) : other.values name = [] := by
  obtain ⟨before, after, options, rfl⟩ := lacks
  simpa [Scan.values, options, List.append_eq_cons_iff] using once

/-- An option that is given once, with a value in order. -/
theorem single?_eq_some_some {α : Type} {read : String → Option α} {result : α}
    (single : single? scan name read = some (some result)) :
    ∃ text, scan.values name = [some text] ∧ read text = some result := by
  unfold single? at single
  split at single
  case h_1 => cases single
  case h_2 text values => exact ⟨text, values, by simpa using single⟩
  case h_3 => cases single

theorem single?_of_lacks {α : Type} {read : String → Option α} {given : String}
    (lacks : scan.Lacks (name, some value) other) (differs : given ≠ name) :
    single? other given read = single? scan given read := by
  rw [single?, single?, values_of_lacks lacks differs]

/-- The output of a command is a path. -/
theorem values_output (single : single? scan "output" path? = some (some path)) :
    scan.values "output" = [some path.text] := by
  obtain ⟨text, values, reads⟩ := single?_eq_some_some single
  unfold path? at reads
  split_ifs at reads
  cases reads
  exact values

/-- **The task without its output:** if a scan asks for a task with an output, then the scan without
it asks for the same task, which prints. -/
def Prints (read : Scan → Option (Option Task)) : Prop :=
  ∀ scan task path, read scan = some (some task) → task.output? = some path →
    scan.values "output" = [some path.text] ∧
      ∀ other, scan.Lacks ("output", some path.text) other →
        read other = some (some task.withoutOutput)

theorem single?_of_lacks_once {α : Type} {read : String → Option α}
    (lacks : scan.Lacks (name, some value) other) (once : scan.values name = [some value]) :
    single? other name read = some none := by
  rw [single?, values_of_lacks_once lacks once]

theorem operandOrNone?_of_lacks (lacks : scan.Lacks (name, some value) other) :
    operandOrNone? other = operandOrNone? scan := by
  obtain ⟨before, after, _, rfl⟩ := lacks
  rfl

theorem prints_graph? : Prints graph? := by
  intro scan task path asks goes
  unfold graph? at asks
  simp only [bind, Option.bind_eq_some_iff, pure, Option.some.injEq] at asks
  obtain ⟨format, formats, output, outputs, file, files, asks⟩ := asks
  obtain ⟨file, rfl, rfl⟩ := Option.map_eq_some_iff.mp asks
  obtain rfl : output = some path := goes
  have once := values_output outputs
  refine ⟨once, fun other lacks => ?_⟩
  rw [graph?, single?_of_lacks lacks (by decide), formats, single?_of_lacks_once lacks once,
    operandOrNone?_of_lacks lacks, files]
  rfl

theorem prints_index? : Prints index? := by
  intro scan task path asks goes
  unfold index? at asks
  simp only [bind, Option.bind_eq_some_iff, pure, Option.some.injEq] at asks
  obtain ⟨output, outputs, directory, directories, asks⟩ := asks
  obtain ⟨directory, rfl, rfl⟩ := Option.map_eq_some_iff.mp asks
  obtain rfl : output = some path := goes
  have once := values_output outputs
  refine ⟨once, fun other lacks => ?_⟩
  rw [index?, single?_of_lacks_once lacks once, operandOrNone?_of_lacks lacks, directories]
  rfl

theorem prints_task? (command : CommandForm) : Prints (task? command) := by
  intro scan task path asks goes
  unfold task? at asks ⊢
  split at asks
  · exact prints_graph? scan task path asks goes
  · simp only [tree?, bind, Option.bind_eq_some_iff, pure, Option.some.injEq] at asks
    obtain ⟨_, _, _, _, _, _, rfl⟩ := asks
    cases goes
  · exact prints_index? scan task path asks goes
  · simp only [serve?, bind, Option.bind_eq_some_iff, pure] at asks
    obtain ⟨_, _, asks⟩ := asks
    split_ifs at asks
    cases asks
    cases goes
  · cases asks

/-- Every command that writes has one option for it. -/
theorem letter_output : ∀ command ∈ commandForms, ∀ form ∈ command.options,
    form.name = "output" → form.letter = 'o' := by
  decide

theorem mem_of_values (there : some value ∈ scan.values name) :
    (name, some value) ∈ scan.options := by
  obtain ⟨⟨given, _⟩, there, rfl⟩ := List.mem_map.mp there
  obtain ⟨there, same⟩ := List.mem_filter.mp there
  rwa [← beq_iff_eq.mp same]

/-- The words behind a command without the option for the output ask for the run that prints. -/
theorem command?_omits {outer : Option Path} {command : CommandForm} {invocation : Invocation}
    (known : command ∈ commandForms)
    (asks : command? outer command words = some (.invoke invocation))
    (goes : invocation.task.output? = some path) :
    ∃ less, Omits 'o' "output" path.text words less ∧
      command? outer command less = some (.invoke invocation.withoutOutput) := by
  unfold command? at asks
  simp only [bind, Option.bind_eq_some_iff] at asks
  obtain ⟨scan, scans, inner, config, task, tasks, asks⟩ := asks
  split at asks
  case h_1 => cases asks
  case h_2 quiet =>
    obtain ⟨task, rfl, same⟩ := Option.map_eq_some_iff.mp asks
    cases same
    obtain ⟨once, prints⟩ := prints_task? command scan task path tasks goes
    have found : ("output", some path.text) ∈ scan.options :=
      mem_of_values (once ▸ List.mem_singleton_self _)
    obtain ⟨less, other, omits, scansLess, lacks⟩ :=
      omits_of_mem (letter_output command known) words {} .ready nofun nofun scans found
    refine ⟨less, omits, ?_⟩
    have quietOther : other.notice = none := by
      obtain ⟨_, _, _, rfl⟩ := lacks
      exact quiet
    rw [command?, scan?, scansLess]
    simp only [bind, Option.bind_some]
    rw [single?_of_lacks lacks (by decide), config, prints other lacks, quietOther]
    rfl

/-- The words behind `help` ask for no run. -/
theorem help?_ne_invoke (words : List String) (invocation : Invocation) :
    help? words ≠ some (.invoke invocation) := by
  intro asks
  unfold help? at asks
  split at asks
  · cases asks
  · obtain ⟨_, _, asks⟩ := Option.map_eq_some_iff.mp asks
    cases asks
  · cases asks

/-- **The words of the run that prints:** if the words of a command line ask for a run with an
output, then the same words without the option for the output ask for the same run, which prints. -/
theorem ofWords?_omits {invocation : Invocation}
    (asks : Instruction.ofWords? words = some (.invoke invocation))
    (goes : invocation.task.output? = some path) :
    ∃ less, Omits 'o' "output" path.text words less ∧
      Instruction.ofWords? less = some (.invoke invocation.withoutOutput) := by
  unfold Instruction.ofWords? at asks
  simp only [bind, Option.bind_eq_some_iff] at asks
  obtain ⟨scan, scans, config, configs, asks⟩ := asks
  split at asks
  case h_1 => cases asks
  case h_2 => exact absurd asks (help?_ne_invoke _ invocation)
  case h_3 name words noHelp operands quiet command =>
    simp only [Option.bind_eq_some_iff] at asks
    obtain ⟨form, found, asks⟩ := asks
    obtain ⟨less, omits, asksLess⟩ := command?_omits (List.mem_of_find?_eq_some found) asks goes
    obtain ⟨front, rfl, same⟩ := scanFrom?_command _ {} .ready rfl scans command
    refine ⟨front ++ name :: less, (omits.behind name).append front, ?_⟩
    unfold Instruction.ofWords?
    rw [scan?, same less]
    have kept : single? { scan with command := some (name, less) } "config" path? = some config :=
      configs
    simp only [bind, Option.bind_some]
    rw [kept, operands, quiet]
    simp only [Option.bind_some]
    rw [found]
    exact asksLess
  case h_4 => cases asks

end DeclGraph.CommandLine
