/-
**How a command line is scanned.**

A scan goes through the words one by one, and what one word does depends on the stage only. The
options that have been found stay in front of those that follow, and the words behind a command are
not looked at.

* `step?`, **`scanFrom?_cons`**: what one word does;
* `bare_cases`, `long?_cases`, `short?_cons_cases`: what an option does;
* **`scanFrom?_behind`**: options in front change nothing else;
* **`scanFrom?_command`**: the words behind a command;
* `eq_of_kindOf_short`, `eq_of_kindOf_long`: the words of options.
-/

import DeclGraph.CommandLine.Options
import Mathlib.Data.List.TakeDrop

namespace DeclGraph.CommandLine

variable {forms : List OptionForm} {isCommand : String → Bool} {scan next last : Scan}
  {stage follow : Stage} {name word : String} {letters : List Char} {words back : List String}

/-! ### One word -/

/-- What a word that is no command does at a stage. -/
def step? (forms : List OptionForm) (scan : Scan) : Stage → String → Option (Scan × Stage)
  | .noticed, _ => some (scan, .noticed)
  | .operands, word => some (scan.withOperand word, .operands)
  | .waiting name, word =>
    match kindOf word with
    | .plain => some (scan.withOption name (some word), .ready)
    | _ => none
  | .ready, word =>
    match kindOf word with
    | .separator => some (scan, .operands)
    | .plain => some (scan.withOperand word, .ready)
    | .long name value => long? forms scan name value
    | .short letters => short? forms scan letters

/-- **The scan goes word by word**, up to a command. -/
theorem scanFrom?_cons (noCommand : stage = .ready → isCommand word = false) :
    scanFrom? forms isCommand scan stage (word :: words) =
      (step? forms scan stage word).bind fun next =>
        scanFrom? forms isCommand next.1 next.2 words := by
  cases stage with
  | noticed => rw [step?, Option.bind_some, scanFrom?, scanFrom?]
  | operands => rw [step?, Option.bind_some, scanFrom?]
  | waiting name =>
    rw [step?, scanFrom?]
    cases kindOf word <;> rfl
  | ready =>
    rw [step?, scanFrom?, noCommand rfl, if_neg Bool.false_ne_true]
    cases kindOf word with
    | separator | plain => rfl
    | long name value =>
      dsimp only
      cases long? forms scan name value <;> rfl
    | short letters =>
      dsimp only
      cases short? forms scan letters <;> rfl

/-! ### What an option does -/

/-- An option without an attached value stands for a notice, waits for its value or takes none. -/
theorem bare_cases {form : OptionForm} (gives : bare scan form = (next, follow)) :
    follow = .noticed ∧ (∃ notice, next = { scan with notice := notice }) ∨
      form.value.isSome ∧ follow = .waiting form.name ∧ next = scan ∨
        ¬form.value.isSome ∧ follow = .ready ∧ next = scan.withOption form.name none := by
  unfold bare at gives
  cases notices : form.notice with
  | some notice =>
    rw [notices] at gives
    cases gives
    exact Or.inl ⟨rfl, _, rfl⟩
  | none =>
    rw [notices] at gives
    dsimp only at gives
    split_ifs at gives with takes <;> cases gives
    · exact Or.inr (Or.inl ⟨takes, rfl, rfl⟩)
    · exact Or.inr (Or.inr ⟨takes, rfl, rfl⟩)

/-- What a long option does: it stands for a notice, waits for its value, or is given with or
without one. -/
theorem long?_cases {attached : Option String}
    (scans : long? forms scan name attached = some (next, follow)) :
    follow = .noticed ∧ (∃ notice, next = { scan with notice := notice }) ∨
      attached = none ∧ follow = .waiting name ∧ next = scan ∨
        follow = .ready ∧ next = scan.withOption name attached := by
  unfold long? at scans
  cases found : forms.find? fun form => form.name == name with
  | none =>
    rw [found] at scans
    cases scans
  | some form =>
    obtain rfl : form.name = name := by simpa using List.find?_some found
    rw [found] at scans
    cases attached with
    | none =>
      rcases bare_cases (Option.some.inj scans) with noticed | ⟨_, waits⟩ | ⟨_, given⟩
      · exact Or.inl noticed
      · exact Or.inr (Or.inl ⟨rfl, waits⟩)
      · exact Or.inr (Or.inr given)
    | some value =>
      dsimp only at scans
      split_ifs at scans
      cases scans
      exact Or.inr (Or.inr ⟨rfl, rfl⟩)

/-- What the first letter behind a dash does: it stands for a notice, waits for its value, has the
other letters for its value, or takes no value and the others follow. -/
theorem short?_cons_cases {first : Char} {rest : List Char}
    (scans : short? forms scan (first :: rest) = some (next, follow)) :
    ∃ form ∈ forms, form.letter = first ∧
      (follow = .noticed ∧ (∃ notice, next = { scan with notice := notice }) ∨
        rest = [] ∧ follow = .waiting form.name ∧ next = scan ∨
        (∃ value : String, (rest = value.toList ∨ rest = '=' :: value.toList) ∧ follow = .ready ∧
          next = scan.withOption form.name (some value)) ∨
        short? forms (scan.withOption form.name none) rest = some (next, follow) ∧
          ∀ others, short? forms scan (first :: others) =
            short? forms (scan.withOption form.name none) others) := by
  unfold short? at scans
  cases found : forms.find? fun form => form.letter == first with
  | none =>
    rw [found] at scans
    cases scans
  | some form =>
    rw [found] at scans
    dsimp only at scans
    have known : form.letter = first := by simpa using List.find?_some found
    refine ⟨form, List.mem_of_find?_eq_some found, known, ?_⟩
    by_cases takes : form.value.isSome
    · rw [if_pos takes] at scans
      split at scans
      case h_1 =>
        rcases bare_cases (Option.some.inj scans) with noticed | ⟨_, waits⟩ | ⟨takesNone, _⟩
        · exact Or.inl noticed
        · exact Or.inr (Or.inl ⟨rfl, waits⟩)
        · exact absurd takes takesNone
      case h_2 value =>
        cases scans
        refine Or.inr (Or.inr (Or.inl ⟨String.ofList value, Or.inr ?_, rfl, rfl⟩))
        rw [String.toList_ofList]
      case h_3 =>
        cases scans
        refine Or.inr (Or.inr (Or.inl ⟨String.ofList rest, Or.inl ?_, rfl, rfl⟩))
        rw [String.toList_ofList]
    · rw [if_neg takes] at scans
      cases gives : bare scan form with
      | mk between stage =>
        rw [gives] at scans
        rcases bare_cases gives with ⟨rfl, same⟩ | ⟨takesOne, _⟩ | ⟨_, rfl, rfl⟩
        · cases scans
          exact Or.inl ⟨rfl, same⟩
        · exact absurd takesOne takes
        · refine Or.inr (Or.inr (Or.inr ⟨scans, fun others => ?_⟩))
          rw [short?, found]
          dsimp only
          rw [if_neg takes, gives]

/-! ### The words behind a command -/

theorem command_short? (letters : List Char) (scan : Scan)
    (scans : short? forms scan letters = some (next, follow)) : next.command = scan.command := by
  induction letters generalizing scan with
  | nil =>
    cases scans
    rfl
  | cons first rest ih =>
    obtain ⟨form, _, _, ⟨_, notice, rfl⟩ | ⟨_, _, rfl⟩ | ⟨value, _, _, rfl⟩ | ⟨scans, _⟩⟩ :=
      short?_cons_cases scans
    · rfl
    · rfl
    · rfl
    · exact (ih _ scans).trans rfl

/-- A word that is no command leaves the command as it is. -/
theorem command_step? (steps : step? forms scan stage word = some (next, follow)) :
    next.command = scan.command := by
  cases stage with
  | noticed | operands =>
    cases steps
    rfl
  | waiting name =>
    rw [step?] at steps
    split at steps <;> cases steps
    rfl
  | ready =>
    rw [step?] at steps
    split at steps
    · cases steps
      rfl
    · cases steps
      rfl
    · rcases long?_cases steps with ⟨_, notice, rfl⟩ | ⟨_, _, rfl⟩ | ⟨_, rfl⟩ <;> rfl
    · exact command_short? _ scan steps

/-- **The words behind a command** are not looked at: others may stand there. -/
theorem scanFrom?_command (words : List String) (scan : Scan) (stage : Stage)
    (none_ : scan.command = none)
    (scans : scanFrom? forms isCommand scan stage words = some last)
    (found : last.command = some (name, back)) :
    ∃ front, words = front ++ name :: back ∧
      ∀ other, scanFrom? forms isCommand scan stage (front ++ name :: other) =
        some { last with command := some (name, other) } := by
  induction words generalizing scan stage with
  | nil =>
    cases stage <;> cases scans <;> rw [none_] at found <;> cases found
  | cons word words ih =>
    by_cases command : stage = .ready ∧ isCommand word
    · obtain ⟨rfl, command⟩ := command
      rw [scanFrom?, if_pos command] at scans
      cases scans
      cases found
      refine ⟨[], rfl, fun other => ?_⟩
      rw [List.nil_append, scanFrom?, if_pos command]
    · have noCommand : stage = .ready → isCommand word = false := fun ready =>
        Bool.eq_false_iff.mpr fun is => command ⟨ready, is⟩
      rw [scanFrom?_cons noCommand, Option.bind_eq_some_iff] at scans
      obtain ⟨⟨next, follow⟩, steps, scans⟩ := scans
      obtain ⟨front, rfl, same⟩ := ih next follow ((command_step? steps).trans none_) scans
      refine ⟨word :: front, rfl, fun other => ?_⟩
      rw [List.cons_append, scanFrom?_cons noCommand, steps]
      exact same other

/-! ### Options in front -/

/-- The same scan behind other options. -/
def Scan.behind (before : List (String × Option String)) (scan : Scan) : Scan :=
  { scan with options := before ++ scan.options }

theorem withOption_behind (before : List (String × Option String)) (scan : Scan) (name : String)
    (value : Option String) :
    (scan.behind before).withOption name value = (scan.withOption name value).behind before := by
  simp only [Scan.withOption, Scan.behind, List.append_assoc]

theorem bare_behind (before : List (String × Option String)) (scan : Scan) (form : OptionForm) :
    bare (scan.behind before) form = (bare scan form).map (Scan.behind before) id := by
  unfold bare
  cases form.notice with
  | some notice => rfl
  | none =>
    dsimp only
    split_ifs
    · rfl
    · rw [withOption_behind]
      rfl

theorem long?_behind (before : List (String × Option String)) (scan : Scan) (name : String)
    (value : Option String) :
    long? forms (scan.behind before) name value =
      (long? forms scan name value).map (Prod.map (Scan.behind before) id) := by
  unfold long?
  cases forms.find? fun form => form.name == name with
  | none => rfl
  | some form =>
    cases value with
    | none =>
      dsimp only
      rw [bare_behind, Option.map_some]
    | some value =>
      dsimp only
      split_ifs
      · rw [withOption_behind]
        rfl
      · rfl

theorem short?_behind (before : List (String × Option String)) (letters : List Char) (scan : Scan) :
    short? forms (scan.behind before) letters =
      (short? forms scan letters).map (Prod.map (Scan.behind before) id) := by
  induction letters generalizing scan with
  | nil => rfl
  | cons letter rest ih =>
    unfold short?
    cases forms.find? fun form => form.letter == letter with
    | none => rfl
    | some form =>
      dsimp only
      split_ifs
      · split
        · rw [bare_behind, Option.map_some]
        · rw [withOption_behind]
          rfl
        · rw [withOption_behind]
          rfl
      · rw [bare_behind]
        rcases bare scan form with ⟨next, follow⟩
        cases follow with
        | noticed => rfl
        | ready | waiting _ | operands => exact ih next

theorem step?_behind (before : List (String × Option String)) (scan : Scan) (stage : Stage)
    (word : String) :
    step? forms (scan.behind before) stage word =
      (step? forms scan stage word).map (Prod.map (Scan.behind before) id) := by
  cases stage with
  | noticed | operands => rfl
  | waiting name =>
    rw [step?, step?, withOption_behind]
    cases kindOf word <;> rfl
  | ready =>
    rw [step?, step?]
    cases kindOf word with
    | separator | plain => rfl
    | long name value => exact long?_behind before scan name value
    | short letters => exact short?_behind before letters scan

/-- **Options in front change nothing else.** -/
theorem scanFrom?_behind (before : List (String × Option String)) (words : List String)
    (scan : Scan) (stage : Stage) :
    scanFrom? forms (fun _ => false) (scan.behind before) stage words =
      (scanFrom? forms (fun _ => false) scan stage words).map (Scan.behind before) := by
  induction words generalizing scan stage with
  | nil => cases stage <;> rfl
  | cons word words ih =>
    rw [scanFrom?_cons fun _ => rfl, scanFrom?_cons fun _ => rfl, step?_behind]
    cases step? forms scan stage word with
    | none => rfl
    | some next => exact ih next.1 next.2

/-! ### Kinds of words -/

theorem eq_of_kindOf_short (kind : kindOf word = .short letters) :
    word = String.ofList ('-' :: letters) ∧ ∃ c rest, letters = c :: rest ∧ c ≠ '-' := by
  unfold kindOf at kind
  split at kind
  case h_1 => cases kind
  case h_2 => split at kind <;> cases kind
  case h_3 c rest noSeparator noLong chars =>
    cases kind
    refine ⟨by rw [← chars, String.ofList_toList], c, rest, rfl, ?_⟩
    rintro rfl
    exact noLong rfl
  case h_4 => cases kind

theorem kindOf_dashed {c : Char} {rest : List Char} (noLong : c ≠ '-') :
    kindOf (String.ofList ('-' :: c :: rest)) = .short (c :: rest) := by
  unfold kindOf
  rw [String.toList_ofList]
  split
  all_goals simp_all

/-- The word of a long option. -/
def longWord (name : String) : Option String → String
  | none => "--" ++ name
  | some value => "--" ++ name ++ "=" ++ value

theorem eq_of_kindOf_long {attached : Option String} (kind : kindOf word = .long name attached) :
    word = longWord name attached := by
  unfold kindOf at kind
  split at kind
  case h_1 => cases kind
  case h_2 rest _ chars =>
    rw [List.span_eq_takeWhile_dropWhile] at kind
    have whole := List.takeWhile_append_dropWhile (p := (· != '=')) (l := rest)
    apply String.toList_inj.mp
    rw [chars, ← whole]
    cases behind : rest.dropWhile (· != '=') with
    | nil =>
      rw [behind] at kind
      cases kind
      simp [longWord]
    | cons sign value =>
      have stops := List.head?_dropWhile_not (· != '=') rest
      rw [behind] at kind stops
      cases kind
      simp_all [longWord]
  case h_3 => cases kind
  case h_4 => cases kind

end DeclGraph.CommandLine
