/-
**All or nothing.**

A run does its work in steps: the configuration, the task, and at last the text, which is printed or
written. Only the last step prints or writes, and it does so when all others have succeeded. So a
run that fails leaves nothing behind, and a run that writes to a file puts there what it would have
printed without the option for the output.

* `prepare`, **`prepare_eq`**: all steps but the last, which do not depend on the output;
* `deliver`, **`runInvocation_cases`**: what the last step does, and what a run comes to;
* **`run_all_or_nothing`**: what a run leaves behind.
-/

import DeclGraph.CommandLine.Run
import DeclGraph.Proofs.CommandLine.Omission
import DeclGraph.Proofs.FileSystem.Writing
import DeclGraph.Proofs.Project.Confinement

namespace DeclGraph.CommandLine

open FileSystem

variable {launcher : Launcher} {files : FileSystem} {path : Path} {text note : String}

/-! ### All steps but the last -/

/-- What an invocation comes to before it is printed or written. -/
def prepare (launcher : Launcher) (files : FileSystem) (invocation : Invocation) :
    Except Failure Product := do
  let config ← configOf launcher.wording files invocation
  produce (Service.ofConfig launcher config) files invocation.task

theorem perform_eq (launcher : Launcher) (files : FileSystem) (invocation : Invocation) :
    perform launcher files invocation = prepare launcher files invocation >>= emit files := by
  unfold perform prepare
  rw [bind_assoc]

theorem output?_withoutOutput (task : Task) : task.withoutOutput.output? = none := by
  cases task <;> rfl

/-- A task comes to the same text and the same note without its output. -/
theorem produce_eq (service : Service) (files : FileSystem) (task : Task) :
    produce service files task = (produce service files task.withoutOutput).map fun product =>
      { product with output := task.output? } := by
  cases task with
  | graph file format output =>
    rw [Task.withoutOutput, produce, produce]
    cases service.graph files file <;> rfl
  | tree directory language project =>
    rw [Task.withoutOutput, produce]
    cases entries service files directory language project <;> rfl
  | index directory output =>
    rw [Task.withoutOutput, produce, produce]
    cases service.index files directory <;> rfl
  | serve port => rfl

/-- **What a run comes to does not depend on its output.** -/
theorem prepare_eq (launcher : Launcher) (files : FileSystem) (invocation : Invocation) :
    prepare launcher files invocation =
      (prepare launcher files invocation.withoutOutput).map fun product =>
        { product with output := invocation.task.output? } := by
  have same : configOf launcher.wording files invocation.withoutOutput =
      configOf launcher.wording files invocation := rfl
  unfold prepare
  rw [same]
  cases configOf launcher.wording files invocation with
  | error failure => rfl
  | ok config => exact produce_eq _ files invocation.task

/-- What a run comes to goes to its output. -/
theorem output_of_prepare {invocation : Invocation} {product : Product}
    (prepares : prepare launcher files invocation = .ok product) :
    product.output = invocation.task.output? := by
  rw [prepare_eq] at prepares
  cases bare : prepare launcher files invocation.withoutOutput with
  | error failure =>
    rw [bare] at prepares
    cases prepares
  | ok product =>
    rw [bare] at prepares
    cases prepares
    rfl

/-! ### The last step -/

/-- The report of a run that has come to a text: it is printed, or written if it can be. -/
def deliver (files : FileSystem) (output : Option Path) (text note : String) : Report :=
  match output with
  | none => ⟨0, text ++ "\n", note, files⟩
  | some path =>
    match files.write path (Text.Utf8.encode text) with
    | .ok after => ⟨0, if files.shows path then text else "", note, after⟩
    | .error fault =>
      ⟨1, "", (Failure.within ("Cannot write " ++ path.text) (.io fault.message)).report, files⟩

/-- A run that comes to nothing fails. -/
theorem runInvocation_of_error {invocation : Invocation} {failure : Failure}
    (fails : prepare launcher files invocation = .error failure) :
    runInvocation launcher files invocation = ⟨1, "", failure.report, files⟩ := by
  rw [runInvocation, perform_eq, fails]
  rfl

/-- A run that has come to a text delivers it. -/
theorem runInvocation_of_ok {invocation : Invocation} {product : Product}
    (prepares : prepare launcher files invocation = .ok product) :
    runInvocation launcher files invocation =
      deliver files invocation.task.output? product.text product.note := by
  rw [runInvocation, perform_eq, prepares, ← output_of_prepare prepares]
  dsimp only [bind, Except.bind]
  unfold emit deliver
  cases product.output with
  | none => rfl
  | some path =>
    dsimp only
    cases files.write path (Text.Utf8.encode product.text) <;> rfl

/-- **What a run comes to:** it fails as the run without its output fails, or it delivers the text
that this run prints. -/
theorem runInvocation_cases (launcher : Launcher) (files : FileSystem) (invocation : Invocation) :
    (∃ told, runInvocation launcher files invocation.withoutOutput = ⟨1, "", told, files⟩ ∧
      runInvocation launcher files invocation = ⟨1, "", told, files⟩) ∨
    ∃ text note,
      runInvocation launcher files invocation.withoutOutput = ⟨0, text ++ "\n", note, files⟩ ∧
        runInvocation launcher files invocation =
          deliver files invocation.task.output? text note := by
  have same := prepare_eq launcher files invocation
  cases bare : prepare launcher files invocation.withoutOutput with
  | error failure =>
    rw [bare] at same
    exact Or.inl ⟨failure.report, runInvocation_of_error bare, runInvocation_of_error same⟩
  | ok product =>
    rw [bare] at same
    dsimp only [Except.map] at same
    have prints := runInvocation_of_ok bare
    rw [show invocation.withoutOutput.task.output? = none from output?_withoutOutput _] at prints
    have delivers := runInvocation_of_ok same
    exact Or.inr ⟨product.text, product.note, prints, delivers⟩

/-- What is delivered to a path is written, or nothing is done at all. -/
theorem deliver_cases (files : FileSystem) (path : Path) (text note : String) :
    (∃ after, files.write path (Text.Utf8.encode text) = .ok after ∧
      deliver files (some path) text note =
        ⟨0, if files.shows path then text else "", note, after⟩) ∨
    ∃ told, deliver files (some path) text note = ⟨1, "", told, files⟩ := by
  unfold deliver
  dsimp only
  cases files.write path (Text.Utf8.encode text) with
  | error fault => exact Or.inr ⟨_, rfl⟩
  | ok after => exact Or.inl ⟨after, rfl, rfl⟩

/-! ### What a run leaves behind -/

/-- A run that fails leaves nothing behind. -/
theorem runInvocation_of_fails {invocation : Invocation}
    (fails : (runInvocation launcher files invocation).status = 1) :
    (runInvocation launcher files invocation).printed = "" ∧
      (runInvocation launcher files invocation).files = files := by
  rcases runInvocation_cases launcher files invocation with ⟨told, _, same⟩ | ⟨text, note, _, same⟩
  · rw [same]
    exact ⟨rfl, rfl⟩
  · rw [same] at fails ⊢
    cases goes : invocation.task.output? with
    | none =>
      rw [goes] at fails
      cases fails
    | some path =>
      rcases deliver_cases files path text note with ⟨after, _, delivers⟩ | ⟨told, delivers⟩
      · rw [goes, delivers] at fails
        cases fails
      · rw [delivers]
        exact ⟨rfl, rfl⟩

/-- A text has gone to a path: the file that the path leads to holds it, or a device has taken it,
which may show it. -/
inductive Delivered (files : FileSystem) (path : Path) (text : String) (report : Report) : Prop
  | written {location : Location} (quiet : report.printed = "")
      (wrote : Wrote files report.files path (Text.Utf8.encode text) location) :
      Delivered files path text report
  | taken {device : Device} (stands : files.itemAt? true path = some (.device device))
      (unchanged : report.files = files)
      (shown : report.printed = if device.shows then text else "") :
      Delivered files path text report

theorem delivered_of_write {after : FileSystem}
    (writes : files.write path (Text.Utf8.encode text) = .ok after) :
    Delivered files path text ⟨0, if files.shows path then text else "", note, after⟩ := by
  unfold shows
  rcases write_cases writes with ⟨⟨device, stands⟩, rfl⟩ | ⟨noDevice, location, wrote⟩
  · rw [stands]
    exact .taken stands rfl rfl
  · refine .written ?_ wrote
    dsimp only
    split
    · exact absurd ‹_› (noDevice _)
    · rfl

/-- A run that succeeds with an output has delivered what the run without it prints. -/
theorem runInvocation_of_succeeds {invocation : Invocation}
    (goes : invocation.task.output? = some path)
    (succeeds : (runInvocation launcher files invocation).status = 0) :
    ∃ text, runInvocation launcher files invocation.withoutOutput =
        ⟨0, text ++ "\n", (runInvocation launcher files invocation).told, files⟩ ∧
      Delivered files path text (runInvocation launcher files invocation) := by
  rcases runInvocation_cases launcher files invocation with
    ⟨told, _, same⟩ | ⟨text, note, prints, same⟩
  · rw [same] at succeeds
    cases succeeds
  · rw [goes] at same
    rcases deliver_cases files path text note with ⟨after, writes, delivers⟩ | ⟨told, delivers⟩
    · rw [same, delivers]
      exact ⟨text, prints, delivered_of_write writes⟩
    · rw [same, delivers] at succeeds
      cases succeeds

/-- A text that the run without the output prints is delivered, if it can be. -/
theorem runInvocation_of_writes {invocation : Invocation} {after : FileSystem}
    (goes : invocation.task.output? = some path)
    (prints : runInvocation launcher files invocation.withoutOutput =
      ⟨0, text ++ "\n", note, files⟩)
    (writes : files.write path (Text.Utf8.encode text) = .ok after) :
    runInvocation launcher files invocation =
      ⟨0, if files.shows path then text else "", note, after⟩ := by
  rcases runInvocation_cases launcher files invocation with
    ⟨told, fails, _⟩ | ⟨other, otherNote, otherPrints, same⟩
  · rw [prints] at fails
    cases fails
  · rw [prints, Report.mk.injEq, String.append_left_inj] at otherPrints
    obtain ⟨_, rfl, rfl, _⟩ := otherPrints
    rw [same, goes, deliver, writes]

theorem run_of_invoke {invocation : Invocation} {words : List String}
    (asks : Instruction.ofWords? words = some (.invoke invocation)) :
    run launcher files words = runInvocation launcher files invocation := by
  rw [run, asks]

/-- **All or nothing.** A run that fails prints nothing and changes no file, and words that ask for
help or for the version are answered by printing it. Of words that ask for a run with an output, the
option for the output can be left out, and the others ask for the same run without it. If the run
succeeds, then the one without the output prints a text and a line feed, and exactly that text is in
the file that the path leads to afterwards, no other file has changed and nothing is printed; or a
device stands there, and then no file has changed, and nothing is printed unless the device is where
the program prints. And the run does succeed if the one without the output does and its text can be
written. -/
theorem run_all_or_nothing (launcher : Launcher) (files : FileSystem) (words : List String) :
    ((run launcher files words).status = 1 →
      (run launcher files words).printed = "" ∧ (run launcher files words).files = files) ∧
    (∀ text, Instruction.ofWords? words = some (.tell text) →
      run launcher files words = ⟨0, text, "", files⟩) ∧
    ∀ invocation path, Instruction.ofWords? words = some (.invoke invocation) →
      invocation.task.output? = some path →
        (∃ less, Omits 'o' "output" path.text words less ∧
          Instruction.ofWords? less = some (.invoke invocation.withoutOutput)) ∧
        ∀ less, Instruction.ofWords? less = some (.invoke invocation.withoutOutput) →
          ((run launcher files words).status = 0 →
            ∃ text, run launcher files less =
                ⟨0, text ++ "\n", (run launcher files words).told, files⟩ ∧
              Delivered files path text (run launcher files words)) ∧
          ∀ text note after, run launcher files less = ⟨0, text ++ "\n", note, files⟩ →
            files.write path (Text.Utf8.encode text) = .ok after →
              run launcher files words =
                ⟨0, if files.shows path then text else "", note, after⟩ := by
  refine ⟨fun fails => ?_, fun text asks => ?_, fun invocation path asks goes => ?_⟩
  · unfold run at fails ⊢
    cases asks : Instruction.ofWords? words with
    | none =>
      rw [asks] at fails
      cases fails
    | some instruction =>
      rw [asks] at fails
      cases instruction with
      | tell text => cases fails
      | invoke invocation => exact runInvocation_of_fails fails
  · rw [run, asks]
  · refine ⟨ofWords?_omits asks goes, fun less asksLess => ?_⟩
    rw [run_of_invoke asks, run_of_invoke asksLess]
    exact ⟨runInvocation_of_succeeds goes, fun _ _ _ => runInvocation_of_writes goes⟩

/-- A source file without declarations, a device that takes everything and one that shows it, and a
link to each of them. -/
def emptySource : FileSystem where
  items := [
    (["a.py"], .file [] false),
    (["dev"], .directory false),
    (["dev", "null"], .device {}),
    (["dev", "stdout"], .device { shows := true }),
    (["lost.json"], .link "/dev/null"),
    (["seen.json"], .link "/dev/stdout")]

/-- The graph of the file is written to a new file as it would be printed. -/
theorem graph_written_as_printed :
    (run Service.printing emptySource ["graph", "a.py", "--output", "out.json"]).printed = "" ∧
      ∃ text location,
        run Service.printing emptySource ["graph", "a.py"] =
            ⟨0, text ++ "\n", "", emptySource⟩ ∧
          Wrote emptySource
            (run Service.printing emptySource ["graph", "a.py", "--output", "out.json"]).files
            ⟨"out.json"⟩ (Text.Utf8.encode text) location := by
  have asks : Instruction.ofWords? ["graph", "a.py", "--output", "out.json"] =
      some (.invoke ⟨none, .graph ⟨"a.py"⟩ .json (some ⟨"out.json"⟩)⟩) := by decide +kernel
  have asksLess : Instruction.ofWords? ["graph", "a.py"] =
      some (.invoke ⟨none, .graph ⟨"a.py"⟩ .json none⟩) := by decide +kernel
  obtain ⟨succeeds, quiet⟩ :
      (run Service.printing emptySource ["graph", "a.py", "--output", "out.json"]).status = 0 ∧
        (run Service.printing emptySource ["graph", "a.py", "--output", "out.json"]).told = "" := by
    decide +kernel
  have noItem : emptySource.itemAt? true ⟨"out.json"⟩ = none := by decide +kernel
  obtain ⟨text, prints, delivered⟩ :=
    (((run_all_or_nothing Service.printing emptySource _).2.2 _ _ asks rfl).2 _ asksLess).1 succeeds
  cases delivered with
  | taken stands unchanged shown =>
    rw [noItem] at stands
    cases stands
  | written silent wrote =>
    rw [quiet] at prints
    exact ⟨silent, text, _, prints, wrote⟩

/-- **What is written to a device is in no file:** the run succeeds, but the path does not hold the
text that the same run without the output prints, or the run prints that text itself. And a command
line with an output that asks for help is answered by a page of help, and nothing is written. -/
theorem graph_lost_in_device :
    ((run Service.printing emptySource ["graph", "a.py", "--output", "lost.json"]).status = 0 ∧
      (run Service.printing emptySource ["graph", "a.py", "--output", "lost.json"]).files.read
        ⟨"lost.json"⟩ = .ok [] ∧
      (run Service.printing emptySource ["graph", "a.py"]).status = 0 ∧
      (run Service.printing emptySource ["graph", "a.py"]).printed ≠ "\n") ∧
    ((run Service.printing emptySource ["graph", "a.py", "--output", "seen.json"]).status = 0 ∧
      (run Service.printing emptySource ["graph", "a.py", "--output", "seen.json"]).printed ≠ "") ∧
    (run Service.printing emptySource ["graph", "a.py", "-o", "out.json", "--help"]).status = 0 ∧
      (run Service.printing emptySource ["graph", "a.py", "-o", "out.json", "--help"]).printed ≠ "" ∧
      (run Service.printing emptySource ["graph", "a.py", "-o", "out.json", "--help"]).files.read
        ⟨"out.json"⟩ = .error .missing := by
  decide +kernel

end DeclGraph.CommandLine
