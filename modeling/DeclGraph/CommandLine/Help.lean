/-
**What the program tells about itself.**

The commands with their operands and options, and the pages that describe them. A page has the
purpose, the usage and tables of two columns, of which the first is as wide as its widest cell.

* `Page.ofProgram`, `Page.ofCommand`: the page of the program and of one of its commands;
* `Page.text`: a page in words.
-/

import DeclGraph.CommandLine.Options

namespace DeclGraph.CommandLine

/-! ### Commands -/

/-- An operand: how it is called, and whether it may be left out. -/
structure OperandForm where
  name : String
  optional : Bool := false
  deriving DecidableEq, Repr, Inhabited

/-- A command. -/
structure CommandForm where
  name : String
  about : String
  operand : Option OperandForm := none
  options : List OptionForm := []
  deriving DecidableEq, Repr, Inhabited

/-- The option that names a configuration file. -/
def configForm : OptionForm := ⟨'c', "config", some "CONFIG", false, "TOML configuration file", none⟩

/-- The option for more messages. -/
def verboseForm : OptionForm :=
  ⟨'v', "verbose", none, true, "Increase log verbosity (-v info, -vv debug, -vvv trace)", none⟩

/-- The option for a page of help. -/
def helpForm : OptionForm := ⟨'h', "help", none, false, "Print help", some .help⟩

/-- The option for the version. -/
def versionForm : OptionForm := ⟨'V', "version", none, false, "Print version", some .version⟩

/-- The option that names a file to be written. -/
def outputForm (about : String) : OptionForm :=
  ⟨'o', "output", some "OUTPUT", false, about, none⟩

/-- The command for the graph of a file. -/
def graphForm : CommandForm where
  name := "graph"
  about := "Extract the declaration graph of one source file"
  operand := some ⟨"FILE", false⟩
  options := [configForm,
    ⟨'f', "format", some "FORMAT", false, "[default: json] [possible values: json, dot]", none⟩,
    outputForm "Write to a file instead of stdout", verboseForm, helpForm]

/-- The command for the tree of a directory. -/
def treeForm : CommandForm where
  name := "tree"
  about := "List a directory as a source tree"
  operand := some ⟨"DIR", true⟩
  options := [configForm, ⟨'l', "lang", some "LANG", false, "", none⟩,
    ⟨'p', "project", some "PROJECT", false, "List the root of this project instead of DIR", none⟩,
    verboseForm, helpForm]

/-- The command for the index of a directory. -/
def indexForm : CommandForm where
  name := "index"
  about := "Extract every supported file under a directory"
  operand := some ⟨"DIR", false⟩
  options := [configForm, outputForm "", verboseForm, helpForm]

/-- The command for the server. -/
def serveForm : CommandForm where
  name := "serve"
  about := "Run the line-delimited JSON server"
  options := [configForm, ⟨'p', "port", some "PORT", false, "", none⟩, verboseForm, helpForm]

/-- All commands. -/
def commandForms : List CommandForm := [graphForm, treeForm, indexForm, serveForm]

/-- The options in front of a command. -/
def programOptions : List OptionForm := [configForm, verboseForm, helpForm, versionForm]

/-! ### Pages -/

/-- A table with a heading. -/
structure Table where
  heading : String
  rows : List (String × String)
  deriving DecidableEq, Repr, Inhabited

/-- A page of help. -/
structure Page where
  about : String
  usage : String
  tables : List Table
  deriving DecidableEq, Repr, Inhabited

namespace Table

/-- The width of the first column. -/
def width (table : Table) : Nat := (table.rows.map fun row => row.1.length).foldl max 0

/-- A row of a table; the second column starts behind the first one. -/
def line (width : Nat) (row : String × String) : String :=
  let gap := List.replicate (width + 2 - row.1.length) ' '
  "  " ++ row.1 ++ String.ofList gap ++ row.2 ++ "\n"

/-- A table in words; nothing if it has no rows. -/
def text (table : Table) : String :=
  if table.rows.isEmpty then ""
  else "\n" ++ table.heading ++ ":\n" ++ String.join (table.rows.map (line table.width))

end Table

/-- An operand as it stands in a usage. -/
def OperandForm.text (operand : OperandForm) : String :=
  if operand.optional then "[" ++ operand.name ++ "]" else "<" ++ operand.name ++ ">"

/-- The row of an option. -/
def OptionForm.row (form : OptionForm) : String × String :=
  let value := match form.value with
    | some value => " <" ++ value ++ ">"
    | none => if form.repeats then "..." else ""
  ("-" ++ String.ofList [form.letter] ++ ", --" ++ form.name ++ value, form.about)

namespace Page

/-- A page in words. -/
def text (page : Page) : String :=
  page.about ++ "\n\nUsage: " ++ page.usage ++ "\n" ++ String.join (page.tables.map Table.text)

/-- The page of a command. -/
def ofCommand (form : CommandForm) : Page where
  about := form.about
  usage := " ".intercalate
    (["codegraph", form.name, "[OPTIONS]"] ++ form.operand.toList.map OperandForm.text)
  tables := [⟨"Arguments", form.operand.toList.map fun operand => (operand.text, "")⟩,
    ⟨"Options", form.options.map OptionForm.row⟩]

/-- The row of the command that prints pages. -/
def helpRow : String × String :=
  ("help", "Print this message or the help of the given subcommand(s)")

/-- The page of the program. -/
def ofProgram : Page where
  about := "Codegraph - source-file structure and call graphs (classes, methods, functions, " ++
    "imports) for interactive visualization."
  usage := "codegraph [OPTIONS] <COMMAND>"
  tables := [⟨"Commands", commandForms.map (fun form => (form.name, form.about)) ++ [helpRow]⟩,
    ⟨"Options", programOptions.map OptionForm.row⟩]

end Page

/-- The version. -/
def versionText : String := "codegraph 0.1.0\n"

end DeclGraph.CommandLine
