/-
**Small programs.**

The programs that scripts call most. Each is a function from its arguments to what it writes.

* `Tools.echo`, `Tools.printf`: writing texts;
* `Tools.test?`: comparing texts and numbers and asking for files;
* `Tools.seconds?`: the time that `sleep` is given.
-/

import DeclGraph.Machine.FileSystem
import DeclGraph.Text.Utf8

namespace DeclGraph.Shell.Tools

open Text.Utf8 (encode)

/-! ### Escapes -/

/-- The value of up to so many octal digits, and what follows. -/
def octal (read : Nat) : Nat → List Char → Nat × List Char
  | count + 1, c :: rest =>
    if '0' ≤ c && c ≤ '7' then octal (read * 8 + (c.toNat - 48)) count rest else (read, c :: rest)
  | _, rest => (read, rest)

/-- The bytes of a character. -/
def bytesOf (c : Char) : List UInt8 := encode (String.ofList [c])

/-- What an escape of one letter stands for. -/
def letter? : Char → Option UInt8
  | '\\' => some 92
  | 'a' => some 7
  | 'b' => some 8
  | 'f' => some 12
  | 'n' => some 10
  | 'r' => some 13
  | 't' => some 9
  | 'v' => some 11
  | _ => none

/-- The bytes of an escape behind its backslash, and what follows. -/
def escape (chars : List Char) : List UInt8 × List Char :=
  match chars with
  | [] => ([92], [])
  | c :: rest =>
    match letter? c with
    | some byte => ([byte], rest)
    | none =>
      if '0' ≤ c && c ≤ '7' then
        let (value, rest) := octal 0 3 (c :: rest)
        ([UInt8.ofNat value], rest)
      else (92 :: bytesOf c, rest)

/-- The bytes of a text with escapes, and whether a `\c` cut it off. An octal escape may have a zero
in front of its three digits. -/
def unescape (read : List UInt8) : Nat → List Char → List UInt8 × Bool
  | _ + 1, '\\' :: 'c' :: _ => (read.reverse, true)
  | steps + 1, '\\' :: '0' :: rest =>
    let (value, rest) := octal 0 3 rest
    unescape (UInt8.ofNat value :: read) steps rest
  | steps + 1, '\\' :: rest =>
    let (bytes, rest) := escape rest
    unescape (bytes.reverse ++ read) steps rest
  | steps + 1, c :: rest => unescape ((bytesOf c).reverse ++ read) steps rest
  | _, _ => (read.reverse, false)

/-! ### Writing -/

/-- What the command `echo` of a shell writes: its arguments with their escapes. -/
def echo (arguments : List String) : List UInt8 :=
  let (ending, arguments) :=
    match arguments with
    | "-n" :: arguments => ("", arguments)
    | arguments => ("\n", arguments)
  let text := " ".intercalate arguments
  let (bytes, cut) := unescape [] (text.length + 1) text.toList
  if cut then bytes else bytes ++ encode ending

/-- Whether an argument of the program `echo` is an option. -/
def isEchoOption (argument : String) : Bool :=
  match argument.toList with
  | '-' :: letters => !letters.isEmpty && letters.all fun c => c = 'n' || c = 'e' || c = 'E'
  | _ => false

/-- What the program `echo` writes: escapes are read only if an option asks for it. -/
def echoProgram (arguments : List String) : List UInt8 :=
  let options := (arguments.takeWhile isEchoOption).flatMap fun option => option.toList.drop 1
  let text := " ".intercalate (arguments.dropWhile isEchoOption)
  let ending := if options.contains 'n' then "" else "\n"
  if (options.reverse.find? fun c => c = 'e' || c = 'E') = some 'e' then
    let (bytes, cut) := unescape [] (text.length + 1) text.toList
    if cut then bytes else bytes ++ encode ending
  else encode (text ++ ending)

/-- A number with a sign. -/
def integer? (text : String) : Option Int :=
  match text.trimAscii.toString.toList with
  | '-' :: digits => (natural? digits).map fun n => -(n : Int)
  | '+' :: digits => (natural? digits).map fun n => (n : Int)
  | digits => (natural? digits).map fun n => (n : Int)
where
  /-- a number without a sign -/
  natural? (digits : List Char) : Option Nat :=
    if digits.isEmpty || !digits.all Char.isDigit then none
    else some (digits.foldl (fun value digit => value * 10 + (digit.toNat - 48)) 0)

/-- A place in a format: how wide it is, on which side it is filled and with what. -/
structure Field where
  left : Bool := false
  zero : Bool := false
  width : Nat := 0
  places : Option Nat := none

/-- Fills bytes up to the width of a field. -/
def Field.fill (field : Field) (bytes : List UInt8) : List UInt8 :=
  let gap := field.width - bytes.length
  if field.left then bytes ++ List.replicate gap 32
  else if field.zero then List.replicate gap 48 ++ bytes
  else List.replicate gap 32 ++ bytes

/-- The digits of a number in a base. -/
def inBase (base n : Nat) : String := String.ofList (Nat.toDigits base n)

/-- The bytes for an argument, its conversion and its field, and whether the argument fits. -/
def convert (field : Field) (conversion : Char) (argument : String) : List UInt8 × Bool :=
  let number := integer? argument
  let value := number.getD 0
  let fits := number.isSome || argument.isEmpty
  let natural := if value < 0 then (value + UInt64.size).toNat else value.toNat
  match conversion with
  | 's' =>
    let bytes := encode argument
    ({ field with zero := false }.fill (match field.places with
      | some count => bytes.take count
      | none => bytes), true)
  | 'b' =>
    let (bytes, _) := unescape [] (argument.length + 1) argument.toList
    ({ field with zero := false }.fill bytes, true)
  | 'c' => ({ field with zero := false }.fill ((encode argument).take 1), true)
  | 'd' | 'i' => (field.fill (encode (toString value)), fits)
  | 'u' => (field.fill (encode (toString natural)), fits)
  | 'x' => (field.fill (encode (inBase 16 natural)), fits)
  | 'X' => (field.fill (encode (inBase 16 natural).toUpper), fits)
  | 'o' => (field.fill (encode (inBase 8 natural)), fits)
  | c => (37 :: bytesOf c, false)

/-- The field of a conversion behind its percent sign, and what follows. -/
def fieldOf (chars : List Char) : Field × List Char :=
  let (flags, rest) := chars.span fun c => "-0+ #".toList.contains c
  let (width, rest) := rest.span Char.isDigit
  let (places, rest) :=
    match rest with
    | '.' :: rest =>
      let (digits, rest) := rest.span Char.isDigit
      (some ((String.ofList digits).toNat?.getD 0), rest)
    | rest => (none, rest)
  (⟨flags.contains '-', flags.contains '0', (String.ofList width).toNat?.getD 0, places⟩, rest)

/-- One pass through a format: the bytes in reverse, the arguments left and whether all fitted. -/
def formatOnce (read : List UInt8) (fits : Bool) :
    Nat → List Char → List String → List UInt8 × List String × Bool
  | steps + 1, '\\' :: rest, arguments =>
    let (bytes, rest) := match rest with
      | '"' :: rest => ([34], rest)
      | rest => escape rest
    formatOnce (bytes.reverse ++ read) fits steps rest arguments
  | steps + 1, '%' :: '%' :: rest, arguments => formatOnce (37 :: read) fits steps rest arguments
  | steps + 1, '%' :: rest, arguments =>
    match fieldOf rest with
    | (field, conversion :: rest) =>
      let (bytes, fit) := convert field conversion (arguments.headD "")
      formatOnce (bytes.reverse ++ read) (fits && fit) steps rest arguments.tail
    | (_, []) => (37 :: read, arguments, false)
  | steps + 1, c :: rest, arguments =>
    formatOnce ((bytesOf c).reverse ++ read) fits steps rest arguments
  | _, _, arguments => (read, arguments, fits)

/-- Passes through a format until the arguments are used up. -/
def formatAll (format : List Char) (read : List UInt8) (fits : Bool) :
    Nat → List String → List UInt8 × Bool
  | 0, _ => (read, fits)
  | steps + 1, arguments =>
    let (read, left, fits) := formatOnce read fits (format.length + 1) format arguments
    if left.isEmpty || left.length = arguments.length then (read, fits)
    else formatAll format read fits steps left

/-- What `printf` writes, and whether its arguments fit its format. -/
def printf : List String → List UInt8 × Bool
  | [] => ([], false)
  | format :: arguments =>
    let (read, fits) := formatAll format.toList [] true (arguments.length + 1) arguments
    (read.reverse, fits)

/-! ### Tests -/

/-- Whether a path leads to something with which a thing may be done. -/
def allows (files : FileSystem) (path : Path) (asked : Mode → Bool) : Bool :=
  match files.itemAt? true path with
  | some (.regular _ mode) | some (.folder mode) => asked mode
  | some (.device device) => asked ⟨device.unread.isNone, device.refuses.isNone, false⟩
  | _ => false

/-- What is asked of one text. -/
def unary? (files : FileSystem) (question text : String) : Option Bool :=
  let path : Path := ⟨text⟩
  match question with
  | "-n" => some (!text.isEmpty)
  | "-z" => some text.isEmpty
  | "-e" => some (files.exists? path)
  | "-f" => some (files.isFile path)
  | "-d" => some (files.isDirectory path)
  | "-h" | "-L" => some (files.isLink path)
  | "-r" => some (allows files path fun mode => mode.readable)
  | "-w" => some (allows files path fun mode => mode.writable)
  | "-x" => some (allows files path fun mode => mode.executable)
  | "-s" => some (match files.itemAt? true path with
      | some (.regular bytes _) => !bytes.isEmpty
      | some (.folder _) => true
      | _ => false)
  | _ => none

/-- How two texts compare. -/
def binary? (first operator second : String) : Option Bool :=
  let numbers (test : Int → Int → Bool) : Option Bool :=
    match integer? first, integer? second with
    | some first, some second => some (test first second)
    | _, _ => none
  match operator with
  | "=" | "==" => some (first == second)
  | "!=" => some (first != second)
  | "-eq" => numbers fun a b => a == b
  | "-ne" => numbers fun a b => a != b
  | "-lt" => numbers fun a b => a < b
  | "-le" => numbers fun a b => a ≤ b
  | "-gt" => numbers fun a b => a > b
  | "-ge" => numbers fun a b => a ≥ b
  | _ => none

/-- A single test; `none` if it is not one. -/
def single? (files : FileSystem) : List String → Option Bool
  | [] => some false
  | [text] => some (!text.isEmpty)
  | ["!", text] => some text.isEmpty
  | [question, text] => unary? files question text
  | [first, operator, second] =>
    match binary? first operator second with
    | some result => some result
    | none => if first = "!" then (unary? files operator second).map (!·) else none
  | ["!", first, operator, second] => (binary? first operator second).map (!·)
  | _ => none

/-- The parts of a list between the elements that are equal to a separator. -/
def splitAt (separator : String) : List String → List (List String)
  | [] => [[]]
  | text :: rest =>
    match splitAt separator rest with
    | part :: parts => if text = separator then [] :: part :: parts else (text :: part) :: parts
    | [] => [[text]]

/-- Tests joined by `-a` and `-o`. -/
def test? (files : FileSystem) (arguments : List String) : Option Bool :=
  if arguments.length ≤ 4 then single? files arguments
  else do
    let groups ← (splitAt "-o" arguments).mapM fun group => do
      let results ← (splitAt "-a" group).mapM (single? files)
      return results.all id
    return groups.any id

/-! ### Time -/

/-- Nanoseconds in a unit of time. -/
def unit? : List Char → Option Nat
  | [] | ['s'] => some 1000000000
  | ['m'] => some 60000000000
  | ['h'] => some 3600000000000
  | ['d'] => some 86400000000000
  | _ => none

/-- A length of time as `sleep` takes it, in nanoseconds. -/
def nanoseconds? (text : String) : Option Nat :=
  let (whole, rest) := text.toList.span Char.isDigit
  let (places, rest) :=
    match rest with
    | '.' :: rest => rest.span Char.isDigit
    | rest => ([], rest)
  let value := ((String.ofList (whole ++ places)).toNat?.getD 0)
  if whole.isEmpty && places.isEmpty then none
  else (unit? rest).map fun unit => value * unit / Nat.pow 10 places.length

/-- The lengths of time that `sleep` is given, together. -/
def seconds? (arguments : List String) : Option Nat :=
  if arguments.isEmpty then none
  else (arguments.mapM nanoseconds?).map fun lengths => lengths.foldl (· + ·) 0

/-! ### Parts of files -/

/-- The lines of a byte sequence, each with its line feed. -/
def linesOf (line : List UInt8) (done : List (List UInt8)) : List UInt8 → List (List UInt8)
  | [] => (if line.isEmpty then done else line.reverse :: done).reverse
  | byte :: rest =>
    if byte = 10 then linesOf [] ((byte :: line).reverse :: done) rest
    else linesOf (byte :: line) done rest

/-- The first lines or bytes, as many as are asked for. -/
def head (byBytes : Bool) (count : Nat) (bytes : List UInt8) : List UInt8 :=
  if byBytes then bytes.take count else ((linesOf [] [] bytes).take count).flatten

/-- The last lines or bytes, as many as are asked for. -/
def tail (byBytes : Bool) (count : Nat) (bytes : List UInt8) : List UInt8 :=
  if byBytes then bytes.drop (bytes.length - count)
  else
    let lines := linesOf [] [] bytes
    (lines.drop (lines.length - count)).flatten

/-- The part of a path behind its last slash. -/
def baseName (path : String) : String :=
  let trimmed := (path.toList.reverse.dropWhile (· == '/'))
  if trimmed.isEmpty then (if path.isEmpty then "" else "/")
  else String.ofList (trimmed.takeWhile (· != '/')).reverse

/-- The part of a path in front of its last slash. -/
def directoryName (path : String) : String :=
  let trimmed := (path.toList.reverse.dropWhile (· == '/')).dropWhile (· != '/')
  let parent := (trimmed.dropWhile (· == '/')).reverse
  if !parent.isEmpty then String.ofList parent
  else if path.startsWith "/" then "/"
  else "."

end DeclGraph.Shell.Tools
