/-
**Reading shell scripts.**

A script is read by descent: lists of pipelines, pipelines of commands, commands of words. The text
under a `<<` is taken out of the script as soon as the redirection is read.

* `command?`: the command that a whole script is.
-/

import DeclGraph.Machine.Shell.Script

namespace DeclGraph.Shell

/-- What is left of a script, and the number of its first line. -/
structure Rest where
  chars : List Char
  line : Nat
  deriving Inhabited

/-- A reader of part of a script. -/
abbrev Reader (α : Type) := Rest → Option (α × Rest)

namespace Rest

/-- Whether a character is a blank within a line. -/
def isSpace (c : Char) : Bool := c = ' ' || c = '\t'

/-- The script after blanks, joined lines and a comment. -/
def skipSpaces (rest : Rest) : Rest := go rest.line rest.chars
where
  /-- the same, character by character -/
  go (line : Nat) : List Char → Rest
    | '\\' :: '\n' :: chars => go (line + 1) chars
    | '#' :: chars => ⟨chars.dropWhile (· != '\n'), line⟩
    | c :: chars => if isSpace c then go line chars else ⟨c :: chars, line⟩
    | [] => ⟨[], line⟩

/-- The script after blanks, comments and ends of lines. -/
def skipLines (rest : Rest) : Nat → Rest
  | 0 => rest
  | steps + 1 =>
    match rest.skipSpaces with
    | ⟨'\n' :: chars, line⟩ => skipLines ⟨chars, line + 1⟩ steps
    | rest => rest

end Rest

/-! ### Pieces of words -/

/-- Whether a character may begin a name. -/
def isNameStart (c : Char) : Bool := c.isAlpha || c = '_'

/-- Whether a character may go on a name. -/
def isNamePart (c : Char) : Bool := c.isAlphanum || c = '_'

/-- Whether a single character names a parameter. -/
def isSpecial (c : Char) : Bool := c.isDigit || "#?$@*!-".toList.contains c

/-- The text up to a parenthesis that closes one opened before, and what follows. Quoted text is
passed over. -/
def untilClosed (read : List Char) : Nat → List Char → Option (List Char × List Char)
  | _, [] => none
  | depth, '\\' :: c :: rest => untilClosed (c :: '\\' :: read) depth rest
  | depth, '\'' :: rest =>
    let text := rest.takeWhile (· != '\'')
    if text.length < rest.length then
      skipQuoted depth ('\'' :: text.reverse ++ '\'' :: read) rest text.length
    else none
  | depth, c :: rest =>
    if c = '(' then untilClosed (c :: read) (depth + 1) rest
    else if c = ')' then
      match depth with
      | 0 => some (read.reverse, rest)
      | depth + 1 => untilClosed (c :: read) depth rest
    else untilClosed (c :: read) depth rest
where
  /-- passes over as many characters and one more -/
  skipQuoted (depth : Nat) (read : List Char) : List Char → Nat → Option (List Char × List Char)
    | [], _ => none
    | _ :: rest, 0 => untilClosed read depth rest
    | _ :: rest, count + 1 => skipQuoted depth read rest count

/-- The text up to a closing brace, and what follows. -/
def untilBrace (chars : List Char) : Option (List Char × List Char) :=
  match chars.span (· != '\x7d') with
  | (text, _ :: rest) => some (text, rest)
  | _ => none

/-- A parameter between braces. -/
def bracedParameter? (text : List Char) (quoted : Bool) : Option Piece :=
  let (name, rest) :=
    match text with
    | c :: rest => if isSpecial c && !c.isDigit then ([c], rest) else text.span isNamePart
    | [] => ([], [])
  let name := String.ofList name
  if name.isEmpty then none
  else
    match rest with
    | [] => some (.parameter name quoted)
    | ':' :: '-' :: text => some (.default name true (String.ofList text) quoted)
    | '-' :: text => some (.default name false (String.ofList text) quoted)
    | _ => none

/-- What a dollar sign begins. -/
def dollar? (quoted : Bool) : List Char → Option (Piece × List Char)
  | '(' :: '(' :: rest =>
    match untilClosed [] 0 rest with
    | some (formula, ')' :: rest) => some (.sum (String.ofList formula) quoted, rest)
    | _ => none
  | '(' :: rest =>
    (untilClosed [] 0 rest).map fun (script, rest) => (.output (String.ofList script) quoted, rest)
  | '\x7b' :: rest =>
    match untilBrace rest with
    | some (text, rest) => (bracedParameter? text quoted).map fun piece => (piece, rest)
    | none => none
  | c :: rest =>
    if isSpecial c then some (.parameter (String.ofList [c]) quoted, rest)
    else if isNameStart c then
      let (name, rest) := (c :: rest).span isNamePart
      some (.parameter (String.ofList name) quoted, rest)
    else some (.literal "$" quoted, c :: rest)
  | [] => some (.literal "$" quoted, [])

/-- The text up to a backquote, and what follows. -/
def untilBackquote (read : List Char) : List Char → Option (List Char × List Char)
  | [] => none
  | '\x60' :: rest => some (read.reverse, rest)
  | '\\' :: c :: rest =>
    if c = '\x60' || c = '\\' || c = '$' then untilBackquote (c :: read) rest
    else untilBackquote (c :: '\\' :: read) rest
  | c :: rest => untilBackquote (c :: read) rest

/-- Puts a literal character in front of pieces that are held in reverse. -/
def pushChar (c : Char) (quoted : Bool) : List Piece → List Piece
  | .literal text other :: pieces =>
    if other = quoted then .literal (text.push c) quoted :: pieces
    else .literal (String.ofList [c]) quoted :: .literal text other :: pieces
  | pieces => .literal (String.ofList [c]) quoted :: pieces

/-- The pieces between double quotation marks, held in reverse, and what follows. The closing mark
is the given character, or the end of the text. -/
def quotedPieces? (close : Option Char) (read : List Piece) :
    Nat → List Char → Option (List Piece × List Char)
  | 0, _ => none
  | _, [] => if close.isNone then some (read, []) else none
  | steps + 1, c :: rest =>
    if some c = close then some (read, rest)
    else if c = '$' then
      match dollar? true rest with
      | some (piece, rest) => quotedPieces? close (piece :: read) steps rest
      | none => none
    else if c = '\x60' then
      match untilBackquote [] rest with
      | some (script, rest) =>
        quotedPieces? close (.output (String.ofList script) true :: read) steps rest
      | none => none
    else if c = '\\' then
      match rest with
      | '\n' :: rest => quotedPieces? close read steps rest
      | d :: rest =>
        if d = '$' || d = '\x60' || d = '\\' || some d = close then
          quotedPieces? close (pushChar d true read) steps rest
        else quotedPieces? close (pushChar d true (pushChar '\\' true read)) steps rest
      | [] => quotedPieces? close (pushChar '\\' true read) steps []
    else quotedPieces? close (pushChar c true read) steps rest

/-- Whether a character ends a word. -/
def endsWord (c : Char) : Bool := " \t\n;&|<>()".toList.contains c

/-- The pieces of a word, held in reverse, and what follows. -/
def pieces? (read : List Piece) : Nat → List Char → Option (List Piece × List Char)
  | 0, _ => none
  | _, [] => some (read, [])
  | steps + 1, c :: rest =>
    if endsWord c then some (read, c :: rest)
    else if c = '\'' then
      match rest.span (· != '\'') with
      | (text, _ :: rest) => pieces? (.literal (String.ofList text) true :: read) steps rest
      | _ => none
    else if c = '"' then
      match quotedPieces? (some '"') (.literal "" true :: read) (rest.length + 1) rest with
      | some (read, rest) => pieces? read steps rest
      | none => none
    else if c = '$' then
      match dollar? false rest with
      | some (piece, rest) => pieces? (piece :: read) steps rest
      | none => none
    else if c = '\x60' then
      match untilBackquote [] rest with
      | some (script, rest) => pieces? (.output (String.ofList script) false :: read) steps rest
      | none => none
    else if c = '\\' then
      match rest with
      | '\n' :: rest => pieces? read steps rest
      | d :: rest => pieces? (pushChar d true read) steps rest
      | [] => pieces? (pushChar '\\' true read) steps []
    else pieces? (pushChar c false read) steps rest

/-- A word that is not empty, after blanks. -/
def word? : Reader Word := fun rest =>
  let rest := rest.skipSpaces
  match pieces? [] (rest.chars.length + 1) rest.chars with
  | some ([], _) | none => none
  | some (read, chars) =>
    let taken := rest.chars.take (rest.chars.length - chars.length)
    some (read.reverse, ⟨chars, rest.line + (taken.filter (· == '\n')).length⟩)

/-! ### Redirections -/

/-- The lines up to one that is the given text, and what follows them. Tabs in front of lines may be
left out. -/
def untilLine (tabs : Bool) (stop : List Char) (read : List (List Char)) :
    Nat → List Char → List (List Char) × List Char
  | 0, chars => (read.reverse, chars)
  | _, [] => (read.reverse, [])
  | steps + 1, chars =>
    let (line, rest) := chars.span (· != '\n')
    let line := if tabs then line.dropWhile (· == '\t') else line
    if line = stop then (read.reverse, rest.drop 1)
    else untilLine tabs stop (line :: read) steps (rest.drop 1)

/-- The text that a word stands for without expansion, and whether a part of it is quoted. -/
def literalText (word : Word) : String × Bool :=
  word.foldl (fun (text, any) piece =>
    match piece with
    | .literal more quoted => (text ++ more, any || quoted)
    | _ => (text, any)) ("", false)

/-- Takes the text under a `<<` out of a script. -/
def hereText (tabs : Bool) (stop : Word) (chars : List Char) : Option (Word × List Char) :=
  let (line, rest) := chars.span (· != '\n')
  let (stop, quoted) := literalText stop
  let lines := rest.drop 1
  let (body, rest) := untilLine tabs stop.toList [] (lines.length + 1) lines
  let text := String.ofList (body.flatMap fun line => line ++ ['\n'])
  let word :=
    if quoted then some [.literal text true]
    else (quotedPieces? none [] (text.length + 1) text.toList).map fun (read, _) => read.reverse
  word.map fun word => (word, line ++ '\n' :: rest)

/-- The redirection after its sign. -/
def redirectionBehind? (descriptor : Option Nat) : Reader Redirection := fun rest =>
  match rest.chars with
  | '<' :: '<' :: '-' :: chars => here true chars rest.line
  | '<' :: '<' :: chars => here false chars rest.line
  | '<' :: chars => (word? ⟨chars, rest.line⟩).map fun (word, rest) => (.input word, rest)
  | '>' :: '>' :: chars =>
    (word? ⟨chars, rest.line⟩).map fun (word, rest) => (.output (descriptor.getD 1) true word, rest)
  | '>' :: '&' :: chars =>
    (word? ⟨chars, rest.line⟩).map fun (word, rest) => (.duplicate (descriptor.getD 1) word, rest)
  | '>' :: '|' :: chars =>
    (word? ⟨chars, rest.line⟩).map fun (word, rest) =>
      (.output (descriptor.getD 1) false word, rest)
  | '>' :: chars =>
    (word? ⟨chars, rest.line⟩).map fun (word, rest) =>
      (.output (descriptor.getD 1) false word, rest)
  | _ => none
where
  /-- a text that follows in the script -/
  here (tabs : Bool) (chars : List Char) (line : Nat) : Option (Redirection × Rest) :=
    match word? ⟨chars, line⟩ with
    | some (stop, rest) =>
      (hereText tabs stop rest.chars).map fun (word, chars) => (.text word, ⟨chars, rest.line⟩)
    | none => none

/-- Whether a redirection stands next. -/
def atRedirection (rest : Rest) : Bool :=
  match rest.chars.dropWhile Char.isDigit with
  | '<' :: _ | '>' :: _ => true
  | _ => false

/-- A redirection. -/
def redirection? : Reader Redirection := fun rest =>
  let (digits, chars) := rest.chars.span Char.isDigit
  redirectionBehind? (String.ofList digits).toNat? ⟨chars, rest.line⟩

/-! ### Commands -/

/-- The redirections of a command. -/
def redirections? (read : List Redirection) : Nat → Reader (List Redirection)
  | 0, _ => none
  | steps + 1, rest =>
    let rest := rest.skipSpaces
    if atRedirection rest then
      match redirection? rest with
      | some (redirection, rest) => redirections? (redirection :: read) steps rest
      | none => none
    else some (read.reverse, rest)

/-- The name and the word of an assignment. -/
def assignment? : Word → Option (String × Word)
  | .literal text false :: pieces =>
    let (name, value) := text.toList.span (· != '=')
    match name, value with
    | c :: _, _ :: value =>
      if isNameStart c && name.all isNamePart then
        some (String.ofList name, .literal (String.ofList value) false :: pieces)
      else none
    | _, _ => none
  | _ => none

/-- The parts of a simple command, each list in reverse. -/
structure Parts where
  assignments : List (String × Word) := []
  words : List Word := []
  redirections : List Redirection := []

/-- The parts of a simple command. -/
def parts? (read : Parts) : Nat → Reader Parts
  | 0, _ => none
  | steps + 1, rest =>
    let rest := rest.skipSpaces
    if atRedirection rest then
      match redirection? rest with
      | some (redirection, rest) =>
        parts? { read with redirections := redirection :: read.redirections } steps rest
      | none => none
    else
      match rest.chars with
      | [] => some (read, rest)
      | c :: _ =>
        if endsWord c then some (read, rest)
        else
          match word? rest with
          | none => none
          | some (word, rest) =>
            match if read.words.isEmpty then assignment? word else none with
            | some pair => parts? { read with assignments := pair :: read.assignments } steps rest
            | none => parts? { read with words := word :: read.words } steps rest

/-- A command with redirections, if there are any. -/
def withRedirections (line : Nat) (command : Command) : List Redirection → Command
  | [] => command
  | redirections => .redirected line command redirections

/-- A simple command. -/
def simple? : Reader Command := fun rest =>
  match parts? {} (rest.chars.length + 1) rest with
  | some (parts, after) =>
    if parts.assignments.isEmpty && parts.words.isEmpty && parts.redirections.isEmpty then none
    else
      some (withRedirections rest.line
        (.simple rest.line parts.assignments.reverse parts.words.reverse)
        parts.redirections.reverse, after)
  | none => none

/-- The unquoted word that stands next. -/
def nextPlain? (rest : Rest) : Option String :=
  (word? rest).bind fun (word, _) => word.plain?

/-- The words that end a list of commands. -/
def closingWords : List String := ["then", "else", "elif", "fi", "do", "done", "esac", "\x7d"]

/-- Whether a list of commands ends here. -/
def atClose (rest : Rest) : Bool :=
  match rest.chars with
  | [] | ')' :: _ | ';' :: ';' :: _ => true
  | _ => ((nextPlain? rest).map closingWords.contains).getD false

/-- A given word, after blanks and line ends. -/
def expect? (text : String) (rest : Rest) : Option Rest :=
  match word? (rest.skipLines (rest.chars.length + 1)) with
  | some (word, rest) => if word.plain? = some text then some rest else none
  | none => none

/-- Words up to the end of a command. -/
def words? (read : List Word) : Nat → Reader (List Word)
  | 0, _ => none
  | steps + 1, rest =>
    let rest := rest.skipSpaces
    match rest.chars with
    | [] => some (read.reverse, rest)
    | c :: _ =>
      if endsWord c then some (read.reverse, rest)
      else
        match word? rest with
        | some (word, rest) => words? (word :: read) steps rest
        | none => none

/-- The patterns of a branch, up to the closing parenthesis. -/
def patterns? (read : List Word) : Nat → Reader (List Word)
  | 0, _ => none
  | steps + 1, rest =>
    match word? rest with
    | none => none
    | some (word, rest) =>
      match rest.skipSpaces with
      | ⟨'|' :: chars, line⟩ => patterns? (word :: read) steps ⟨chars, line⟩
      | ⟨')' :: chars, line⟩ => some ((word :: read).reverse, ⟨chars, line⟩)
      | _ => none

mutual

/-- A list of commands up to a closing word. -/
def list? : Nat → Rest → Option (Command × Rest)
  | 0, _ => none
  | fuel + 1, rest =>
    let rest := rest.skipLines (rest.chars.length + 1)
    if atClose rest then some (.nothing, rest)
    else
      match chain? fuel rest with
      | none => none
      | some (first, rest) =>
        match rest.skipSpaces with
        | ⟨';' :: ';' :: chars, line⟩ => some (first, ⟨';' :: ';' :: chars, line⟩)
        | ⟨';' :: chars, line⟩ =>
          (list? fuel ⟨chars, line⟩).map fun (second, rest) => (.sequence first second, rest)
        | ⟨'\n' :: chars, line⟩ =>
          (list? fuel ⟨chars, line + 1⟩).map fun (second, rest) => (.sequence first second, rest)
        | ⟨'&' :: chars, line⟩ =>
          (list? fuel ⟨chars, line⟩).map fun (second, rest) =>
            (.sequence (.beside first) second, rest)
        | rest => if atClose rest then some (first, rest) else none

/-- Pipelines joined by `&&` and `||`. -/
def chain? : Nat → Rest → Option (Command × Rest)
  | 0, _ => none
  | fuel + 1, rest =>
    match pipeline? fuel rest with
    | none => none
    | some (first, rest) => links? fuel first rest

/-- What is joined to a pipeline, from the left. -/
def links? : Nat → Command → Rest → Option (Command × Rest)
  | 0, _, _ => none
  | fuel + 1, first, rest =>
    match rest.skipSpaces with
    | ⟨'&' :: '&' :: chars, line⟩ =>
      match pipeline? fuel (Rest.skipLines ⟨chars, line⟩ (chars.length + 1)) with
      | some (second, rest) => links? fuel (.both first second) rest
      | none => none
    | ⟨'|' :: '|' :: chars, line⟩ =>
      match pipeline? fuel (Rest.skipLines ⟨chars, line⟩ (chars.length + 1)) with
      | some (second, rest) => links? fuel (.either first second) rest
      | none => none
    | rest => some (first, rest)

/-- Commands joined by `|`, perhaps negated. -/
def pipeline? : Nat → Rest → Option (Command × Rest)
  | 0, _ => none
  | fuel + 1, rest =>
    match nextPlain? rest with
    | some "!" =>
      match word? rest with
      | some (_, rest) => (pipeline? fuel rest).map fun (command, rest) => (.negation command, rest)
      | none => none
    | _ =>
      match item? fuel rest with
      | none => none
      | some (first, rest) =>
        match rest.skipSpaces with
        | ⟨'|' :: '|' :: chars, line⟩ => some (first, ⟨'|' :: '|' :: chars, line⟩)
        | ⟨'|' :: chars, line⟩ =>
          (pipeline? fuel (Rest.skipLines ⟨chars, line⟩ (chars.length + 1))).map
            fun (second, rest) => (.pipe first second, rest)
        | rest => some (first, rest)

/-- One command with its redirections. -/
def item? : Nat → Rest → Option (Command × Rest)
  | 0, _ => none
  | fuel + 1, rest =>
    let rest := rest.skipSpaces
    match rest.chars with
    | '(' :: chars =>
      match list? fuel ⟨chars, rest.line⟩ with
      | some (command, ⟨')' :: chars, line⟩) => finished (.apart command) ⟨chars, line⟩
      | _ => none
    | _ =>
      match (word? rest).bind fun (word, after) => word.plain?.map fun text => (text, after) with
      | some ("\x7b", after) =>
        match list? fuel after with
        | some (command, rest) => (expect? "\x7d" rest).bind (finished command)
        | none => none
      | some ("if", after) =>
        match branches? fuel after with
        | some (command, rest) => finished command rest
        | none => none
      | some ("while", after) => loop? fuel true after
      | some ("until", after) => loop? fuel false after
      | some ("for", after) =>
        match word? after with
        | none => none
        | some (name, rest) =>
          match expect? "in" rest with
          | none => none
          | some rest =>
            match words? [] (rest.chars.length + 1) rest with
            | none => none
            | some (words, rest) =>
              match body? fuel (separator rest) with
              | some (body, rest) => finished (.each (name.plain?.getD "") words body) rest
              | none => none
      | some ("case", after) =>
        match word? after with
        | none => none
        | some (word, rest) =>
          match expect? "in" rest with
          | none => none
          | some rest =>
            match choices? fuel word rest with
            | some (command, rest) => finished command rest
            | none => none
      | _ => simple? rest
where
  /-- a compound command with the redirections behind it -/
  finished (command : Command) (rest : Rest) : Option (Command × Rest) :=
    (redirections? [] (rest.chars.length + 1) rest).map fun (redirections, rest) =>
      (withRedirections rest.line command redirections, rest)
  /-- the script after one semicolon, if it stands there -/
  separator (rest : Rest) : Rest :=
    match rest.skipSpaces with
    | ⟨';' :: chars, line⟩ => ⟨chars, line⟩
    | rest => rest

/-- The rest of a conditional behind its first word. -/
def branches? : Nat → Rest → Option (Command × Rest)
  | 0, _ => none
  | fuel + 1, rest =>
    match list? fuel rest with
    | none => none
    | some (condition, rest) =>
      match (expect? "then" rest).bind (list? fuel) with
      | none => none
      | some (consequence, rest) =>
        match (word? rest).bind fun (word, after) => word.plain?.map fun text => (text, after) with
        | some ("fi", after) => some (.conditional condition consequence .nothing, after)
        | some ("elif", after) =>
          (branches? fuel after).map fun (alternative, rest) =>
            (.conditional condition consequence alternative, rest)
        | some ("else", after) =>
          match list? fuel after with
          | some (alternative, rest) =>
            (expect? "fi" rest).map fun rest =>
              (.conditional condition consequence alternative, rest)
          | none => none
        | _ => none

/-- The rest of a loop behind its first word. -/
def loop? : Nat → Bool → Rest → Option (Command × Rest)
  | 0, _, _ => none
  | fuel + 1, wanted, rest =>
    match list? fuel rest with
    | none => none
    | some (condition, rest) =>
      match body? fuel rest with
      | some (body, rest) =>
        (redirections? [] (rest.chars.length + 1) rest).map fun (redirections, rest) =>
          (withRedirections rest.line (.loop wanted condition body) redirections, rest)
      | none => none

/-- The body of a loop. -/
def body? : Nat → Rest → Option (Command × Rest)
  | 0, _ => none
  | fuel + 1, rest =>
    match (expect? "do" rest).bind (list? fuel) with
    | some (body, rest) => (expect? "done" rest).map fun rest => (body, rest)
    | none => none

/-- The branches of a choice up to its last word. -/
def choices? : Nat → Word → Rest → Option (Command × Rest)
  | 0, _, _ => none
  | fuel + 1, word, rest =>
    let rest := rest.skipLines (rest.chars.length + 1)
    match nextPlain? rest with
    | some "esac" => (word? rest).map fun (_, rest) => (.nothing, rest)
    | _ =>
      let rest := match rest.chars with
        | '(' :: chars => ⟨chars, rest.line⟩
        | _ => rest
      match patterns? [] (rest.chars.length + 1) rest with
      | none => none
      | some (patterns, rest) =>
        match list? fuel rest with
        | none => none
        | some (body, rest) =>
          match rest.skipSpaces with
          | ⟨';' :: ';' :: chars, line⟩ =>
            (choices? fuel word ⟨chars, line⟩).map fun (others, rest) =>
              (.choice word patterns body others, rest)
          | rest =>
            (expect? "esac" rest).map fun rest => (.choice word patterns body .nothing, rest)

end

/-- The command that a whole script is. -/
def command? (text : String) : Option Command :=
  match list? (8 * text.length + 8) ⟨text.toList, 1⟩ with
  | some (command, ⟨[], _⟩) => some command
  | _ => none

end DeclGraph.Shell
