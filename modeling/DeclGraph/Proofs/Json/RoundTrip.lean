/-
**Reading what was written.**

The compact and the indented text of a value are JSON texts, and reading either gives the value back.
Both are texts of one grammar that admits blanks between the tokens of a value, and whatever the
grammar admits is read back. The compact text stands on one line.

* `Ends`: what may follow a value, so that the value is not read too far;
* `number?_toString`, `string?_escaped`: numbers and strings are read back;
* `Spelled`: the texts of a value, with or without blanks;
* `ReadsBack`: what a reader with so much fuel reads back;
* **`Spelled.ofChars?`**: every text of a value is read back;
* **`ofText?_compact`**, **`ofText?_pretty`**: a written value is read back;
* **`printable_compact`**: the compact text holds no control characters, hence no line breaks.
-/

import DeclGraph.Json.Decode
import Mathlib.Data.List.TakeDrop

namespace DeclGraph.Json

/-- What may follow a value: nothing, a comma, the end of an array or an object, or a blank. -/
def Ends : List Char → Prop
  | [] => True
  | c :: _ => (c = ',' ∨ c = ']' ∨ c = '\x7d') ∨ isSpace c = true

theorem isSpace_iff {c : Char} : isSpace c = true ↔ c = ' ' ∨ c = '\n' ∨ c = '\t' ∨ c = '\r' := by
  simp [isSpace, or_assoc]

theorem Ends.head_cases {c : Char} {rest : List Char} (ends : Ends (c :: rest)) :
    c = ',' ∨ c = ']' ∨ c = '\x7d' ∨ c = ' ' ∨ c = '\n' ∨ c = '\t' ∨ c = '\r' := by
  rcases ends with (comma | bracket | brace) | space
  · exact Or.inl comma
  · exact Or.inr (Or.inl bracket)
  · exact Or.inr (Or.inr (Or.inl brace))
  · exact Or.inr (Or.inr (Or.inr (isSpace_iff.mp space)))

theorem Ends.head_not_digit {c : Char} {rest : List Char} (ends : Ends (c :: rest)) :
    c.isDigit = false := by
  rcases ends.head_cases with rfl | rfl | rfl | rfl | rfl | rfl | rfl <;> rfl

/-! ### Numbers -/

theorem decimal_toDigits (n : Nat) : decimal (Nat.toDigits 10 n) = n := by
  have same : ∀ digits : List Char, decimal digits = Nat.ofDigitChars 10 digits 0 := by
    intro digits
    simp only [decimal, Nat.ofDigitChars, Nat.mul_comm]
    rfl
  rw [same]
  exact Nat.ofDigitChars_toDigits (by decide) (by decide)

theorem isDigit_of_mem_toDigits {n : Nat} {c : Char} (member : c ∈ Nat.toDigits 10 n) :
    c.isDigit = true :=
  Nat.isDigit_of_mem_toDigits (by decide) (by decide) member

/-- A positive number does not begin with a zero. -/
theorem head?_toDigits {n : Nat} (positive : 0 < n) : (Nat.toDigits 10 n).head? ≠ some '0' := by
  induction n using Nat.strongRecOn with
  | ind n ih =>
    rw [Nat.toDigits_eq_if (by decide)]
    split
    · have small : ∀ n ∈ List.range' 1 9, [n.digitChar].head? ≠ some '0' := by decide
      exact small n (List.mem_range'_1.mpr ⟨positive, by omega⟩)
    · have rest := ih (n / 10) (by omega) (by omega)
      cases digits : Nat.toDigits 10 (n / 10) with
      | nil => exact absurd digits (by simp)
      | cons first others => rw [digits] at rest; exact rest

theorem spanDigits_toDigits (n : Nat) {rest : List Char} (ends : Ends rest) :
    spanDigits (Nat.toDigits 10 n ++ rest) = (Nat.toDigits 10 n, rest) := by
  have digits : ∀ c ∈ Nat.toDigits 10 n, c.isDigit = true := fun _ => isDigit_of_mem_toDigits
  have none : rest.takeWhile Char.isDigit = [] ∧ rest.dropWhile Char.isDigit = rest := by
    cases rest with
    | nil => exact ⟨rfl, rfl⟩
    | cons c rest => simp [ends.head_not_digit]
  rw [spanDigits, List.span_eq_takeWhile_dropWhile, List.takeWhile_append_of_pos digits,
    List.dropWhile_append_of_pos digits, none.1, none.2, List.append_nil]

theorem integerDigits?_toDigits (n : Nat) {rest : List Char} (ends : Ends rest) :
    integerDigits? (Nat.toDigits 10 n ++ rest) = some (Nat.toDigits 10 n, rest) := by
  unfold integerDigits?
  rw [spanDigits_toDigits n ends]
  split
  · next none => cases Nat.toDigits_ne_nil (Prod.mk.inj none).1
  · next leading =>
    have digits := (Prod.mk.inj leading).1
    rcases Nat.eq_zero_or_pos n with rfl | positive
    · cases digits
    · exact absurd (by rw [digits]; rfl) (head?_toDigits positive)
  · next same => cases same; rfl

/-- Digits are read back as an integer. -/
theorem number?_toDigits (n : Nat) {rest : List Char} (ends : Ends rest) (negative : Bool)
    {chars : List Char} (sign : numberSign chars = (negative, Nat.toDigits 10 n ++ rest)) :
    number? chars = some (⟨negative, n, 0, true⟩, rest) := by
  have fraction : fractionDigits? rest = some ([], rest) := by
    cases rest with
    | nil => rfl
    | cons c rest =>
      rcases ends.head_cases with rfl | rfl | rfl | rfl | rfl | rfl | rfl <;> rfl
  have exponent : exponent? rest = some (none, rest) := by
    cases rest with
    | nil => rfl
    | cons c rest =>
      rcases ends.head_cases with rfl | rfl | rfl | rfl | rfl | rfl | rfl <;> rfl
  unfold number?
  simp [sign, integerDigits?_toDigits n ends, fraction, exponent, decimal_toDigits]

theorem toList_toString_ofNat (n : Nat) :
    (toString (Int.ofNat n)).toList = Nat.toDigits 10 n := Nat.toList_repr

theorem toList_toString_negSucc (n : Nat) :
    (toString (Int.negSucc n)).toList = '-' :: Nat.toDigits 10 (n + 1) := by
  show ("-" ++ (n + 1).repr).toList = _
  rw [String.toList_append, Nat.toList_repr]
  rfl

/-- **An integer is read back.** -/
theorem number?_toString (value : Int) {rest : List Char} (ends : Ends rest) :
    number? ((toString value).toList ++ rest) =
      some (⟨decide (value < 0), value.natAbs, 0, true⟩, rest) := by
  cases value with
  | ofNat n =>
    have sign : numberSign (Nat.toDigits 10 n ++ rest) = (false, Nat.toDigits 10 n ++ rest) := by
      unfold numberSign
      split
      · next same =>
        cases digits : Nat.toDigits 10 n with
        | nil => cases Nat.toDigits_ne_nil digits
        | cons first others =>
          rw [digits] at same
          cases same
          have digit : ('-').isDigit = true :=
            isDigit_of_mem_toDigits (digits ▸ List.mem_cons_self)
          cases digit
      · rfl
    rw [toList_toString_ofNat, number?_toDigits n ends false sign]
    simp
  | negSucc n =>
    rw [toList_toString_negSucc, List.cons_append, number?_toDigits (n + 1) ends true rfl]
    simp

/-! ### Strings -/

theorem hexUnit?_control : ∀ n < 32,
    hexUnit? '0' '0' (hexDigit (n / 16)) (hexDigit (n % 16)) = some n := by
  decide

/-- A character that stands for itself is read as it is. -/
theorem unitsFrom_plain {c : Char} (read : List Nat) (rest : List Char) (quote : c ≠ '"')
    (backslash : c ≠ '\\') (printable : ¬ c.toNat < 32) :
    unitsFrom read (c :: rest) = unitsFrom (c.toNat :: read) rest := by
  rw [unitsFrom]
  · simp [backslash, printable]
  · rintro rfl
    exact quote rfl
  · rintro _ _ _ _ _ rfl
    exact absurd rfl backslash
  · rintro _ _ rfl
    exact absurd rfl backslash

/-- **An escaped character is read back.** -/
theorem unitsFrom_escapeChar (c : Char) (read : List Nat) (rest : List Char) :
    unitsFrom read (escapeChar c ++ rest) = unitsFrom (c.toNat :: read) rest := by
  have short : ∀ n : Nat, c.toNat = n → c = Char.ofNat n := fun n same => by
    rw [← same, Char.ofNat_toNat]
  unfold escapeChar
  split_ifs with quote backslash feed carriage tab back form control
  · subst quote; rfl
  · subst backslash; rfl
  · subst feed; rfl
  · subst carriage; rfl
  · subst tab; rfl
  · rw [short 8 back]; rfl
  · rw [short 12 form]; rfl
  · simp only [List.cons_append, List.nil_append]
    rw [unitsFrom, hexUnit?_control c.toNat control]
  · exact unitsFrom_plain read rest quote backslash control

theorem unitsFrom_escaped (chars : List Char) (read : List Nat) (rest : List Char) :
    unitsFrom read (chars.flatMap escapeChar ++ '"' :: rest) =
      some ((chars.map Char.toNat).reverse ++ read, rest) := by
  induction chars generalizing read with
  | nil => rfl
  | cons c chars ih =>
    rw [List.flatMap_cons, List.append_assoc, unitsFrom_escapeChar, ih, List.map_cons,
      List.reverse_cons, List.append_assoc]
    rfl

/-- A character is no half of a surrogate pair. -/
theorem not_surrogate (c : Char) : isHighSurrogate c.toNat = false ∧ isLowSurrogate c.toNat = false := by
  have valid : c.toNat < 0xD800 ∨ 0xDFFF < c.toNat ∧ c.toNat < 0x110000 := c.valid
  simp only [isHighSurrogate, isLowSurrogate, Bool.and_eq_false_iff, decide_eq_false_iff_not]
  omega

theorem charsOfUnits_toNat (chars read : List Char) :
    charsOfUnits read (chars.map Char.toNat) = some (read.reverse ++ chars) := by
  induction chars generalizing read with
  | nil => simp [charsOfUnits]
  | cons c chars ih =>
    obtain ⟨high, low⟩ := not_surrogate c
    rw [List.map_cons, charsOfUnits.eq_def]
    simp [high, low, ih, Char.ofNat_toNat]

/-- **A string is read back.** -/
theorem string?_escaped (text : String) (rest : List Char) :
    string? (text.toList.flatMap escapeChar ++ '"' :: rest) = some (some text, rest) := by
  unfold string?
  rw [unitsFrom_escaped]
  simp [charsOfUnits_toNat]

theorem toList_quoted (text : String) :
    (quoted text).toList = '"' :: (text.toList.flatMap escapeChar ++ ['"']) := by
  simp [quoted]

/-! ### Blanks -/

/-- Nothing but blanks. -/
def Blank (chars : List Char) : Prop := ∀ c ∈ chars, isSpace c = true

theorem blank_nil : Blank [] := fun _ member => absurd member List.not_mem_nil

theorem blank_space : Blank [' '] := by
  intro c member
  obtain rfl := List.mem_singleton.mp member
  rfl

theorem blank_takeWhile (chars : List Char) : Blank (chars.takeWhile isSpace) :=
  List.all_eq_true.mp List.all_takeWhile

section Blanks

variable {blanks chars rest : List Char}

theorem Blank.skipSpace_append (blank : Blank blanks) (chars : List Char) :
    skipSpace (blanks ++ chars) = skipSpace chars := by
  unfold skipSpace
  exact List.dropWhile_append_of_pos blank

theorem skipSpace_cons {c : Char} (other : isSpace c = false) :
    skipSpace (c :: rest) = c :: rest := by
  simp [skipSpace, other]

/-- Blanks in front of a value are skipped. -/
theorem Blank.value?_append (blank : Blank blanks) (fuel : Nat) (chars : List Char) :
    value? fuel (blanks ++ chars) = value? fuel chars := by
  cases fuel with
  | zero => rfl
  | succ fuel => rw [value?, value?, blank.skipSpace_append]

/-- Blanks in front of the elements of an array are skipped. -/
theorem items?_skipSpace (fuel : Nat) (read : List Syntax) (chars : List Char) :
    items? fuel read (skipSpace chars) = items? fuel read chars := by
  cases fuel with
  | zero => rfl
  | succ fuel =>
    have same : value? fuel (skipSpace chars) = value? fuel chars := by
      conv_rhs => rw [← List.takeWhile_append_dropWhile (p := isSpace) (l := chars)]
      exact ((blank_takeWhile chars).value?_append fuel _).symm
    rw [items?, items?, same]

/-- Blanks in front of the fields of an object are skipped. -/
theorem Blank.fields?_append (blank : Blank blanks) (fuel : Nat)
    (read : List (Option String × Syntax)) (chars : List Char) :
    fields? fuel read (blanks ++ chars) = fields? fuel read chars := by
  cases fuel with
  | zero => rfl
  | succ fuel => rw [fields?, fields?, blank.skipSpace_append]

theorem fields?_skipSpace (fuel : Nat) (read : List (Option String × Syntax)) (chars : List Char) :
    fields? fuel read (skipSpace chars) = fields? fuel read chars := by
  conv_rhs => rw [← List.takeWhile_append_dropWhile (p := isSpace) (l := chars)]
  exact ((blank_takeWhile chars).fields?_append fuel read _).symm

/-- A comma or a closing bracket may stand behind a value, and so may blanks. -/
theorem Blank.ends_append {c : Char} (blank : Blank blanks)
    (close : c = ',' ∨ c = ']' ∨ c = '\x7d') : Ends (blanks ++ c :: rest) := by
  cases blanks with
  | nil => exact Or.inl close
  | cons first blanks => exact Or.inr (blank first List.mem_cons_self)

end Blanks

/-! ### The texts of a value -/

mutual

/-- **A text of a value**, with or without blanks between its tokens. -/
inductive Spelled : Value → List Char → Prop
  | null : Spelled .null "null".toList
  | bool (value : Bool) : Spelled (.bool value) (if value then "true" else "false").toList
  | integer (value : Int) : Spelled (.integer value) (toString value).toList
  | string (text : String) : Spelled (.string text) (quoted text).toList
  | array {items : List Value} {inside : List Char} :
      SpelledItems items inside → Spelled (.array items) ('[' :: (inside ++ [']']))
  | object {fields : List (String × Value)} {inside : List Char} :
      SpelledFields fields inside → Spelled (.object fields) ('\x7b' :: (inside ++ ['\x7d']))

/-- A text of the elements of an array. -/
inductive SpelledItems : List Value → List Char → Prop
  | none {blanks : List Char} : Blank blanks → SpelledItems [] blanks
  | last {item : Value} {before text after : List Char} :
      Blank before → Spelled item text → Blank after →
        SpelledItems [item] (before ++ (text ++ after))
  | more {item next : Value} {items : List Value} {before text after rest : List Char} :
      Blank before → Spelled item text → Blank after → SpelledItems (next :: items) rest →
        SpelledItems (item :: next :: items) (before ++ (text ++ (after ++ ',' :: rest)))

/-- A text of the fields of an object. -/
inductive SpelledFields : List (String × Value) → List Char → Prop
  | none {blanks : List Char} : Blank blanks → SpelledFields [] blanks
  | last {name : String} {value : Value} {before between text after : List Char} :
      Blank before → Blank between → Spelled value text → Blank after →
        SpelledFields [(name, value)]
          (before ++ ((quoted name).toList ++ ':' :: (between ++ (text ++ after))))
  | more {name : String} {value : Value} {next : String × Value} {fields : List (String × Value)}
      {before between text after rest : List Char} :
      Blank before → Blank between → Spelled value text → Blank after →
        SpelledFields (next :: fields) rest →
          SpelledFields ((name, value) :: next :: fields)
            (before ++ ((quoted name).toList ++
              ':' :: (between ++ (text ++ (after ++ ',' :: rest)))))

end

/-- A text that begins with neither a blank nor the end of an array or an object. -/
def Begins (chars : List Char) : Prop :=
  ∃ c rest, chars = c :: rest ∧ isSpace c = false ∧ c ≠ ']' ∧ c ≠ '\x7d'

theorem Begins.append {chars : List Char} (begins : Begins chars) (rest : List Char) :
    Begins (chars ++ rest) := by
  obtain ⟨c, others, rfl, facts⟩ := begins
  exact ⟨c, others ++ rest, rfl, facts⟩

theorem Begins.skipSpace {chars : List Char} (begins : Begins chars) : skipSpace chars = chars := by
  obtain ⟨c, rest, rfl, blank, _⟩ := begins
  exact skipSpace_cons blank

/-- An integer begins with a digit or a sign. -/
theorem toString_begins (value : Int) :
    ∃ c rest, (toString value).toList = c :: rest ∧ (c.isDigit = true ∨ c = '-') := by
  cases value with
  | ofNat n =>
    cases digits : Nat.toDigits 10 n with
    | nil => cases Nat.toDigits_ne_nil digits
    | cons c rest =>
      exact ⟨c, rest, (toList_toString_ofNat n).trans digits,
        Or.inl (isDigit_of_mem_toDigits (digits ▸ List.mem_cons_self))⟩
  | negSucc n => exact ⟨'-', Nat.toDigits 10 (n + 1), toList_toString_negSucc n, Or.inr rfl⟩

theorem digit_begins {c : Char} {rest : List Char} (starts : c.isDigit = true ∨ c = '-') :
    Begins (c :: rest) := by
  refine ⟨c, rest, rfl, ?_, ?_, ?_⟩
  · rcases starts with digit | rfl
    · simp only [isSpace, Bool.or_eq_false_iff, decide_eq_false_iff_not]
      refine ⟨⟨⟨?_, ?_⟩, ?_⟩, ?_⟩ <;> rintro rfl <;> cases digit
    · rfl
  all_goals
    rintro rfl
    rcases starts with digit | same
    · cases digit
    · cases same

theorem quoted_begins (text : String) : Begins (quoted text).toList := by
  rw [toList_quoted]
  exact ⟨'"', _, rfl, rfl, by decide, by decide⟩

/-- A text of a value begins with no blank and with no closing bracket. -/
theorem Spelled.begins {value : Value} {text : List Char} (spelled : Spelled value text) :
    Begins text := by
  cases spelled with
  | null => exact ⟨'n', _, rfl, rfl, by decide, by decide⟩
  | bool value => cases value <;> exact ⟨_, _, rfl, rfl, by decide, by decide⟩
  | integer value =>
    obtain ⟨c, rest, text, starts⟩ := toString_begins value
    rw [text]
    exact digit_begins starts
  | string text => exact quoted_begins text
  | array _ => exact ⟨'[', _, rfl, rfl, by decide, by decide⟩
  | object _ => exact ⟨'\x7b', _, rfl, rfl, by decide, by decide⟩

theorem SpelledItems.begins {item : Value} {items : List Value} {inside : List Char}
    (spelled : SpelledItems (item :: items) inside) (rest : List Char) :
    Begins (skipSpace (inside ++ rest)) := by
  cases spelled with
  | last before text _ | more before text _ _ =>
    have begins := text.begins.append
    rw [List.append_assoc, before.skipSpace_append, List.append_assoc, (begins _).skipSpace]
    exact begins _

theorem SpelledFields.begins {field : String × Value} {fields : List (String × Value)}
    {inside : List Char} (spelled : SpelledFields (field :: fields) inside) (rest : List Char) :
    Begins (skipSpace (inside ++ rest)) := by
  cases spelled with
  | @last name _ _ _ _ _ before | @more name _ _ _ _ _ _ _ _ before =>
    have begins := (quoted_begins name).append
    rw [List.append_assoc, before.skipSpace_append, List.append_assoc, (begins _).skipSpace]
    exact begins _

/-! ### Reading a text of a value -/

/-- What begins with a digit or a sign is read as a number. -/
theorem value?_number (fuel : Nat) {c : Char} {rest : List Char}
    (starts : c.isDigit = true ∨ c = '-') :
    value? (fuel + 1) (c :: rest) =
      (number? (c :: rest)).map fun (number, rest) => (.number number, rest) := by
  rw [value?, (digit_begins starts).skipSpace]
  split
  all_goals first
    | rfl
    | next same => cases same; rcases starts with digit | same <;> simp_all

section Steps

variable {fuel : Nat} {chars rest after : List Char}

/-- An array that does not end at once has elements. -/
theorem value?_array (begins : Begins (skipSpace chars)) :
    value? (fuel + 1) ('[' :: chars) = items? fuel [] (skipSpace chars) := by
  obtain ⟨c, others, skipped, _, bracket, _⟩ := begins
  rw [value?, skipSpace_cons (by decide)]
  simp only [skipped]
  split
  · next same => exact absurd (List.cons.inj same).1 bracket
  · rfl

/-- An object that does not end at once has fields. -/
theorem value?_object (begins : Begins (skipSpace chars)) :
    value? (fuel + 1) ('\x7b' :: chars) = fields? fuel [] (skipSpace chars) := by
  obtain ⟨c, others, skipped, _, _, brace⟩ := begins
  rw [value?, skipSpace_cons (by decide)]
  simp only [skipped]
  split
  · next same => exact absurd (List.cons.inj same).1 brace
  · rfl

theorem items?_last {read : List Syntax} {item : Syntax} (blank : Blank after)
    (found : value? fuel chars = some (item, after ++ ']' :: rest)) :
    items? (fuel + 1) read chars = some (.array (item :: read).reverse, rest) := by
  rw [items?, found]
  simp only [blank.skipSpace_append]
  rfl

theorem items?_more {read : List Syntax} {item : Syntax} (blank : Blank after)
    (found : value? fuel chars = some (item, after ++ ',' :: rest)) :
    items? (fuel + 1) read chars = items? fuel (item :: read) rest := by
  rw [items?, found]
  simp only [blank.skipSpace_append]
  rfl

/-- A field is read up to its value. -/
theorem fields?_field {read : List (Option String × Syntax)} (name : String) :
    fields? (fuel + 1) read ((quoted name).toList ++ ':' :: chars) =
      match value? fuel chars with
      | none => none
      | some (value, rest) =>
        match skipSpace rest with
        | ',' :: rest => fields? fuel ((some name, value) :: read) rest
        | '\x7d' :: rest => some (.object ((some name, value) :: read).reverse, rest)
        | _ => none := by
  have string := string?_escaped name (':' :: chars)
  rw [toList_quoted, List.cons_append, List.append_assoc, List.singleton_append, fields?,
    skipSpace_cons (by decide)]
  simp only [string]
  rfl

theorem fields?_last {read : List (Option String × Syntax)} (name : String) {value : Syntax}
    (blank : Blank after) (found : value? fuel chars = some (value, after ++ '\x7d' :: rest)) :
    fields? (fuel + 1) read ((quoted name).toList ++ ':' :: chars) =
      some (.object ((some name, value) :: read).reverse, rest) := by
  rw [fields?_field, found]
  simp only [blank.skipSpace_append]
  rfl

theorem fields?_more {read : List (Option String × Syntax)} (name : String) {value : Syntax}
    (blank : Blank after) (found : value? fuel chars = some (value, after ++ ',' :: rest)) :
    fields? (fuel + 1) read ((quoted name).toList ++ ':' :: chars) =
      fields? fuel ((some name, value) :: read) rest := by
  rw [fields?_field, found]
  simp only [blank.skipSpace_append]
  rfl

end Steps

/-- What a reader with so much fuel reads back. Every level and every element takes a character, so
the length of a text bounds the fuel for it. -/
structure ReadsBack (fuel : Nat) : Prop where
  value : ∀ {value : Value} {text rest : List Char}, Spelled value text → text.length < fuel →
    Ends rest → value? fuel (text ++ rest) = some (value.toSyntax, rest)
  items : ∀ {item : Value} {items : List Value} {inside rest : List Char} {read : List Syntax},
    SpelledItems (item :: items) inside → inside.length + 1 < fuel →
      items? fuel read (inside ++ ']' :: rest) =
        some (.array (read.reverse ++ Value.itemsToSyntax (item :: items)), rest)
  fields : ∀ {field : String × Value} {fields : List (String × Value)} {inside rest : List Char}
    {read : List (Option String × Syntax)},
    SpelledFields (field :: fields) inside → inside.length + 1 < fuel →
      fields? fuel read (inside ++ '\x7d' :: rest) =
        some (.object (read.reverse ++ Value.fieldsToSyntax (field :: fields)), rest)

namespace ReadsBack

variable {fuel : Nat} {rest : List Char}

/-- A value between blanks, in front of a comma or a closing bracket, is read up to the blanks
behind it. -/
theorem padded (reads : ReadsBack fuel) {value : Value} {before text after : List Char} {c : Char}
    (blank : Blank before) (spelled : Spelled value text) (blankAfter : Blank after)
    (enough : text.length < fuel) (close : c = ',' ∨ c = ']' ∨ c = '\x7d') :
    value? fuel (before ++ (text ++ (after ++ c :: rest))) =
      some (value.toSyntax, after ++ c :: rest) := by
  rw [blank.value?_append]
  exact reads.value spelled enough (blankAfter.ends_append close)

/-- One level more is read back. -/
theorem value_succ (reads : ReadsBack fuel) {value : Value} {text : List Char}
    (spelled : Spelled value text) (enough : text.length < fuel + 1) (ends : Ends rest) :
    value? (fuel + 1) (text ++ rest) = some (value.toSyntax, rest) := by
  cases spelled with
  | null => rfl
  | bool value => cases value <;> rfl
  | integer value =>
    obtain ⟨c, others, text, starts⟩ := toString_begins value
    have number := number?_toString value ends
    rw [text, List.cons_append] at number
    rw [text, List.cons_append, value?_number fuel starts, number]
    rfl
  | string text =>
    have string := string?_escaped text rest
    rw [toList_quoted, List.cons_append, List.append_assoc, List.singleton_append, value?]
    show (string? (text.toList.flatMap escapeChar ++ '"' :: rest)).map _ = _
    rw [string]
    rfl
  | @array items inside spelledItems =>
    rw [List.cons_append, List.append_assoc, List.singleton_append]
    cases items with
    | nil =>
      cases spelledItems with
      | none blank =>
        rw [value?, skipSpace_cons (by decide)]
        simp only [blank.skipSpace_append]
        rfl
    | cons item items =>
      simp only [List.length_cons, List.length_append, List.length_nil] at enough
      rw [value?_array (spelledItems.begins _), items?_skipSpace]
      exact reads.items spelledItems (by omega)
  | @object fields inside spelledFields =>
    rw [List.cons_append, List.append_assoc, List.singleton_append]
    cases fields with
    | nil =>
      cases spelledFields with
      | none blank =>
        rw [value?, skipSpace_cons (by decide)]
        simp only [blank.skipSpace_append]
        rfl
    | cons field fields =>
      simp only [List.length_cons, List.length_append, List.length_nil] at enough
      rw [value?_object (spelledFields.begins _), fields?_skipSpace]
      exact reads.fields spelledFields (by omega)

/-- One element more is read back. -/
theorem items_succ (reads : ReadsBack fuel) {item : Value} {items : List Value}
    {inside : List Char} {read : List Syntax} (spelled : SpelledItems (item :: items) inside)
    (enough : inside.length < fuel) :
    items? (fuel + 1) read (inside ++ ']' :: rest) =
      some (.array (read.reverse ++ Value.itemsToSyntax (item :: items)), rest) := by
  cases spelled with
  | last before text after =>
    simp only [List.length_append] at enough
    simp only [List.append_assoc]
    rw [items?_last after (reads.padded before text after (by omega) (Or.inr (Or.inl rfl)))]
    simp [Value.itemsToSyntax]
  | more before text after others =>
    simp only [List.length_append, List.length_cons] at enough
    simp only [List.append_assoc, List.cons_append]
    rw [items?_more after (reads.padded before text after (by omega) (Or.inl rfl)),
      reads.items others (by omega)]
    simp [Value.itemsToSyntax]

/-- One field more is read back. -/
theorem fields_succ (reads : ReadsBack fuel) {field : String × Value}
    {fields : List (String × Value)} {inside : List Char} {read : List (Option String × Syntax)}
    (spelled : SpelledFields (field :: fields) inside) (enough : inside.length < fuel) :
    fields? (fuel + 1) read (inside ++ '\x7d' :: rest) =
      some (.object (read.reverse ++ Value.fieldsToSyntax (field :: fields)), rest) := by
  cases spelled with
  | last before between text after =>
    simp only [List.length_append, List.length_cons] at enough
    simp only [List.append_assoc, List.cons_append]
    rw [before.fields?_append, fields?_last _ after
      (reads.padded between text after (by omega) (Or.inr (Or.inr rfl)))]
    simp [Value.fieldsToSyntax]
  | more before between text after others =>
    simp only [List.length_append, List.length_cons] at enough
    simp only [List.append_assoc, List.cons_append]
    rw [before.fields?_append, fields?_more _ after
      (reads.padded between text after (by omega) (Or.inl rfl)), reads.fields others (by omega)]
    simp [Value.fieldsToSyntax]

end ReadsBack

/-- Values, elements and fields are read with the fuel that is left, so all three go together. -/
theorem readsBack (fuel : Nat) : ReadsBack fuel := by
  induction fuel with
  | zero =>
    exact ⟨fun _ enough => absurd enough (Nat.not_lt_zero _),
      fun _ enough => absurd enough (Nat.not_lt_zero _),
      fun _ enough => absurd enough (Nat.not_lt_zero _)⟩
  | succ fuel reads =>
    exact ⟨reads.value_succ, fun spelled enough => reads.items_succ spelled (by omega),
      fun spelled enough => reads.fields_succ spelled (by omega)⟩

/-- **Every text of a value is read back.** -/
theorem Spelled.ofChars? {value : Value} {text : List Char} (spelled : Spelled value text) :
    Syntax.ofChars? text = some value.toSyntax := by
  have read : value? (text.length + 1) (text ++ []) = some (value.toSyntax, []) :=
    (readsBack _).value spelled (Nat.lt_succ_self _) trivial
  rw [List.append_nil] at read
  unfold Syntax.ofChars?
  rw [read]
  rfl

/-! ### Compact and indented texts -/

mutual

theorem spelled_compact : ∀ value : Value, Spelled value value.compact.toList
  | .null => .null
  | .bool value => .bool value
  | .integer value => .integer value
  | .string text => .string text
  | .array items => by
    have text : (Value.array items).compact.toList =
        '[' :: ((Value.compactItems items).toList ++ [']']) := by simp [Value.compact]
    rw [text]
    exact .array (spelled_compactItems items)
  | .object fields => by
    have text : (Value.object fields).compact.toList =
        '\x7b' :: ((Value.compactFields fields).toList ++ ['\x7d']) := by simp [Value.compact]
    rw [text]
    exact .object (spelled_compactFields fields)

theorem spelled_compactItems :
    ∀ items : List Value, SpelledItems items (Value.compactItems items).toList
  | [] => .none blank_nil
  | [item] => by
    have spelled : SpelledItems [item] ([] ++ (item.compact.toList ++ [])) :=
      .last blank_nil (spelled_compact item) blank_nil
    simpa [Value.compactItems] using spelled
  | item :: next :: items => by
    have spelled : SpelledItems (item :: next :: items)
        ([] ++ (item.compact.toList ++
          ([] ++ ',' :: (Value.compactItems (next :: items)).toList))) :=
      .more blank_nil (spelled_compact item) blank_nil (spelled_compactItems (next :: items))
    simpa [Value.compactItems] using spelled

theorem spelled_compactFields :
    ∀ fields : List (String × Value), SpelledFields fields (Value.compactFields fields).toList
  | [] => .none blank_nil
  | [(name, value)] => by
    have spelled : SpelledFields [(name, value)]
        ([] ++ ((quoted name).toList ++ ':' :: ([] ++ (value.compact.toList ++ [])))) :=
      .last blank_nil blank_nil (spelled_compact value) blank_nil
    simpa [Value.compactFields] using spelled
  | (name, value) :: next :: fields => by
    have spelled : SpelledFields ((name, value) :: next :: fields)
        ([] ++ ((quoted name).toList ++ ':' :: ([] ++ (value.compact.toList ++
          ([] ++ ',' :: (Value.compactFields (next :: fields)).toList))))) :=
      .more blank_nil blank_nil (spelled_compact value) blank_nil
        (spelled_compactFields (next :: fields))
    simpa [Value.compactFields] using spelled

end

theorem blank_lineAt (level : Nat) : Blank (Value.lineAt level).toList := by
  intro c member
  simp only [Value.lineAt, String.toList_append, String.toList_ofList, List.mem_append,
    List.mem_replicate] at member
  rcases member with feed | ⟨_, rfl⟩
  · obtain rfl := List.mem_singleton.mp feed
    rfl
  · rfl

mutual

/-- The line feed in front of a closing bracket stands behind the last element or field. -/
theorem spelled_prettyAt : ∀ (level : Nat) (value : Value),
    Spelled value (value.prettyAt level).toList
  | _, .null => .null
  | _, .bool value => .bool value
  | _, .integer value => .integer value
  | _, .string text => .string text
  | _, .array [] => spelled_compact (.array [])
  | level, .array (item :: items) => by
    have text : ((Value.array (item :: items)).prettyAt level).toList =
        '[' :: ((Value.prettyItems (level + 1) (item :: items)).toList ++
          (Value.lineAt level).toList ++ [']']) := by simp [Value.prettyAt]
    rw [text]
    exact .array (spelled_prettyItems (level + 1) (blank_lineAt level) (item :: items))
  | _, .object [] => spelled_compact (.object [])
  | level, .object (field :: fields) => by
    have text : ((Value.object (field :: fields)).prettyAt level).toList =
        '\x7b' :: ((Value.prettyFields (level + 1) (field :: fields)).toList ++
          (Value.lineAt level).toList ++ ['\x7d']) := by simp [Value.prettyAt]
    rw [text]
    exact .object (spelled_prettyFields (level + 1) (blank_lineAt level) (field :: fields))

theorem spelled_prettyItems (level : Nat) {after : List Char} (blank : Blank after) :
    ∀ items : List Value, SpelledItems items ((Value.prettyItems level items).toList ++ after)
  | [] => .none blank
  | [item] => by
    have spelled := SpelledItems.last (blank_lineAt level) (spelled_prettyAt level item) blank
    simpa [Value.prettyItems] using spelled
  | item :: next :: items => by
    have spelled := SpelledItems.more (blank_lineAt level) (spelled_prettyAt level item) blank_nil
      (spelled_prettyItems level blank (next :: items))
    simpa [Value.prettyItems] using spelled

theorem spelled_prettyFields (level : Nat) {after : List Char} (blank : Blank after) :
    ∀ fields : List (String × Value),
      SpelledFields fields ((Value.prettyFields level fields).toList ++ after)
  | [] => .none blank
  | [(name, value)] => by
    have spelled := @SpelledFields.last name _ _ _ _ _ (blank_lineAt level) blank_space
      (spelled_prettyAt level value) blank
    simpa [Value.prettyFields] using spelled
  | (name, value) :: next :: fields => by
    have spelled := @SpelledFields.more name _ _ _ _ _ _ _ _ (blank_lineAt level) blank_space
      (spelled_prettyAt level value) blank_nil (spelled_prettyFields level blank (next :: fields))
    simpa [Value.prettyFields] using spelled

end

/-- **The compact text of a value is read back.** -/
theorem ofText?_compact (value : Value) : Syntax.ofText? value.compact = some value.toSyntax :=
  (spelled_compact value).ofChars?

/-- **The indented text of a value is read back.** -/
theorem ofText?_pretty (value : Value) : Syntax.ofText? value.pretty = some value.toSyntax :=
  (spelled_prettyAt 0 value).ofChars?

/-! ### One line -/

/-- A text without control characters, hence without line breaks. -/
def Printable (text : String) : Prop := ∀ c ∈ text.toList, 32 ≤ c.toNat

instance (text : String) : Decidable (Printable text) :=
  List.decidableBAll (fun c : Char => 32 ≤ c.toNat) text.toList

theorem Printable.append {first second : String} (printable : Printable first)
    (printableSecond : Printable second) : Printable (first ++ second) := by
  intro c member
  rw [String.toList_append] at member
  exact (List.mem_append.mp member).elim (printable c) (printableSecond c)

theorem printable_quoted (text : String) : Printable (quoted text) := by
  have digit : ∀ n < 16, 32 ≤ (hexDigit n).toNat := by decide
  have escaped : ∀ c : Char, ∀ d ∈ escapeChar c, 32 ≤ d.toNat := by
    intro c
    unfold escapeChar
    split_ifs with _ _ _ _ _ _ _ control
    iterate 7 simp
    · simp only [List.forall_mem_cons]
      exact ⟨by decide, by decide, by decide, by decide, digit _ (by omega), digit _ (by omega),
        by simp⟩
    · simpa using control
  intro d member
  rw [toList_quoted, List.mem_cons, List.mem_append, List.mem_singleton, List.mem_flatMap] at member
  rcases member with rfl | ⟨c, _, member⟩ | rfl
  · decide
  · exact escaped c d member
  · decide

theorem printable_toString (value : Int) : Printable (toString value) := by
  have digits : ∀ (n : Nat), ∀ c ∈ Nat.toDigits 10 n, 32 ≤ c.toNat := by
    intro n c member
    have digit := isDigit_of_mem_toDigits member
    simp only [Char.isDigit, Bool.and_eq_true, decide_eq_true_eq] at digit
    exact Nat.le_trans (by decide) digit.1
  intro c member
  cases value with
  | ofNat n =>
    rw [toList_toString_ofNat] at member
    exact digits n c member
  | negSucc n =>
    rw [toList_toString_negSucc] at member
    rcases List.mem_cons.mp member with rfl | member
    · decide
    · exact digits (n + 1) c member

mutual

/-- **The compact text of a value stands on one line.** -/
theorem printable_compact : ∀ value : Value, Printable value.compact
  | .null => show Printable "null" by decide
  | .bool true => show Printable "true" by decide
  | .bool false => show Printable "false" by decide
  | .integer value => printable_toString value
  | .string text => printable_quoted text
  | .array items =>
    (Printable.append (by decide) (printable_compactItems items)).append (by decide)
  | .object fields =>
    (Printable.append (by decide) (printable_compactFields fields)).append (by decide)

theorem printable_compactItems : ∀ items : List Value, Printable (Value.compactItems items)
  | [] => show Printable "" by decide
  | [item] => printable_compact item
  | item :: next :: items =>
    ((printable_compact item).append (by decide)).append (printable_compactItems (next :: items))

theorem printable_compactFields :
    ∀ fields : List (String × Value), Printable (Value.compactFields fields)
  | [] => show Printable "" by decide
  | [(name, value)] =>
    ((printable_quoted name).append (by decide)).append (printable_compact value)
  | (name, value) :: next :: fields =>
    ((((printable_quoted name).append (by decide)).append (printable_compact value)).append
      (by decide)).append (printable_compactFields (next :: fields))

end

end DeclGraph.Json
