/-
**Keys of foreign declarations.**

An external parser names a method by its receiver and its own name, with a point between them. The
receiver is plain (`Stack[T].Push`) or stands in braces behind its position
(`&{0xc0001 Stack[T]}.Pop`). Type parameters in brackets do not belong to the name of the receiver.

* `Key.receiver`, `Key.method`: the two parts of a key;
* `Key.withoutGroups`: a text without its bracketed groups. A group begins at a `[` and ends at the
  first `]` behind it, which must stand on the same line.
-/

import DeclGraph.Text.Blank

namespace DeclGraph.Key

/-! ### Bracketed groups -/

/-- What follows the first closing bracket of a line. -/
def behindBracket? : List Char → Option (List Char)
  | [] => none
  | c :: rest => if c = ']' then some rest else if c = '\n' then none else behindBracket? rest

theorem length_behindBracket? {chars rest : List Char} (found : behindBracket? chars = some rest) :
    rest.length < chars.length := by
  induction chars with
  | nil => simp [behindBracket?] at found
  | cons c chars ih =>
    unfold behindBracket? at found
    split at found
    · simp_all
    · split at found
      · simp at found
      · have := ih found
        simp only [List.length_cons]
        omega

/-- A list of characters without its bracketed groups. -/
def withoutGroups : List Char → List Char
  | [] => []
  | c :: rest =>
    if c = '[' then
      match found : behindBracket? rest with
      | some after =>
        have := length_behindBracket? found
        withoutGroups after
      | none => c :: withoutGroups rest
    else c :: withoutGroups rest
termination_by chars => chars.length
decreasing_by all_goals simp only [List.length_cons]; omega

/-! ### The parts of a key -/

/-- Whether a character is a brace. -/
def isBrace (c : Char) : Bool := c == '\x7b' || c == '\x7d'

/-- What stands between the first two braces; nothing if there is no brace. -/
def betweenBraces (chars : List Char) : List Char :=
  (chars.dropWhile fun c => !isBrace c).tail.takeWhile fun c => !isBrace c

/-- What follows the last of some characters that act as a separator. -/
def afterLast (separator : Char) (chars : List Char) : List Char :=
  (chars.reverse.takeWhile (· != separator)).reverse

/-- Whether the receiver stands in braces. -/
def isBraced (chars : List Char) : Bool := chars.head? == some '&' || chars.head? == some '\x7b'

/-- The receiver as the key spells it. In braces it is the last word. -/
def spelledReceiver (chars : List Char) : List Char :=
  if isBraced chars then afterLast ' ' (Text.trimChars (betweenBraces chars))
  else chars.takeWhile (· != '.')

/-- The name of the receiver. -/
def receiver (key : String) : String :=
  String.ofList (Text.trimChars (withoutGroups (spelledReceiver key.toList)))

/-- The name of the method: what follows the last point. -/
def method (key : String) : String := String.ofList (afterLast '.' key.toList)

end DeclGraph.Key
