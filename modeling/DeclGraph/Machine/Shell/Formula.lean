/-
**Formulas in shell scripts.**

Integers, names of parameters, and operators with the usual precedence. A comparison gives one or
zero, and so does a logical operator.

* `Formula.value?`: the value of a formula.
-/

namespace DeclGraph.Shell.Formula

/-- A token of a formula. -/
inductive Token where
  | number (value : Int)
  | name (text : String)
  | sign (text : String)
  deriving DecidableEq, Repr, Inhabited

/-- The signs of two characters. -/
def longSigns : List String := ["&&", "||", "==", "!=", "<=", ">=", "<<", ">>"]

/-- An integer in a signed word of 64 bits; what does not fit is cut off. -/
def wrapped (value : Int) : Int := (BitVec.ofInt 64 value).toInt

/-- The number that some digits in a base stand for. -/
def numberIn (base : Nat) (digits : List Char) : Int :=
  digits.foldl (fun value digit =>
    value * base + (if digit.isDigit then digit.toNat - 48 else digit.toLower.toNat - 87)) 0

/-- The digits of a number: sixteen of them behind `0x`, eight behind `0`, ten elsewhere. -/
def numberOf (digits : List Char) : Int :=
  match digits with
  | '0' :: 'x' :: digits | '0' :: 'X' :: digits => numberIn 16 digits
  | '0' :: digits => numberIn 8 digits
  | digits => numberIn 10 digits

/-- The tokens of a formula. -/
def tokens? (read : List Token) : Nat → List Char → Option (List Token)
  | _, [] => some read.reverse
  | 0, _ => none
  | steps + 1, c :: rest =>
    if c.isWhitespace then tokens? read steps rest
    else if c.isDigit then
      let (digits, rest) := (c :: rest).span Char.isAlphanum
      tokens? (.number (numberOf digits) :: read) steps rest
    else if c.isAlpha || c = '_' then
      let (name, rest) := (c :: rest).span fun c => c.isAlphanum || c = '_'
      tokens? (.name (String.ofList name) :: read) steps rest
    else
      match rest with
      | d :: tail =>
        if longSigns.contains (String.ofList [c, d]) then
          tokens? (.sign (String.ofList [c, d]) :: read) steps tail
        else tokens? (.sign (String.ofList [c]) :: read) steps rest
      | [] => tokens? (.sign (String.ofList [c]) :: read) steps []

/-- How strongly an operator binds. -/
def strength? : String → Option Nat
  | "||" => some 1
  | "&&" => some 2
  | "|" => some 3
  | "^" => some 4
  | "&" => some 5
  | "==" | "!=" => some 6
  | "<" | ">" | "<=" | ">=" => some 7
  | "<<" | ">>" => some 8
  | "+" | "-" => some 9
  | "*" | "/" | "%" => some 10
  | _ => none

/-- One or zero. -/
def ofBool (value : Bool) : Int := if value then 1 else 0

/-- The value of an operator. Division goes towards zero, and nothing can be divided by zero. -/
def operate? (operator : String) (first second : Int) : Option Int :=
  match operator with
  | "||" => some (ofBool (first != 0 || second != 0))
  | "&&" => some (ofBool (first != 0 && second != 0))
  | "==" => some (ofBool (first == second))
  | "!=" => some (ofBool (first != second))
  | "<" => some (ofBool (first < second))
  | ">" => some (ofBool (first > second))
  | "<=" => some (ofBool (first ≤ second))
  | ">=" => some (ofBool (first ≥ second))
  | "|" => some (BitVec.ofInt 64 first ||| BitVec.ofInt 64 second).toInt
  | "^" => some (BitVec.ofInt 64 first ^^^ BitVec.ofInt 64 second).toInt
  | "&" => some (BitVec.ofInt 64 first &&& BitVec.ofInt 64 second).toInt
  | "<<" => some (first * (Nat.pow 2 (second % 64).toNat : Nat))
  | ">>" => some (first / (Nat.pow 2 (second % 64).toNat : Nat))
  | "+" => some (first + second)
  | "-" => some (first - second)
  | "*" => some (first * second)
  | "/" => if second = 0 then none else some (first.tdiv second)
  | "%" => if second = 0 then none else some (first.tmod second)
  | _ => none

mutual

/-- An operand, and what follows. -/
def operand? (lookup : String → Int) : Nat → List Token → Option (Int × List Token)
  | 0, _ => none
  | fuel + 1, tokens =>
    match tokens with
    | .number value :: rest => some (value, rest)
    | .name name :: rest => some (lookup name, rest)
    | .sign "(" :: rest =>
      match choice? lookup fuel rest with
      | some (value, .sign ")" :: rest) => some (value, rest)
      | _ => none
    | .sign "-" :: rest => (operand? lookup fuel rest).map fun (value, rest) => (-value, rest)
    | .sign "+" :: rest => operand? lookup fuel rest
    | .sign "!" :: rest =>
      (operand? lookup fuel rest).map fun (value, rest) => (ofBool (value == 0), rest)
    | .sign "~" :: rest => (operand? lookup fuel rest).map fun (value, rest) => (-value - 1, rest)
    | _ => none

/-- Operators of a strength at least, from the left. -/
def operators? (lookup : String → Int) :
    Nat → Nat → Int → List Token → Option (Int × List Token)
  | 0, _, _, _ => none
  | fuel + 1, least, first, tokens =>
    match tokens with
    | .sign operator :: rest =>
      match strength? operator with
      | none => some (first, tokens)
      | some strength =>
        if strength < least then some (first, tokens)
        else
          match operand? lookup fuel rest with
          | none => none
          | some (second, rest) =>
            match operators? lookup fuel (strength + 1) second rest with
            | none => none
            | some (second, rest) =>
              match operate? operator first second with
              | some value => operators? lookup fuel least (wrapped value) rest
              | none => none
    | _ => some (first, tokens)

/-- A formula with a choice between two values, and what follows. -/
def choice? (lookup : String → Int) : Nat → List Token → Option (Int × List Token)
  | 0, _ => none
  | fuel + 1, tokens =>
    match operand? lookup fuel tokens with
    | none => none
    | some (first, rest) =>
      match operators? lookup fuel 0 first rest with
      | some (value, .sign "?" :: rest) =>
        match choice? lookup fuel rest with
        | some (yes, .sign ":" :: rest) =>
          (choice? lookup fuel rest).map fun (no, rest) => (if value = 0 then no else yes, rest)
        | _ => none
      | result => result

end

/-- The value of a formula; nothing is zero. -/
def value? (lookup : String → Int) (formula : String) : Option Int :=
  match tokens? [] (formula.length + 1) formula.toList with
  | some [] => some 0
  | some tokens =>
    match choice? lookup (8 * tokens.length + 8) tokens with
    | some (value, []) => some value
    | _ => none
  | none => none

end DeclGraph.Shell.Formula
