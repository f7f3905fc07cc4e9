/-
**Names without points.**

A word holds no point, so names in a tree hold none, other than the dotted names of imports. The
grammar is followed function by function: from a place where no point is in the word ahead, a parser
gives trees without points in their names and stops at such a place again.

* `Text.Undotted`: a text without points;
* `Tree.Plain`: a tree in which no name holds a point;
* `Ahead.Sound`: what is known of the next token;
* **`Ahead.sound_read`**: it is known wherever a token is read;
* **`Parser.Gives`**: what a parser gives is good, and leaves a sound place;
* `Gives.bind`, `Gives.repeated`, `Gives.orElse`: parsers in sequence, in a loop, and in place of
  one another.
-/

import DeclGraph.Syntax.Context

namespace DeclGraph

/-- A text without points. -/
def Text.Undotted (text : String) : Prop := '.' ∉ text.toList

instance (text : String) : Decidable (Text.Undotted text) :=
  inferInstanceAs (Decidable ('.' ∉ text.toList))

namespace Syntax

open Text (Undotted)

theorem undotted_empty : Undotted "" := by decide

/-! ### Words -/

theorem Cursor.mem_spanFrom {belongs : Char → Bool} {position : Position} {offset : Nat}
    {taken rest : List Char} {c : Char}
    (member : c ∈ (spanFrom belongs position offset taken rest).1) :
    c ∈ taken ∨ belongs c = true := by
  induction rest generalizing position offset taken with
  | nil => exact Or.inl (List.mem_reverse.mp member)
  | cons next rest ih =>
    unfold spanFrom at member
    split at member
    next isNext =>
      rcases ih member with held | belong
      · rcases List.mem_cons.mp held with rfl | before
        · exact Or.inr isNext
        · exact Or.inl before
      · exact Or.inr belong
    next => exact Or.inl (List.mem_reverse.mp member)

/-- **A word holds no point.** -/
theorem Token.undotted_of_plain {cursor : Cursor} {text : String}
    (isWord : (plain cursor).1 = .word text) : Undotted text := by
  unfold plain at isWord
  split at isWord
  · cases isWord
  split at isWord
  · cases isWord
    intro member
    rw [String.toList_ofList] at member
    rcases Cursor.mem_spanFrom member with none | belongs
    · cases none
    · revert belongs
      decide +kernel
  split at isWord
  · cases isWord
  split at isWord
  · cases isWord
  split at isWord <;> cases isWord

/-! ### Trees -/

/-- **No name in a tree holds a point.** -/
inductive Tree.Plain : Tree → Prop
  | node {label : Label} {children : List Tree} : Undotted label.text →
      (∀ child ∈ children, Plain child) → Plain (.node label children)

/-- No name in several trees holds a point. -/
def Tree.PlainAll (trees : List Tree) : Prop := ∀ tree ∈ trees, tree.Plain

namespace Tree

@[simp]
theorem plainAll_nil : PlainAll [] := fun _ member => by cases member

@[simp]
theorem plainAll_cons {tree : Tree} {trees : List Tree} :
    PlainAll (tree :: trees) ↔ tree.Plain ∧ PlainAll trees := List.forall_mem_cons

@[simp]
theorem plainAll_append {first second : List Tree} :
    PlainAll (first ++ second) ↔ PlainAll first ∧ PlainAll second := List.forall_mem_append

@[simp]
theorem plainAll_reverse {trees : List Tree} : PlainAll trees.reverse ↔ PlainAll trees := by
  simp only [PlainAll, List.mem_reverse]

@[simp]
theorem plain_withRole {tree : Tree} {role : Role} : (tree.withRole role).Plain ↔ tree.Plain := by
  obtain ⟨label, children⟩ := tree
  constructor
  · rintro ⟨text, below⟩
    exact ⟨text, below⟩
  · rintro ⟨text, below⟩
    exact ⟨text, below⟩

theorem plain_leaf {label : Label} (text : Undotted label.text) : (node label []).Plain :=
  ⟨text, plainAll_nil⟩

end Tree

/-! ### The next token -/

/-- **What is known of the next token**: a word holds no point, and neither do the names in front of
it. -/
structure Ahead.Sound (ahead : Ahead) : Prop where
  word : ∀ text, ahead.token = .word text → Undotted text
  trivia : Tree.PlainAll ahead.trivia

namespace Ahead

theorem sound_readFrom (admitted : Admitted) (before : Cursor) (reader : Reader)
    {trivia : List Tree} (plain : Tree.PlainAll trivia) (steps : Nat) :
    (readFrom admitted before reader trivia steps).Sound := by
  induction steps generalizing reader trivia with
  | zero => exact ⟨fun _ isWord => (nomatch isWord), Tree.plainAll_reverse.mpr plain⟩
  | succ steps ih =>
    unfold readFrom
    dsimp only
    split
    next token _ =>
      refine ⟨fun text isWord => ?_, Tree.plainAll_reverse.mpr plain⟩
      cases token <;> cases isWord
    split
    next => exact ⟨fun _ isWord => (nomatch isWord), Tree.plainAll_reverse.mpr plain⟩
    split
    next => exact ih _ (Tree.plainAll_cons.mpr ⟨Tree.plain_leaf undotted_empty, plain⟩)
    next =>
      exact ⟨fun _ isWord => Token.undotted_of_plain isWord, Tree.plainAll_reverse.mpr plain⟩

/-- **Words are known wherever a token is read.** -/
theorem sound_read (admitted : Admitted) (reader : Reader) : (read admitted reader).Sound :=
  sound_readFrom admitted reader.cursor reader Tree.plainAll_nil reader.budget

end Ahead

namespace Parser

/-! ### Parsers -/

/-- **What a parser gives is good**: from a sound place it stops at a sound place. -/
def Gives {α : Type} (parser : Parser α) (good : α → Prop) : Prop :=
  ∀ ahead value after, ahead.Sound → parser ahead = .ok (value, after) → good value ∧ after.Sound

namespace Gives

variable {α β σ : Type} {good fine : α → Prop} {parser other : Parser α}

theorem mono (gives : parser.Gives good) (weaker : ∀ value, good value → fine value) :
    parser.Gives fine := by
  intro ahead value after sound runs
  exact (gives ahead value after sound runs).imp_left (weaker value)

theorem pure {value : α} (isGood : good value) : Gives (pure value) good := by
  intro ahead _ _ sound runs
  cases runs
  exact ⟨isGood, sound⟩

/-- One parser after another. -/
theorem bind {best : β → Prop} {rest : α → Parser β} (first : parser.Gives good)
    (next : ∀ value, good value → (rest value).Gives best) : Gives (parser >>= rest) best := by
  intro ahead value after sound runs
  have runs : (parser ahead >>= fun stopped => rest stopped.1 stopped.2) = .ok (value, after) :=
    runs
  cases started : parser ahead with
  | error _ =>
    rw [started] at runs
    cases runs
  | ok stopped =>
    rw [started] at runs
    obtain ⟨isGood, there⟩ := first ahead _ _ sound started
    exact next _ isGood _ _ _ there runs

/-- What is read of the place itself. -/
theorem get : Gives get Ahead.Sound := by
  intro ahead _ _ sound runs
  cases runs
  exact ⟨sound, sound⟩

theorem modify {change : Ahead → Ahead} (keeps : ∀ ahead, ahead.Sound → (change ahead).Sound) :
    Gives (modify change) fun _ => True := by
  intro ahead _ _ sound runs
  cases runs
  exact ⟨trivial, keeps ahead sound⟩

theorem set {ahead : Ahead} (sound : ahead.Sound) : Gives (set ahead) fun _ => True := by
  intro _ _ _ _ runs
  cases runs
  exact ⟨trivial, sound⟩

theorem fail : Gives fail good := by
  intro _ _ _ _ runs
  cases runs

/-- A second reading of the same place. -/
theorem orElse (first : parser.Gives good) (second : other.Gives good) :
    (orElse parser other).Gives good := by
  intro ahead value after sound runs
  unfold Parser.orElse at runs
  cases reads : parser ahead with
  | ok _ =>
    rw [reads] at runs
    cases runs
    exact first _ _ _ sound reads
  | error _ =>
    rw [reads] at runs
    exact second _ _ _ sound runs

theorem loop {invariant : σ → Prop} {step : σ → Parser (σ ⊕ α)}
    (each : ∀ state, invariant state → (step state).Gives (Sum.elim invariant good)) (count : Nat)
    {state : σ} (start : invariant state) : (loop step count state).Gives good := by
  induction count generalizing state with
  | zero => exact fail
  | succ count ih =>
    refine (each state start).bind fun result isGood => ?_
    cases result with
    | inl state => exact ih isGood
    | inr value => exact pure isGood

/-- A loop whose steps keep what is known of the state. -/
theorem repeated (invariant : σ → Prop) {step : σ → Parser (σ ⊕ α)} {state : σ}
    (start : invariant state)
    (each : ∀ state, invariant state → (step state).Gives (Sum.elim invariant good)) :
    (repeated state step).Gives good :=
  get.bind fun _ _ => loop each _ start

/-- A loop whose result is one of its states. -/
theorem repeatedKeeping (invariant : σ → Prop) {step : σ → Parser (σ ⊕ σ)} {state : σ}
    (start : invariant state)
    (each : ∀ state, invariant state → (step state).Gives (Sum.elim invariant invariant)) :
    (Parser.repeated state step).Gives invariant :=
  repeated invariant start each

/-- A loop that collects trees. -/
theorem repeatedTrees {step : List Tree → Parser (List Tree ⊕ List Tree)} {trees : List Tree}
    (start : Tree.PlainAll trees)
    (each : ∀ trees, Tree.PlainAll trees →
      (step trees).Gives (Sum.elim Tree.PlainAll Tree.PlainAll)) :
    (Parser.repeated trees step).Gives Tree.PlainAll :=
  repeatedKeeping Tree.PlainAll start each

/-- A loop that goes on over tokens and gives nothing. -/
theorem repeatedSteps {step : Unit → Parser (Unit ⊕ Unit)}
    (each : (step ()).Gives fun _ => True) : (Parser.repeated () step).Gives fun _ => True :=
  repeated (fun _ => True) trivial fun _ _ => each.mono fun result _ => by cases result <;> trivial

end Gives

/-! ### Tokens and nodes -/

variable {text : String} {kind : Kind} {admitted : Admitted} {start : Position}

theorem token_gives : token.Gives fun token => ∀ text, token = .word text → Undotted text :=
  Gives.get.bind fun _ sound => .pure sound.word

theorem place_gives : place.Gives fun _ => True := Gives.get.bind fun _ _ => .pure trivial

theorem stopped_gives : stopped.Gives fun _ => True := Gives.get.bind fun _ _ => .pure trivial

theorem trivia_gives : trivia.Gives Tree.PlainAll :=
  Gives.get.bind fun _ sound => .pure sound.trivia

theorem advance_gives : (advance admitted).Gives fun _ => True :=
  .modify fun _ _ => Ahead.sound_read _ _

theorem leaf_gives (undotted : Undotted text) : (leaf kind text).Gives Tree.Plain :=
  Gives.get.bind fun _ _ => .pure (Tree.plain_leaf undotted)

theorem take_gives : (take kind admitted).Gives Tree.Plain :=
  (leaf_gives undotted_empty).bind fun _ plain => advance_gives.bind fun _ _ => .pure plain

theorem isMark_gives : (isMark text).Gives fun _ => True :=
  token_gives.bind fun _ _ => .pure trivial

theorem isWord_gives : (isWord text).Gives fun _ => True :=
  token_gives.bind fun _ _ => .pure trivial

theorem mark_gives : (mark text admitted).Gives Tree.Plain := by
  refine isMark_gives.bind fun _ _ => ?_
  split
  · exact take_gives
  · exact .fail

theorem keyword_gives : (keyword text admitted).Gives Tree.Plain := by
  refine isWord_gives.bind fun _ _ => ?_
  split
  · exact take_gives
  · exact .fail

/-- A name is a word. -/
theorem name_gives : (name admitted).Gives Tree.Plain := by
  refine token_gives.bind fun token undotted => ?_
  split
  next text =>
    refine (leaf_gives (undotted text rfl)).bind fun tree plain => ?_
    exact advance_gives.bind fun _ _ => .pure plain
  next => exact .fail

theorem node_gives {children : List Tree} (plain : Tree.PlainAll children) :
    (node kind start children).Gives Tree.Plain :=
  stopped_gives.bind fun _ _ => .pure ⟨undotted_empty, plain⟩

theorem flatten_gives {trees : List Tree} (plain : Tree.PlainAll trees) :
    (flatten start trees).Gives Tree.Plain := by
  unfold flatten
  split
  · exact .pure (Tree.plainAll_cons.mp plain).1
  · exact node_gives plain

end Parser

end Syntax

end DeclGraph
