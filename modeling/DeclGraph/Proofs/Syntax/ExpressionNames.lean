/-
**Names in expressions.**

The trees of expressions, of strings, types, parameters and patterns hold no point in their names,
as long as those of what an expression holds inside do not. The recursion on the depth closes the
circle.

* `expressions_gives`, `elementsAfter_gives`, `trailers_gives`: the loops of the grammar;
* **`goal_gives`**: all that an expression may hold inside;
* `type_gives`, `casePattern_gives`: types and the patterns of cases.
-/

import DeclGraph.Proofs.Syntax.Names
import DeclGraph.Syntax.Annotation
import DeclGraph.Syntax.CasePattern

namespace DeclGraph.Syntax.Parser

open Syntax.Tree (Plain PlainAll)

section Inside

variable {inner : Inner} (inside : ∀ goal, (inner goal).Gives Plain) {context : Context}
  {admitted : Admitted} {closing : String} {first : Tree} {trees : List Tree} {start : Position}

/-! ### What holds no expression inside -/

theorem beginsClauses_gives : beginsClauses.Gives fun _ => True :=
  token_gives.bind fun _ _ => .pure trivial

theorem elementsAfter_gives {one : Parser Tree} (each : one.Gives Plain) (plain : first.Plain) :
    (elementsAfter closing admitted one first).Gives PlainAll := by
  refine .repeatedTrees (by simpa using plain) fun trees plain => isMark_gives.bind fun _ _ => ?_
  split
  · exact take_gives.bind fun last isLast => .pure (by simp [isLast, plain])
  refine mark_gives.bind fun comma isComma => isMark_gives.bind fun _ _ => ?_
  split
  · exact .pure (by simp [isComma, plain])
  · exact each.bind fun tree isTree => .pure (by simp [isTree, isComma, plain])

theorem cursor_gives : cursor.Gives fun _ => True := Gives.get.bind fun _ _ => .pure trivial

theorem goTo_gives {cursor : Cursor} : (goTo cursor).Gives fun _ => True :=
  .modify fun _ sound => ⟨sound.word, sound.trivia⟩

theorem goToMark_gives {text : String} {cursor : Cursor} :
    (goToMark text cursor).Gives fun _ => True :=
  .modify fun _ sound => ⟨fun _ isWord => (nomatch isWord), sound.trivia⟩

include inside

/-! ### Expressions with commas and yields -/

theorem expressionsAfter_gives {ends : List String} (plain : first.Plain) :
    (expressionsAfter inner context ends first).Gives PlainAll := by
  refine .repeatedTrees (by simpa using plain) fun trees plain => isMark_gives.bind fun _ _ => ?_
  split
  · refine take_gives.bind fun comma isComma => token_gives.bind fun next _ => ?_
    split
    · exact .pure (by simp [isComma, plain])
    · exact (inside _).bind fun tree isTree => .pure (by simp [isTree, isComma, plain])
  · exact .pure (by simpa using plain)

theorem expressions_gives {ends : List String} :
    (expressions inner context ends).Gives PlainAll :=
  (inside _).bind fun _ plain => expressionsAfter_gives inside plain

theorem yielded_gives : (yielded inner context).Gives Plain := by
  refine place_gives.bind fun start _ => keyword_gives.bind fun word isWord => ?_
  refine token_gives.bind fun next _ => ?_
  split
  · refine take_gives.bind fun source isSource => (inside _).bind fun tree isTree => ?_
    exact node_gives (by simp [isWord, isSource, isTree])
  split
  · refine (expressions_gives inside).bind fun trees plain => ?_
    exact node_gives (by simp [isWord, plain])
  · exact node_gives (by simp [isWord])

/-! ### Targets -/

theorem starred_gives : (starred inner context).Gives Plain := by
  refine place_gives.bind fun start _ => mark_gives.bind fun star isStar => ?_
  refine (inside _).bind fun tree isTree => ?_
  split
  · exact node_gives (by simp [isStar, isTree])
  split
  · exact node_gives (by simp [isStar, isTree])
  · exact .fail

theorem target_gives : (target inner).Gives Plain := by
  refine isMark_gives.bind fun _ _ => ?_
  extract_lets rest
  have checked : ∀ tree : Tree, tree.Plain → (rest tree).Gives Plain := by
    intro tree plain
    show Gives (if _ then _ else _) _
    split
    · exact .pure plain
    · exact .fail
  split
  · exact (starred_gives inside).bind checked
  · exact (inside _).bind checked

theorem targets_gives : (targets inner).Gives PlainAll := by
  refine (target_gives inside).bind fun first isFirst => ?_
  refine Gives.bind (.repeatedTrees (by simpa using isFirst) fun trees plain => ?_)
    fun trees plain => keyword_gives.bind fun word isWord => .pure (by simp [isWord, plain])
  refine isMark_gives.bind fun _ _ => ?_
  split
  · refine take_gives.bind fun comma isComma => isWord_gives.bind fun _ _ => ?_
    split
    · exact .pure (by simp [isComma, plain])
    · exact (target_gives inside).bind fun tree isTree => .pure (by simp [isTree, isComma, plain])
  · exact .pure plain

/-! ### Displays and comprehensions -/

theorem clauses_gives : (clauses inner).Gives PlainAll := by
  refine .repeatedTrees (by simp) fun trees plain => token_gives.bind fun next _ => ?_
  split
  · refine take_gives.bind fun word isWord => isWord_gives.bind fun _ _ => ?_
    split
    · exact .pure (by simp [isWord, plain])
    · exact .fail
  · refine take_gives.bind fun word isWord => (targets_gives inside).bind fun left isLeft => ?_
    refine (expressions_gives inside).bind fun right isRight => ?_
    exact .pure (by simp [isRight, isLeft, isWord, plain])
  · split
    · exact .fail
    · refine take_gives.bind fun word isWord => (inside _).bind fun tree isTree => ?_
      exact .pure (by simp [isTree, isWord, plain])
  · exact .pure (by simpa using plain)

theorem comprehension_gives {body : Tree} (plain : body.Plain) :
    (comprehension inner closing admitted body).Gives PlainAll := by
  unfold comprehension
  split
  · refine (clauses_gives inside).bind fun trees areClauses => mark_gives.bind fun last isLast => ?_
    exact .pure (by simp [plain, areClauses, isLast])
  · exact .fail

theorem element_gives : (element inner).Gives Plain := by
  refine token_gives.bind fun next _ => ?_
  split
  · exact yielded_gives inside
  · refine place_gives.bind fun start _ => take_gives.bind fun star isStar => ?_
    exact (inside _).bind fun tree isTree => node_gives (by simp [isStar, isTree])
  · exact inside _

theorem bracketed_gives {kind : Kind} {opening : String} :
    (bracketed inner context kind opening closing).Gives Plain := by
  refine place_gives.bind fun start _ => mark_gives.bind fun bracket isBracket => ?_
  refine isMark_gives.bind fun _ _ => ?_
  split
  · exact take_gives.bind fun last isLast => node_gives (by simp [isBracket, isLast])
  refine (element_gives inside).bind fun first isFirst => beginsClauses_gives.bind fun _ _ => ?_
  split
  · refine (comprehension_gives inside isFirst).bind fun trees plain => ?_
    exact node_gives (by simp [isBracket, plain])
  · refine (elementsAfter_gives (element_gives inside) isFirst).bind fun trees plain => ?_
    exact node_gives (by simp [isBracket, plain])

theorem unpacked_gives : (unpacked inner).Gives Plain := by
  refine place_gives.bind fun start _ => mark_gives.bind fun stars areStars => ?_
  exact (inside _).bind fun tree isTree => node_gives (by simp [areStars, isTree])

theorem pairAfter_gives {key : Tree} (plain : key.Plain) :
    (pairAfter inner start key).Gives Plain := by
  refine mark_gives.bind fun colon isColon => (inside _).bind fun value isValue => ?_
  exact node_gives (by simp [plain, isColon, isValue])

theorem entry_gives : (entry inner).Gives Plain := by
  refine isMark_gives.bind fun _ _ => ?_
  split
  · exact unpacked_gives inside
  · exact place_gives.bind fun start _ => (inside _).bind fun key => pairAfter_gives inside

theorem braceContent_gives : (braceContent inner admitted).Gives PlainAll := by
  refine isMark_gives.bind fun _ _ => ?_
  split
  · exact (unpacked_gives inside).bind fun first => elementsAfter_gives (entry_gives inside)
  refine place_gives.bind fun start _ => (element_gives inside).bind fun first isFirst => ?_
  refine isMark_gives.bind fun _ _ => ?_
  split
  · refine (pairAfter_gives inside isFirst).bind fun pair isPair => ?_
    refine beginsClauses_gives.bind fun _ _ => ?_
    split
    · exact comprehension_gives inside isPair
    · exact elementsAfter_gives (entry_gives inside) isPair
  refine beginsClauses_gives.bind fun _ _ => ?_
  split
  · exact comprehension_gives inside isFirst
  · exact elementsAfter_gives (element_gives inside) isFirst

theorem braced_gives : (braced inner context).Gives Plain := by
  refine place_gives.bind fun start _ => mark_gives.bind fun brace isBrace => ?_
  refine token_gives.bind fun next _ => ?_
  split
  · exact take_gives.bind fun last isLast => node_gives (by simp [isBrace, isLast])
  · refine take_gives.bind fun comma isComma => mark_gives.bind fun last isLast => ?_
    exact node_gives (by simp [isBrace, isComma, isLast])
  · refine (braceContent_gives inside).bind fun trees plain => ?_
    exact node_gives (by simp [isBrace, plain])

/-! ### Strings and their fields -/

theorem fields_gives {quotation : Quotation} : (fields inner quotation).Gives PlainAll := by
  refine .repeated (fun state => PlainAll state.1) (by simp) ?_
  rintro ⟨trees, inLine⟩ plain
  refine cursor_gives.bind fun cursor _ => ?_
  split
  · exact goTo_gives.bind fun _ _ => .pure plain
  · exact goTo_gives.bind fun _ _ => .pure plain
  · refine goToMark_gives.bind fun _ _ => (inside _).bind fun tree isTree => ?_
    exact .pure (Tree.plainAll_cons.mpr ⟨isTree, plain⟩)
  · exact goTo_gives.bind fun _ _ => .pure (Tree.plainAll_reverse.mpr plain)
  · exact .fail

theorem string_gives {quotation : Quotation} :
    (string inner quotation admitted).Gives Plain := by
  refine place_gives.bind fun start _ => (fields_gives inside).bind fun trees plain => ?_
  refine Gives.bind (.modify fun _ sound => ⟨sound.word, sound.trivia⟩) fun _ _ => ?_
  refine cursor_gives.bind fun cursor _ => advance_gives.bind fun _ _ => node_gives ?_
  refine Tree.plainAll_append.mpr ⟨plain, Tree.plainAll_cons.mpr ⟨?_, Tree.plainAll_nil⟩⟩
  exact Tree.plain_leaf undotted_empty

theorem strings_gives : (strings inner context).Gives Plain := by
  refine place_gives.bind fun start _ => ?_
  refine Gives.bind (.repeatedTrees (by simp) fun trees plain => ?_) fun trees => flatten_gives
  refine token_gives.bind fun next _ => ?_
  split
  · exact (string_gives inside).bind fun tree isTree => .pure (by simp [isTree, plain])
  · exact .pure (by simpa using plain)

theorem shown_gives : (shown inner).Gives PlainAll := by
  refine isWord_gives.bind fun _ _ => ?_
  split
  · exact (yielded_gives inside).bind fun tree isTree => .pure (by simpa using isTree)
  · exact expressions_gives inside

theorem format_gives : (format inner).Gives PlainAll := by
  refine .repeatedTrees (by simp) fun trees plain => cursor_gives.bind fun cursor _ => ?_
  split
  · exact goToMark_gives.bind fun _ _ => .pure (by simpa using plain)
  · refine goToMark_gives.bind fun _ _ => (inside _).bind fun tree isTree => ?_
    exact .pure (by simp [isTree, plain])
  · exact goTo_gives.bind fun _ _ => .pure plain
  · exact .fail

theorem formatAfter_gives : (formatAfter inner).Gives PlainAll := by
  refine token_gives.bind fun next _ => ?_
  split
  · exact format_gives inside
  · exact Gives.get.bind fun _ _ => goTo_gives.bind fun _ _ => format_gives inside
  · exact .pure (by simp)
  · exact .fail

theorem field_gives : (field inner).Gives Plain := by
  refine place_gives.bind fun start _ => advance_gives.bind fun _ _ => ?_
  refine (shown_gives inside).bind fun values areValues => isMark_gives.bind fun _ _ => ?_
  extract_lets behind converted
  have ends : ∀ done, (behind done).Gives Plain := fun _ =>
    (formatAfter_gives inside).bind fun formats areFormats => cursor_gives.bind fun _ _ =>
      .pure ⟨undotted_empty, Tree.plainAll_append.mpr ⟨areValues, areFormats⟩⟩
  have converts : ∀ done, (converted done).Gives Plain := by
    intro _
    refine token_gives.bind fun next _ => ?_
    split
    · exact advance_gives.bind fun done _ => ends done
    · exact ends ()
  split
  · exact advance_gives.bind fun done _ => converts done
  · exact converts ()

/-! ### Attributes, calls and subscripts -/

theorem argument_gives : (argument inner).Gives Plain := by
  refine token_gives.bind fun next _ => ?_
  split
  · exact unpacked_gives inside
  · exact element_gives inside
  refine place_gives.bind fun start _ => (inside _).bind fun tree isTree => ?_
  refine isMark_gives.bind fun _ _ => ?_
  split
  · refine take_gives.bind fun equals isEquals => (inside _).bind fun value isValue => ?_
    exact node_gives (by simp [isTree, isEquals, isValue])
  · exact .pure isTree

theorem arguments_gives : (arguments inner admitted).Gives Plain := by
  refine place_gives.bind fun start _ => mark_gives.bind fun bracket isBracket => ?_
  refine token_gives.bind fun next _ => ?_
  split
  · exact take_gives.bind fun last isLast => node_gives (by simp [isBracket, isLast])
  · refine take_gives.bind fun comma isComma => mark_gives.bind fun last isLast => ?_
    exact node_gives (by simp [isBracket, isComma, isLast])
  refine (argument_gives inside).bind fun first isFirst => beginsClauses_gives.bind fun _ _ => ?_
  split
  · refine (comprehension_gives inside isFirst).bind fun trees plain => ?_
    exact node_gives (by simp [isBracket, plain])
  · refine (elementsAfter_gives (argument_gives inside) isFirst).bind fun trees plain => ?_
    exact node_gives (by simp [isBracket, plain])

theorem slicePart_gives : (slicePart inner).Gives PlainAll := by
  refine mark_gives.bind fun colon isColon => token_gives.bind fun next _ => ?_
  split
  · exact .pure (by simp [isColon])
  · exact (inside _).bind fun tree isTree => .pure (by simp [isColon, isTree])

theorem sliceAfter_gives (plain : PlainAll trees) :
    (sliceAfter inner start trees).Gives Plain := by
  refine (slicePart_gives inside).bind fun second isSecond => isMark_gives.bind fun _ _ => ?_
  extract_lets rest
  have whole : ∀ third, PlainAll third → (rest third).Gives Plain := fun third isThird =>
    node_gives (by simp [plain, isSecond, isThird])
  split
  · exact (slicePart_gives inside).bind whole
  · exact Gives.bind (.pure Tree.plainAll_nil) whole

theorem index_gives : (index inner).Gives Plain := by
  refine place_gives.bind fun start _ => isMark_gives.bind fun _ _ => ?_
  split
  · exact sliceAfter_gives inside Tree.plainAll_nil
  refine (inside _).bind fun tree isTree => isMark_gives.bind fun _ _ => ?_
  split
  · exact sliceAfter_gives inside (by simpa using isTree)
  · exact .pure isTree

theorem trailers_gives (plain : first.Plain) : (trailers inner context first).Gives Plain := by
  refine .repeated Plain plain fun tree plain => token_gives.bind fun next _ => ?_
  split
  · refine take_gives.bind fun point isPoint => name_gives.bind fun name isName => ?_
    exact (node_gives (by simp [plain, isPoint, isName])).bind fun tree plain => .pure plain
  · refine (arguments_gives inside).bind fun list isList => ?_
    exact (node_gives (by simp [plain, isList])).bind fun tree plain => .pure plain
  · refine take_gives.bind fun bracket isBracket => ?_
    refine (index_gives inside).bind fun first isFirst => ?_
    refine (elementsAfter_gives (index_gives inside) isFirst).bind fun trees areIndices => ?_
    exact (node_gives (by simp [plain, isBracket, areIndices])).bind fun tree plain => .pure plain
  · exact .pure plain

/-! ### Operands -/

theorem atom_gives : (atom inner context).Gives Plain := by
  refine token_gives.bind fun next _ => ?_
  split
  · split
    · exact take_gives
    · exact name_gives
  · exact take_gives
  · exact take_gives
  · exact strings_gives inside
  · exact bracketed_gives inside
  · exact bracketed_gives inside
  · exact braced_gives inside
  · exact .fail

theorem primary_gives : (primary inner context).Gives Plain :=
  (atom_gives inside).bind fun _ => trailers_gives inside

theorem signOrName_gives : (signOrName inner context).Gives (Sum.elim Plain Plain) := by
  refine (leaf_gives undotted_empty).bind fun sign isSign => name_gives.bind fun word isWord => ?_
  refine token_gives.bind fun next _ => ?_
  split
  · exact .pure isSign
  · exact (trailers_gives inside isWord).bind fun tree plain => .pure plain

theorem operand_gives : (operand inner context).Gives Plain := by
  refine place_gives.bind fun start _ => ?_
  refine Gives.bind (.repeatedTrees (by simp) fun trees plain => ?_) fun trees => flatten_gives
  refine token_gives.bind fun next _ => ?_
  split
  · exact take_gives.bind fun sign isSign => .pure (by simp [isSign, plain])
  · exact take_gives.bind fun sign isSign => .pure (by simp [isSign, plain])
  · exact take_gives.bind fun sign isSign => .pure (by simp [isSign, plain])
  · refine (signOrName_gives inside).bind fun result isResult => ?_
    rcases result with sign | tree
    · exact .pure (Tree.plainAll_cons.mpr ⟨isResult, plain⟩)
    · exact .pure (Tree.plainAll_reverse.mpr (Tree.plainAll_cons.mpr ⟨isResult, plain⟩))
  · refine (starred_gives inside).bind fun tree isTree => ?_
    exact (trailers_gives inside isTree).bind fun whole isWhole => .pure (by simp [isWhole, plain])
  · exact (primary_gives inside).bind fun tree isTree => .pure (by simp [isTree, plain])

/-! ### Parameters -/

theorem defaultOf_gives : (defaultOf inner context).Gives PlainAll := by
  refine isMark_gives.bind fun _ _ => ?_
  split
  · refine take_gives.bind fun equals isEquals => (inside _).bind fun value isValue => ?_
    exact .pure (by simp [isEquals, isValue])
  · exact .pure Tree.plainAll_nil

section Typing

variable {typing : Parser (List Tree)} (types : typing.Gives PlainAll)

include types

theorem starredParameter_gives : (starredParameter inner typing context).Gives Plain := by
  refine place_gives.bind fun start _ => isMark_gives.bind fun double _ => ?_
  refine take_gives.bind fun star isStar => token_gives.bind fun next _ => ?_
  split
  · refine (inside _).bind fun tree isTree => ?_
    split
    · exact types.bind fun type isType => node_gives (by simp [isStar, isTree, isType])
    · exact .fail
  · exact .pure isStar

theorem parameter_gives : (parameter inner typing context).Gives Plain := by
  refine place_gives.bind fun start _ => token_gives.bind fun next _ => ?_
  split
  · exact starredParameter_gives inside types
  · exact starredParameter_gives inside types
  · exact take_gives
  · refine (bracketed_gives inside).bind fun tree isTree => ?_
    split
    · refine (defaultOf_gives inside).bind fun value isValue => ?_
      exact node_gives (by simp [isTree, isValue])
    · exact .fail
  · refine name_gives.bind fun name isName => types.bind fun type isType => ?_
    refine (defaultOf_gives inside).bind fun value isValue => ?_
    exact node_gives (by simp [isName, isType, isValue])

theorem parameters_gives : (parameters inner typing context closing).Gives PlainAll := by
  refine isMark_gives.bind fun _ _ => ?_
  split
  · exact .pure Tree.plainAll_nil
  refine (parameter_gives inside types).bind fun first isFirst => ?_
  refine .repeatedTrees (by simpa using isFirst) fun trees plain => isMark_gives.bind fun _ _ => ?_
  split
  · exact .pure (by simpa using plain)
  refine mark_gives.bind fun comma isComma => isMark_gives.bind fun _ _ => ?_
  split
  · exact .pure (by simp [isComma, plain])
  · refine (parameter_gives inside types).bind fun tree isTree => ?_
    exact .pure (by simp [isTree, isComma, plain])

end Typing

/-! ### Expressions -/

theorem unit_gives (plain : PlainAll trees) : (unit inner context trees).Gives PlainAll := by
  refine .repeatedTrees plain fun trees plain => token_gives.bind fun next _ => ?_
  split
  · exact take_gives.bind fun word isWord => .pure (by simp [isWord, plain])
  · refine take_gives.bind fun word isWord => ?_
    refine (parameters_gives inside (.pure Tree.plainAll_nil)).bind fun names areNames => ?_
    exact mark_gives.bind fun colon isColon => .pure (by simp [isColon, areNames, isWord, plain])
  · refine (operand_gives inside).bind fun tree isTree => isMark_gives.bind fun _ _ => ?_
    split
    · exact take_gives.bind fun sign isSign => .pure (by simp [isSign, isTree, plain])
    · exact .pure (by simp [isTree, plain])

theorem continuation?_gives (plain : PlainAll trees) :
    (continuation? inner context trees).Gives fun more => ∀ trees ∈ more, PlainAll trees := by
  have another : ∀ word : Tree, word.Plain →
      Gives (do return some (← unit inner context (word :: trees)))
        fun more => ∀ trees ∈ more, PlainAll trees := fun word isWord =>
    (unit_gives inside (Tree.plainAll_cons.mpr ⟨isWord, plain⟩)).bind fun trees plain =>
      .pure (by simpa using plain)
  refine token_gives.bind fun next _ => ?_
  split
  · split
    · refine take_gives.bind fun sign isSign => (operand_gives inside).bind fun tree isTree => ?_
      exact .pure (by simp [isTree, isSign, plain])
    · exact .pure (by simp)
  · refine take_gives.bind fun word isWord => (operand_gives inside).bind fun tree isTree => ?_
    exact .pure (by simp [isTree, isWord, plain])
  · refine take_gives.bind fun word isWord => keyword_gives.bind fun other isOther => ?_
    refine (operand_gives inside).bind fun tree isTree => ?_
    exact .pure (by simp [isTree, isOther, isWord, plain])
  · refine take_gives.bind fun word isWord => isWord_gives.bind fun _ _ => ?_
    extract_lets rest
    have whole : ∀ others, PlainAll others →
        (rest others).Gives fun more => ∀ trees ∈ more, PlainAll trees := fun others areOthers =>
      (operand_gives inside).bind fun tree isTree =>
        .pure (by simp [isTree, areOthers, isWord, plain])
    split
    · refine take_gives.bind fun other isOther => ?_
      exact Gives.bind (.pure (by simpa using isOther)) whole
    · exact Gives.bind (.pure Tree.plainAll_nil) whole
  · exact take_gives.bind fun word isWord => another word isWord
  · exact take_gives.bind fun word isWord => another word isWord
  · exact take_gives.bind fun word isWord => another word isWord
  · split
    · refine take_gives.bind fun word isWord => (inside _).bind fun condition isCondition => ?_
      refine keyword_gives.bind fun other isOther => ?_
      refine (unit_gives inside ?_).bind fun trees plain => .pure (by simpa using plain)
      simp [isOther, isCondition, isWord, plain]
    · exact .pure (by simp)
  · exact .pure (by simp)

theorem expression_gives : (expression inner context).Gives Plain := by
  refine place_gives.bind fun start _ => ?_
  refine (unit_gives inside Tree.plainAll_nil).bind fun first isFirst => ?_
  refine Gives.bind (.repeatedTrees isFirst fun trees plain => ?_) fun trees plain =>
    flatten_gives (Tree.plainAll_reverse.mpr plain)
  refine (continuation?_gives inside plain).bind fun more isMore => ?_
  cases more with
  | some trees => exact .pure (isMore trees rfl)
  | none => exact .pure plain

end Inside

/-- **The trees of what an expression may hold inside hold no point in their names**, at any
depth. -/
theorem goal_gives (depth : Nat) (within : Goal) : (goal depth within).Gives Plain := by
  induction depth generalizing within with
  | zero => exact .fail
  | succ depth ih =>
    cases within with
    | expression context => exact expression_gives ih
    | primary context => exact primary_gives ih
    | field => exact field_gives ih

/-! ### Types -/

section Types

variable {one : Parser Tree} {follow : Admitted}

theorem typesInBrackets_gives (each : one.Gives Plain) :
    (typesInBrackets one follow).Gives Plain := by
  refine place_gives.bind fun start _ => mark_gives.bind fun bracket isBracket => ?_
  refine each.bind fun first isFirst => ?_
  refine (elementsAfter_gives each isFirst).bind fun trees plain => ?_
  exact node_gives (by simp [isBracket, plain])

theorem genericType?_gives (each : one.Gives Plain) :
    (genericType? one follow).Gives fun found => ∀ tree ∈ found, tree.Plain := by
  refine Gives.get.bind fun ahead sound => ?_
  split
  · split
    · exact .pure (by simp)
    refine name_gives.bind fun name isName => isMark_gives.bind fun _ _ => ?_
    split
    · refine (typesInBrackets_gives each).bind fun types areTypes => ?_
      refine (node_gives (by simp [isName, areTypes])).bind fun tree isTree => ?_
      exact .pure (by simpa using isTree)
    · exact (Gives.set sound).bind fun _ _ => .pure (by simp)
  · exact .pure (by simp)

variable {inner : Inner} (inside : ∀ goal, (inner goal).Gives Plain)

include inside

theorem type_gives {depth : Nat} {bounded : Bool} {context : Context} :
    (type inner depth bounded context).Gives Plain := by
  induction depth generalizing bounded context with
  | zero => exact .fail
  | succ depth ih =>
    refine place_gives.bind fun start _ => isMark_gives.bind fun _ _ => ?_
    extract_lets rest
    have whole : ∀ first, PlainAll first → (rest first).Gives Plain := by
      intro first isFirst
      refine Gives.bind (.repeatedTrees isFirst fun trees plain => ?_) fun trees plain =>
        node_gives (Tree.plainAll_reverse.mpr plain)
      refine token_gives.bind fun next _ => ?_
      split
      · exact take_gives.bind fun sign isSign => ih.bind fun tree isTree =>
          .pure (by simp [isTree, isSign, plain])
      · exact take_gives.bind fun point isPoint => name_gives.bind fun name isName =>
          .pure (by simp [isName, isPoint, plain])
      · split
        · exact take_gives.bind fun colon isColon => ih.bind fun tree isTree =>
            .pure (by simp [isTree, isColon, plain])
        · exact .pure plain
      · exact .pure plain
    split
    · refine take_gives.bind fun stars areStars => name_gives.bind fun name isName => ?_
      exact Gives.bind (.pure (by simp [isName, areStars])) whole
    · refine (genericType?_gives ih).bind fun found isFound => ?_
      cases found with
      | some tree => exact Gives.bind (.pure (by simpa using isFound)) whole
      | none =>
        exact (inside _).bind fun tree isTree => Gives.bind (.pure (by simpa using isTree)) whole

theorem typeAfterName_gives {depth : Nat} {context : Context} :
    (typeAfterName inner depth context).Gives PlainAll := by
  refine isMark_gives.bind fun _ _ => ?_
  split
  · refine take_gives.bind fun colon isColon => (type_gives inside).bind fun tree isTree => ?_
    exact .pure (by simp [isColon, isTree])
  · exact .pure Tree.plainAll_nil

theorem typeParameters_gives {depth : Nat} : (typeParameters inner depth).Gives PlainAll := by
  refine isMark_gives.bind fun _ _ => ?_
  split
  · refine (typesInBrackets_gives (type_gives inside)).bind fun tree isTree => ?_
    exact .pure (by simpa using isTree)
  · exact .pure Tree.plainAll_nil

end Types

/-! ### Patterns of cases -/

section Patterns

variable {one : Parser Tree} {several : Parser (List Tree)} {opening closing : String}
  {follow : Admitted} {trees : List Tree}

theorem patternNumber_gives : (patternNumber follow).Gives Plain := by
  refine token_gives.bind fun next _ => ?_
  split
  · exact take_gives
  · exact .fail

theorem patternNumbers_gives : (patternNumbers follow).Gives PlainAll := by
  refine isMark_gives.bind fun _ _ => ?_
  extract_lets rest
  have whole : ∀ signs, PlainAll signs → (rest signs).Gives PlainAll := by
    intro signs areSigns
    refine patternNumber_gives.bind fun number isNumber => token_gives.bind fun next _ => ?_
    split
    · refine take_gives.bind fun sign isSign => patternNumber_gives.bind fun other isOther => ?_
      exact .pure (by simp [areSigns, isNumber, isSign, isOther])
    · refine take_gives.bind fun sign isSign => patternNumber_gives.bind fun other isOther => ?_
      exact .pure (by simp [areSigns, isNumber, isSign, isOther])
    · exact .pure (by simp [areSigns, isNumber])
  split
  · exact take_gives.bind fun sign isSign => Gives.bind (.pure (by simpa using isSign)) whole
  · exact Gives.bind (.pure Tree.plainAll_nil) whole

theorem patternName_gives : (patternName follow).Gives PlainAll := by
  refine name_gives.bind fun first isFirst => ?_
  refine .repeatedTrees (by simpa using isFirst) fun trees plain => isMark_gives.bind fun _ _ => ?_
  split
  · refine take_gives.bind fun point isPoint => name_gives.bind fun name isName => ?_
    exact .pure (by simp [isName, isPoint, plain])
  · exact .pure (by simpa using plain)

theorem patternsIn_gives (each : one.Gives Plain) :
    (patternsIn one opening closing follow).Gives PlainAll := by
  refine mark_gives.bind fun bracket isBracket => isMark_gives.bind fun _ _ => ?_
  split
  · exact take_gives.bind fun last isLast => .pure (by simp [isBracket, isLast])
  · refine each.bind fun first isFirst => ?_
    exact (elementsAfter_gives each isFirst).bind fun trees plain =>
      .pure (by simp [isBracket, plain])

theorem alternativesAfter_gives (each : several.Gives PlainAll) (plain : PlainAll trees) :
    (alternativesAfter several trees).Gives PlainAll := by
  refine .repeatedTrees plain fun trees plain => isMark_gives.bind fun _ _ => ?_
  split
  · refine take_gives.bind fun bar isBar => each.bind fun more areMore => ?_
    exact .pure (by simp [plain, isBar, areMore])
  · exact .pure plain

theorem keywordAfter_gives (each : several.Gives PlainAll) (plain : PlainAll trees) :
    (keywordAfter several trees).Gives PlainAll := by
  refine isMark_gives.bind fun _ _ => ?_
  split
  · refine take_gives.bind fun equals isEquals => each.bind fun first areFirst => ?_
    refine (alternativesAfter_gives each areFirst).bind fun more areMore => ?_
    exact .pure (by simp [plain, isEquals, areMore])
  · exact .pure plain

theorem bindingsAfter_gives (plain : PlainAll trees) :
    (bindingsAfter follow trees).Gives PlainAll := by
  refine .repeatedTrees plain fun trees plain => isWord_gives.bind fun _ _ => ?_
  split
  · refine take_gives.bind fun word isWord => name_gives.bind fun name isName => ?_
    exact .pure (by simp [plain, isWord, isName])
  · exact .pure plain

theorem entryPattern_gives (each : several.Gives PlainAll) (value : one.Gives Plain) :
    (entryPattern several one).Gives Plain := by
  refine place_gives.bind fun start _ => isMark_gives.bind fun _ _ => ?_
  refine isMark_gives.bind fun _ _ => each.bind fun first areFirst => ?_
  refine (alternativesAfter_gives each areFirst).bind fun key isKey => ?_
  split
  · exact node_gives isKey
  · refine mark_gives.bind fun colon isColon => value.bind fun tree isTree => ?_
    exact node_gives (by simp [isKey, isColon, isTree])

variable {inner : Inner} (inside : ∀ goal, (inner goal).Gives Plain) {nested : CasePattern}

theorem namePattern_gives (below : ∀ follow, (nested follow).Gives Plain) :
    (namePattern nested follow).Gives PlainAll := by
  refine patternName_gives.bind fun names areNames => isMark_gives.bind fun _ _ => ?_
  split
  · exact (patternsIn_gives (below _)).bind fun more areMore => .pure (by simp [areNames, areMore])
  · exact .pure areNames

include inside

theorem simplePattern_gives (below : ∀ follow, (nested follow).Gives Plain)
    (entry : one.Gives Plain) : (simplePattern inner nested one follow).Gives PlainAll := by
  refine token_gives.bind fun next _ => ?_
  split
  · split
    · exact take_gives.bind fun tree isTree => .pure (by simpa using isTree)
    · exact namePattern_gives below
  · exact patternNumbers_gives
  · exact patternNumbers_gives
  · exact (strings_gives inside).bind fun tree isTree => .pure (by simpa using isTree)
  · exact patternsIn_gives (below _)
  · exact patternsIn_gives (below _)
  · exact patternsIn_gives entry
  · refine take_gives.bind fun star isStar => name_gives.bind fun name isName => ?_
    exact .pure (by simp [isStar, isName])
  · refine take_gives.bind fun star isStar => name_gives.bind fun name isName => ?_
    exact .pure (by simp [isStar, isName])
  · exact .fail

theorem casePattern_gives (depth : Nat) (follow : Admitted) :
    (casePattern inner depth follow).Gives Plain := by
  induction depth generalizing follow with
  | zero => exact .fail
  | succ depth ih =>
    have entry : (entryPattern (simplePattern inner (casePattern inner depth) fail { close := true })
        (casePattern inner depth { close := true })).Gives Plain :=
      entryPattern_gives (simplePattern_gives inside ih .fail) (ih _)
    have one : ∀ {follow}, (simplePattern inner (casePattern inner depth) _ follow).Gives PlainAll :=
      simplePattern_gives inside ih entry
    refine place_gives.bind fun start _ => one.bind fun first isFirst => ?_
    refine (keywordAfter_gives one isFirst).bind fun trees plain => ?_
    refine (alternativesAfter_gives one plain).bind fun trees plain => ?_
    exact (bindingsAfter_gives plain).bind fun trees => node_gives

end Patterns

end DeclGraph.Syntax.Parser
