/-
**Names in statements.**

Only imports have names with points, and no declaration or call is told by one: the names of classes
and functions are words, and calls are expressions.

* `Tree.Tells`: a node tells a declaration or a call by a name;
* `Tree.Sound`: no node of a tree tells one by a name with a point;
* `statement_gives`, `block_gives`: statements and blocks;
* **`Tree.sound_ofSource`**: the tree of every source is sound.
-/

import DeclGraph.Proofs.Declarations.Calls
import DeclGraph.Proofs.Syntax.ExpressionNames
import DeclGraph.Syntax.Source

namespace DeclGraph.Syntax

open Text (Undotted)

namespace Tree

/-! ### Nodes that tell of declarations and calls -/

/-- A node tells a declaration or a call by a name. -/
def Tells (node : Tree) (name : String) : Prop :=
  ((node.kind = .classDefinition ∨ node.kind = .functionDefinition) ∧
      ∃ named, node.part? .name = some named ∧ named.text = name) ∨
    node.CallsName name

/-- **No node of a tree tells a declaration or a call by a name with a point.** -/
inductive Sound : Tree → Prop
  | node {label : Label} {children : List Tree} :
      (∀ name, (Tree.node label children).Tells name → Undotted name) →
        (∀ child ∈ children, Sound child) → Sound (.node label children)

/-- No node of several trees tells a declaration or a call by a name with a point. -/
def SoundAll (trees : List Tree) : Prop := ∀ tree ∈ trees, tree.Sound

@[simp]
theorem soundAll_nil : SoundAll [] := fun _ member => by cases member

@[simp]
theorem soundAll_cons {tree : Tree} {trees : List Tree} :
    SoundAll (tree :: trees) ↔ tree.Sound ∧ SoundAll trees := List.forall_mem_cons

@[simp]
theorem soundAll_append {first second : List Tree} :
    SoundAll (first ++ second) ↔ SoundAll first ∧ SoundAll second := List.forall_mem_append

@[simp]
theorem soundAll_reverse {trees : List Tree} : SoundAll trees.reverse ↔ SoundAll trees := by
  simp only [SoundAll, List.mem_reverse]

@[simp]
theorem sound_withRole {tree : Tree} {role : Role} : (tree.withRole role).Sound ↔ tree.Sound := by
  obtain ⟨label, children⟩ := tree
  constructor
  · rintro ⟨tells, below⟩
    exact ⟨tells, below⟩
  · rintro ⟨tells, below⟩
    exact ⟨tells, below⟩

variable {tree child : Tree} {trees children : List Tree} {label : Label} {name : String}

theorem Plain.text (plain : tree.Plain) : Undotted tree.text := by
  obtain ⟨text, _⟩ := plain
  exact text

theorem Plain.part? (plain : tree.Plain) {role : Role} (isPart : tree.part? role = some child) :
    child.Plain := by
  obtain ⟨_, below⟩ := plain
  exact below child (List.mem_of_find?_eq_some isPart)

theorem Plain.undotted_of_tells (plain : tree.Plain) (tells : tree.Tells name) :
    Undotted name := by
  rcases tells with ⟨_, named, isName, rfl⟩ | ⟨_, callee, isCallee, called⟩
  · exact (plain.part? isName).text
  · rcases called with ⟨_, rfl⟩ | ⟨_, last, isLast, rfl⟩
    · exact (plain.part? isCallee).text
    · exact ((plain.part? isCallee).part? isLast).text

/-- Where no name holds a point, none tells a declaration or a call. -/
theorem Plain.sound (plain : tree.Plain) : tree.Sound := by
  induction plain with
  | node text below ih => exact ⟨fun _ => (Plain.node text below).undotted_of_tells, ih⟩

theorem PlainAll.sound (plain : PlainAll trees) : SoundAll trees :=
  fun tree member => (plain tree member).sound

/-- A node of another kind tells nothing itself. -/
theorem sound_node (quiet : label.kind ∉ [.classDefinition, .functionDefinition, .call])
    (below : SoundAll children) : (node label children).Sound := by
  refine ⟨fun name tells => ?_, below⟩
  rcases tells with ⟨isClass | isFunction, _⟩ | ⟨isCall, _⟩
  · exact absurd (show label.kind = _ from isClass) fun same => quiet (by simp [same])
  · exact absurd (show label.kind = _ from isFunction) fun same => quiet (by simp [same])
  · exact absurd (show label.kind = _ from isCall) fun same => quiet (by simp [same])

/-- A definition tells the first of its parts that is a name. -/
theorem sound_definition {before after : List Tree} {named : Tree}
    (isDefinition : label.kind ≠ .call) (plain : PlainAll before) (isName : named.Plain)
    (below : SoundAll after) :
    (node label (before ++ named.withRole .name :: after)).Sound := by
  refine ⟨fun name tells => ?_, ?_⟩
  · rcases tells with ⟨_, part, isPart, rfl⟩ | ⟨isCall, _⟩
    · refine Plain.text ?_
      unfold part? at isPart
      rw [children, List.find?_append, Option.or_eq_some_iff] at isPart
      rcases isPart with isPart | ⟨_, isPart⟩
      · exact plain part (List.mem_of_find?_eq_some isPart)
      · rw [List.find?_cons_of_pos (by cases named; rfl)] at isPart
        cases isPart
        exact plain_withRole.mpr isName
    · exact absurd isCall isDefinition
  · exact soundAll_append.mpr
      ⟨plain.sound, soundAll_cons.mpr ⟨sound_withRole.mpr isName.sound, below⟩⟩

end Tree

namespace Parser

open Syntax.Tree (Plain PlainAll Sound SoundAll)

variable {kind : Kind} {start : Position} {admitted follow : Admitted} {trees : List Tree}

theorem Gives.sound {parser : Parser Tree} (gives : parser.Gives Plain) : parser.Gives Sound :=
  gives.mono fun _ => Plain.sound

theorem Gives.soundAll {parser : Parser (List Tree)} (gives : parser.Gives PlainAll) :
    parser.Gives SoundAll :=
  gives.mono fun _ => PlainAll.sound

theorem soundNode_gives (quiet : kind ∉ [.classDefinition, .functionDefinition, .call])
    (below : SoundAll trees) : (node kind start trees).Gives Sound :=
  stopped_gives.bind fun _ _ => .pure (Tree.sound_node quiet below)

/-- A definition is told by its own name. -/
theorem definition_gives {named : Tree} (before after : List Tree)
    (arranged : trees = before ++ named.withRole .name :: after) (isDefinition : kind ≠ .call)
    (plain : PlainAll before) (isName : named.Plain) (below : SoundAll after) :
    (node kind start trees).Gives Sound := by
  subst arranged
  exact stopped_gives.bind fun _ _ => .pure (Tree.sound_definition isDefinition plain isName below)

/-! ### Imports -/

theorem nameSince_gives {first : Cursor} {role : Option Role} :
    (nameSince first role).Gives Sound :=
  Gives.get.bind fun _ _ => .pure (Tree.sound_node (by simp) Tree.soundAll_nil)

theorem dottedName_gives : (dottedName follow).Gives Sound := by
  refine Gives.get.bind fun ahead _ => name_gives.bind fun _ _ => ?_
  refine Gives.bind (.repeatedSteps ?_) fun _ _ => nameSince_gives
  refine isMark_gives.bind fun _ _ => ?_
  split
  · exact advance_gives.bind fun _ _ => name_gives.bind fun _ _ => .pure trivial
  · exact .pure trivial

theorem importedName_gives : (importedName follow).Gives Sound := by
  refine place_gives.bind fun start _ => dottedName_gives.bind fun tree isTree => ?_
  refine isWord_gives.bind fun _ _ => ?_
  split
  · refine take_gives.bind fun word isWord => name_gives.bind fun newName isName => ?_
    refine (soundNode_gives (by decide) ?_).bind fun node isNode => .pure (by simpa using isNode)
    simp [isTree, isWord.sound, isName.sound]
  · exact .pure (by simpa using isTree)

theorem importedNames_gives : (importedNames follow).Gives SoundAll := by
  refine importedName_gives.bind fun first isFirst => ?_
  refine .repeatedKeeping SoundAll (by simpa using isFirst) fun trees sound => ?_
  refine isMark_gives.bind fun _ _ => ?_
  split
  · refine take_gives.bind fun comma isComma => token_gives.bind fun next _ => ?_
    split
    · exact importedName_gives.bind fun tree isTree =>
        .pure (by simp [isTree, isComma.sound, sound])
    · exact .pure (by simp [isComma.sound, sound])
  · exact .pure (by simpa using sound)

theorem importStatement_gives : importStatement.Gives Sound := by
  refine place_gives.bind fun start _ => keyword_gives.bind fun word isWord => ?_
  refine importedNames_gives.bind fun names areNames => soundNode_gives (by decide) ?_
  simp [isWord.sound, areNames]

theorem modulePoints_gives : modulePoints.Gives fun _ => True := by
  refine .repeatedSteps (isMark_gives.bind fun _ _ => isMark_gives.bind fun _ _ => ?_)
  split
  · exact advance_gives.bind fun _ _ => .pure trivial
  · exact .pure trivial

theorem importedModule_gives : importedModule.Gives Sound := by
  refine Gives.get.bind fun _ _ => modulePoints_gives.bind fun _ _ => Gives.get.bind fun _ _ => ?_
  refine isWord_gives.bind fun _ _ => ?_
  extract_lets rest
  split
  · exact nameSince_gives
  · exact dottedName_gives.bind fun _ _ => nameSince_gives

theorem importedPart_gives {everything : Bool} : (importedPart everything).Gives SoundAll := by
  refine token_gives.bind fun next _ => ?_
  split
  · split
    · exact take_gives.bind fun tree isTree => .pure (by simpa using isTree.sound)
    · exact .fail
  · refine take_gives.bind fun bracket isBracket => ?_
    refine importedNames_gives.bind fun names areNames => ?_
    exact mark_gives.bind fun last isLast =>
      .pure (by simp [isBracket.sound, areNames, isLast.sound])
  · exact importedNames_gives

theorem importFromStatement_gives : importFromStatement.Gives Sound := by
  refine place_gives.bind fun start _ => keyword_gives.bind fun word isWord => ?_
  refine isWord_gives.bind fun _ _ => ?_
  split
  · refine take_gives.bind fun module isModule => keyword_gives.bind fun other isOther => ?_
    refine importedPart_gives.bind fun trees sound => soundNode_gives (by decide) ?_
    simp [isWord.sound, isModule.sound, isOther.sound, sound]
  · refine importedModule_gives.bind fun module isModule => ?_
    refine keyword_gives.bind fun other isOther => ?_
    refine importedPart_gives.bind fun trees sound => soundNode_gives (by decide) ?_
    simp [isWord.sound, isModule, isOther.sound, sound]

/-! ### Statements on one line -/

theorem declaredNames_gives : declaredNames.Gives PlainAll := by
  refine take_gives.bind fun word isWord => name_gives.bind fun first isFirst => ?_
  refine .repeatedTrees (by simp [isFirst, isWord]) fun trees plain => ?_
  refine isMark_gives.bind fun _ _ => ?_
  split
  · refine take_gives.bind fun comma isComma => name_gives.bind fun name isName => ?_
    exact .pure (by simp [isName, isComma, plain])
  · exact .pure (by simpa using plain)

theorem isPrintInto_gives : isPrintInto.Gives fun _ => True :=
  Gives.get.bind fun _ _ => .pure trivial

theorem ended_gives {reading : Parser Tree} {good : Tree → Prop} (reads : reading.Gives good) :
    (ended reading).Gives good := by
  refine reads.bind fun tree isGood => token_gives.bind fun next _ => ?_
  split
  · exact .pure isGood
  · exact .pure isGood
  · exact .fail

theorem advanceTo_gives {site : Site} : (advanceTo site).Gives fun _ => True :=
  Gives.get.bind fun _ _ => advance_gives

theorem asyncWord_gives : statement.isAsyncWord.Gives fun _ => True := by
  refine Gives.get.bind fun ahead _ => ?_
  split <;> exact .pure trivial

theorem statementOf_gives {children : Parser (List Tree)} (gives : children.Gives SoundAll) :
    (statementOf children).Gives Sound :=
  place_gives.bind fun _ _ => gives.bind fun _ sound => soundNode_gives (by decide) sound

section Inside

variable {inner : Inner} (inside : ∀ goal, (inner goal).Gives Plain) {depth : Nat}

include inside

theorem values_gives : (values inner).Gives PlainAll := by
  refine isWord_gives.bind fun _ _ => ?_
  split
  · exact (yielded_gives inside).bind fun tree isTree => .pure (by simpa using isTree)
  · exact expressions_gives inside

theorem assignmentsAfter_gives (plain : PlainAll trees) :
    (assignmentsAfter inner depth trees).Gives PlainAll := by
  refine .repeated (fun state => PlainAll state.1) plain ?_
  rintro ⟨trees, last⟩ plain
  have plain : PlainAll trees := plain
  refine token_gives.bind fun next _ => ?_
  split
  · split
    · refine take_gives.bind fun colon isColon => (type_gives inside).bind fun type isType => ?_
      refine isMark_gives.bind fun _ _ => ?_
      split
      · refine take_gives.bind fun equals isEquals => ?_
        refine (values_gives inside).bind fun values are => ?_
        exact .pure (by simp [plain, isColon, isType, isEquals, are])
      · exact .pure (by simp [plain, isColon, isType])
    split
    · refine take_gives.bind fun sign isSign => (values_gives inside).bind fun values are => ?_
      exact .pure (by simp [plain, isSign, are])
    · exact .pure plain
  · exact .pure plain

theorem expressionStatement_gives : (expressionStatement inner depth).Gives Plain := by
  refine place_gives.bind fun start _ => (values_gives inside).bind fun first isFirst => ?_
  exact (assignmentsAfter_gives inside isFirst).bind fun trees => node_gives

theorem keywordStatement_gives {needed : Bool} {ends : List String} :
    (keywordStatement inner needed ends).Gives PlainAll := by
  refine take_gives.bind fun word isWord => token_gives.bind fun next _ => ?_
  split
  · exact (expressions_gives inside).bind fun trees plain => .pure (by simp [isWord, plain])
  · exact .pure (by simpa using isWord)

theorem raiseStatement_gives : (raiseStatement inner).Gives PlainAll := by
  refine (keywordStatement_gives inside).bind fun trees plain => isWord_gives.bind fun _ _ => ?_
  split
  · refine take_gives.bind fun word isWord => (inside _).bind fun tree isTree => ?_
    exact .pure (by simp [plain, isWord, isTree])
  · exact .pure plain

theorem plainExpressions_gives : (plainExpressions inner).Gives PlainAll := by
  refine take_gives.bind fun word isWord => (inside _).bind fun first isFirst => ?_
  refine .repeatedTrees (by simp [isFirst, isWord]) fun trees plain => ?_
  refine isMark_gives.bind fun _ _ => ?_
  split
  · refine take_gives.bind fun comma isComma => (inside _).bind fun tree isTree => ?_
    exact .pure (by simp [isTree, isComma, plain])
  · exact .pure (by simpa using plain)

theorem typeStatement_gives : (typeStatement inner depth).Gives Plain := by
  refine place_gives.bind fun start _ => keyword_gives.bind fun word isWord => ?_
  refine (type_gives inside).bind fun left isLeft => mark_gives.bind fun equals isEquals => ?_
  refine (type_gives inside).bind fun right isRight => node_gives ?_
  simp [isWord, isLeft, isEquals, isRight]

theorem printIntoStatement_gives : (printIntoStatement inner).Gives Plain := by
  refine place_gives.bind fun start _ => keyword_gives.bind fun word isWord => ?_
  refine mark_gives.bind fun sign isSign => (expressions_gives inside).bind fun trees plain => ?_
  exact node_gives (by simp [isWord, isSign, plain])

theorem printStatement_gives : (printStatement inner).Gives Plain := by
  refine place_gives.bind fun start _ => keyword_gives.bind fun word isWord => ?_
  refine (expressions_gives inside).bind fun trees plain => node_gives ?_
  simp [isWord, plain]

theorem execStatement_gives : (execStatement inner).Gives Plain := by
  refine place_gives.bind fun start _ => keyword_gives.bind fun word isWord => ?_
  refine token_gives.bind fun next _ => ?_
  extract_lets rest
  have whole : ∀ code, code.Plain → (rest code).Gives Plain := by
    intro code isCode
    refine isWord_gives.bind fun _ _ => ?_
    split
    · refine (plainExpressions_gives inside).bind fun trees plain => node_gives ?_
      simp [isWord, isCode, plain]
    · exact node_gives (by simp [isWord, isCode])
  split
  · exact (strings_gives inside).bind whole
  · exact name_gives.bind whole

theorem simpleStatement_gives : (simpleStatement inner depth).Gives Sound := by
  have expression : (expressionStatement inner depth).Gives Sound :=
    (expressionStatement_gives inside).sound
  refine token_gives.bind fun next _ => ?_
  split
  · exact importStatement_gives
  · exact importFromStatement_gives
  · exact statementOf_gives (plainExpressions_gives inside).soundAll
  · exact statementOf_gives (keywordStatement_gives inside).soundAll
  · exact statementOf_gives (keywordStatement_gives inside).soundAll
  · exact statementOf_gives (raiseStatement_gives inside).soundAll
  · exact take_gives.sound
  · exact take_gives.sound
  · exact take_gives.sound
  · exact statementOf_gives declaredNames_gives.soundAll
  · exact statementOf_gives declaredNames_gives.soundAll
  · refine isPrintInto_gives.bind fun _ _ => ?_
    split
    · exact (printIntoStatement_gives inside).sound
    · exact .orElse (ended_gives expression) (printStatement_gives inside).sound
  · exact .orElse (ended_gives expression) (execStatement_gives inside).sound
  · exact .orElse (ended_gives (typeStatement_gives inside).sound) expression
  · exact expression

theorem simpleStatements_gives : (simpleStatements inner depth).Gives SoundAll := by
  refine .repeated SoundAll Tree.soundAll_nil fun trees sound => ?_
  refine (simpleStatement_gives inside).bind fun statement isSound => ?_
  refine trivia_gives.bind fun passed plain => token_gives.bind fun next _ => ?_
  split
  · exact .pure (by simp [plain.sound, isSound, sound])
  · refine take_gives.bind fun sign isSign => trivia_gives.bind fun behind plainBehind => ?_
    refine token_gives.bind fun next _ => ?_
    split
    · exact .pure (by simp [plainBehind.sound, isSign.sound, plain.sound, isSound, sound])
    · exact .pure (by simp [plainBehind.sound, isSign.sound, plain.sound, isSound, sound])
  · exact .fail

theorem lineOf_gives {site : Site} : (lineOf inner depth site).Gives SoundAll :=
  (simpleStatements_gives inside).bind fun _ sound => advanceTo_gives.bind fun _ _ => .pure sound

end Inside

/-! ### Blocks -/

section Blocks

variable {one : Parser (List Tree)} {site : Site}

theorem deeperTrees_gives (each : one.Gives SoundAll) : (deeperTrees one site).Gives SoundAll := by
  refine .repeated SoundAll Tree.soundAll_nil fun trees sound => ?_
  refine trivia_gives.bind fun passed plain => token_gives.bind fun next _ => ?_
  split
  · exact advanceTo_gives.bind fun _ _ => .pure (by simp [plain.sound, sound])
  · exact each.bind fun more areMore => .pure (by simp [areMore, plain.sound, sound])

theorem emptyBlock_gives : (emptyBlock site).Gives Sound :=
  (leaf_gives undotted_empty).bind fun _ plain => advanceTo_gives.bind fun _ _ => .pure plain.sound

variable {inner : Inner} (inside : ∀ goal, (inner goal).Gives Plain) {depth : Nat}

include inside in
theorem blockOf_gives (each : one.Gives SoundAll) : (blockOf inner depth one site).Gives Sound := by
  refine place_gives.bind fun start _ => token_gives.bind fun next _ => ?_
  split
  · refine advanceTo_gives.bind fun _ _ => (deeperTrees_gives each).bind fun trees => ?_
    exact soundNode_gives (by decide)
  · exact emptyBlock_gives
  · exact (lineOf_gives inside).bind fun trees => soundNode_gives (by decide)

variable {block : BlockParser} (blocks : ∀ site, (block site).Gives Sound)

include blocks

theorem blockAfterColon_gives : (blockAfterColon block site).Gives SoundAll :=
  mark_gives.bind fun colon isColon => (blocks site).bind fun tree isTree =>
    .pure (by simp [isColon.sound, isTree])

theorem optionalBlock_gives {word : String} : (optionalBlock word block).Gives SoundAll := by
  refine isWord_gives.bind fun _ _ => ?_
  split
  · refine take_gives.bind fun word isWord => ?_
    refine (blockAfterColon_gives blocks).bind fun body isBody => ?_
    exact .pure (by simp [isWord.sound, isBody])
  · exact .pure Tree.soundAll_nil

include inside

/-! ### Branches and loops -/

theorem conditionAndBlock_gives : (conditionAndBlock inner block).Gives SoundAll := by
  refine take_gives.bind fun word isWord => (inside _).bind fun condition isCondition => ?_
  refine (blockAfterColon_gives blocks).bind fun body isBody => ?_
  exact .pure (by simp [isWord.sound, isCondition.sound, isBody])

theorem ifStatement_gives : (ifStatement inner block).Gives SoundAll := by
  refine (conditionAndBlock_gives inside blocks).bind fun first isFirst => ?_
  refine Gives.bind (.repeatedKeeping SoundAll isFirst fun trees sound => ?_)
    fun trees sound => ?_
  · refine isWord_gives.bind fun _ _ => ?_
    split
    · refine (conditionAndBlock_gives inside blocks).bind fun more areMore => ?_
      exact .pure (by simp [sound, areMore])
    · exact .pure sound
  · refine (optionalBlock_gives blocks).bind fun other isOther => ?_
    exact .pure (by simp [sound, isOther])

theorem whileStatement_gives : (whileStatement inner block).Gives SoundAll := by
  refine (conditionAndBlock_gives inside blocks).bind fun first isFirst => ?_
  refine (optionalBlock_gives blocks).bind fun other isOther => ?_
  exact .pure (by simp [isFirst, isOther])

theorem forStatement_gives : (forStatement inner block).Gives SoundAll := by
  refine take_gives.bind fun word isWord => (targets_gives inside).bind fun left isLeft => ?_
  refine (expressions_gives inside).bind fun right isRight => ?_
  refine (blockAfterColon_gives blocks).bind fun body isBody => ?_
  refine (optionalBlock_gives blocks).bind fun other isOther => ?_
  exact .pure (by simp [isWord.sound, isLeft.sound, isRight.sound, isBody, isOther])

theorem withStatement_gives : (withStatement inner block).Gives SoundAll := by
  refine take_gives.bind fun word isWord => (expressions_gives inside).bind fun items areItems => ?_
  refine (blockAfterColon_gives blocks).bind fun body isBody => ?_
  exact .pure (by simp [isWord.sound, areItems.sound, isBody])

/-! ### Exceptions -/

omit blocks in
theorem handlerName_gives {grouped : Bool} : (handlerName inner grouped).Gives PlainAll := by
  refine isWord_gives.bind fun _ _ => isMark_gives.bind fun _ _ => ?_
  split
  · refine take_gives.bind fun sign isSign => (inside _).bind fun tree isTree => ?_
    exact .pure (by simp [isSign, isTree])
  · exact .pure Tree.plainAll_nil

theorem handler_gives {grouped : Bool} : (handler inner block grouped).Gives SoundAll := by
  refine take_gives.bind fun word isWord => ?_
  extract_lets rest
  have whole : ∀ star, PlainAll star → (rest star).Gives SoundAll := by
    intro star isStar
    refine isMark_gives.bind fun _ _ => ?_
    split
    · refine (blockAfterColon_gives blocks).bind fun body isBody => ?_
      exact .pure (by simp [isWord.sound, isBody])
    · refine (inside _).bind fun caught isCaught => ?_
      refine (handlerName_gives inside).bind fun name isName => ?_
      refine (blockAfterColon_gives blocks).bind fun body isBody => ?_
      exact .pure (by simp [isWord.sound, isStar.sound, isCaught.sound, isName.sound, isBody])
  split
  · exact mark_gives.bind fun star isStar => Gives.bind (.pure (by simpa using isStar)) whole
  · exact Gives.bind (.pure Tree.plainAll_nil) whole

omit inside blocks in
theorem isGrouped_gives : isGrouped.Gives fun _ => True := Gives.get.bind fun _ _ => .pure trivial

theorem tryStatement_gives : (tryStatement inner block).Gives SoundAll := by
  refine take_gives.bind fun word isWord => ?_
  refine (blockAfterColon_gives blocks).bind fun body isBody => token_gives.bind fun next _ => ?_
  split
  · refine (optionalBlock_gives blocks).bind fun last isLast => ?_
    exact .pure (by simp [isWord.sound, isBody, isLast])
  · refine isGrouped_gives.bind fun grouped _ => ?_
    refine (handler_gives inside blocks).bind fun first isFirst => ?_
    refine Gives.bind (.repeatedKeeping SoundAll isFirst fun trees sound => ?_)
      fun handlers are => ?_
    · refine isWord_gives.bind fun _ _ => isGrouped_gives.bind fun _ _ => ?_
      split
      · refine (handler_gives inside blocks).bind fun more areMore => ?_
        exact .pure (by simp [sound, areMore])
      · exact .pure sound
    · refine (optionalBlock_gives blocks).bind fun other isOther => ?_
      refine (optionalBlock_gives blocks).bind fun last isLast => ?_
      exact .pure (by simp [isWord.sound, isBody, are, isOther, isLast])
  · exact .fail

/-! ### Definitions -/

theorem classDefinition_gives : (classDefinition inner depth block).Gives Sound := by
  refine place_gives.bind fun start _ => keyword_gives.bind fun word isWord => ?_
  refine name_gives.bind fun name isName => ?_
  refine (typeParameters_gives inside).bind fun types areTypes => isMark_gives.bind fun _ _ => ?_
  extract_lets rest
  have whole : ∀ bases, PlainAll bases → (rest bases).Gives Sound := by
    intro bases areBases
    show Gives (if _ then _ else _) _
    split
    · exact .fail
    · refine (blockAfterColon_gives blocks).bind fun body isBody => ?_
      refine definition_gives [word] (types ++ bases ++ body) (by simp) (by decide) ?_ isName ?_
      · simpa using isWord
      · simp [areTypes.sound, areBases.sound, isBody]
  split
  · refine (arguments_gives inside).bind fun list isList => ?_
    exact Gives.bind (.pure (by simpa using isList)) whole
  · exact Gives.bind (.pure Tree.plainAll_nil) whole

omit blocks in
theorem resultType_gives : (resultType inner depth).Gives PlainAll := by
  refine isMark_gives.bind fun _ _ => ?_
  split
  · refine take_gives.bind fun arrow isArrow => (type_gives inside).bind fun type isType => ?_
    exact .pure (by simp [isArrow, isType])
  · exact .pure Tree.plainAll_nil

omit blocks in
theorem parameterList_gives : (parameterList inner depth).Gives Plain := by
  refine place_gives.bind fun start _ => mark_gives.bind fun bracket isBracket => ?_
  refine (parameters_gives inside (typeAfterName_gives inside)).bind fun names areNames => ?_
  exact mark_gives.bind fun last isLast => node_gives (by simp [isBracket, areNames, isLast])

theorem functionDefinition_gives : (functionDefinition inner depth block).Gives Sound := by
  refine place_gives.bind fun start _ => isWord_gives.bind fun _ _ => ?_
  extract_lets rest
  have whole : ∀ async, PlainAll async → (rest async).Gives Sound := by
    intro async isAsync
    refine keyword_gives.bind fun word isWord => name_gives.bind fun name isName => ?_
    refine (typeParameters_gives inside).bind fun types areTypes => ?_
    refine (parameterList_gives inside).bind fun parameters areParameters => ?_
    refine (resultType_gives inside).bind fun result isResult => ?_
    refine (blockAfterColon_gives blocks).bind fun body isBody => ?_
    refine definition_gives (async ++ [word]) (types ++ parameters :: result ++ body) (by simp)
      (by decide) ?_ isName ?_
    · simp [isAsync, isWord]
    · simp [areTypes.sound, areParameters.sound, isResult.sound, isBody]
  split
  · exact take_gives.bind fun async isAsync => Gives.bind (.pure (by simpa using isAsync)) whole
  · exact Gives.bind (.pure Tree.plainAll_nil) whole

omit blocks in
theorem decorator_gives : (decorator inner).Gives Plain := by
  refine place_gives.bind fun start _ => mark_gives.bind fun sign isSign => ?_
  refine (inside _).bind fun tree isTree => token_gives.bind fun next _ => ?_
  split
  · exact advanceTo_gives.bind fun _ _ => node_gives (by simp [isSign, isTree])
  · exact .fail

theorem decoratedDefinition_gives : (decoratedDefinition inner depth block).Gives Sound := by
  refine place_gives.bind fun start _ => (decorator_gives inside).bind fun first isFirst => ?_
  refine Gives.bind (.repeatedTrees (by simpa using isFirst) fun trees plain => ?_)
    fun decorators plain => isWord_gives.bind fun _ _ => ?_
  · refine isMark_gives.bind fun _ _ => ?_
    split
    · exact (decorator_gives inside).bind fun tree isTree => .pure (by simp [isTree, plain])
    · exact .pure (by simpa using plain)
  · extract_lets rest
    have whole : ∀ definition, definition.Sound → (rest definition).Gives Sound :=
      fun definition sound => soundNode_gives (by decide) (by simp [plain.sound, sound])
    split
    · exact (classDefinition_gives inside blocks).bind whole
    · exact (functionDefinition_gives inside blocks).bind whole

/-! ### Cases -/

omit blocks in
theorem guard_gives : (guard inner).Gives PlainAll := by
  refine isWord_gives.bind fun _ _ => ?_
  split
  · refine take_gives.bind fun word isWord => (inside _).bind fun tree isTree => ?_
    exact .pure (by simp [isWord, isTree])
  · exact .pure Tree.plainAll_nil

theorem caseClause_gives : (caseClause inner depth block).Gives SoundAll := by
  refine place_gives.bind fun start _ => keyword_gives.bind fun word isWord => ?_
  refine (casePattern_gives inside _ _).bind fun first isFirst => ?_
  refine Gives.bind (.repeatedTrees (by simpa using isFirst) fun trees plain => ?_)
    fun patterns plain => (guard_gives inside).bind fun guard isGuard => ?_
  · refine isMark_gives.bind fun _ _ => ?_
    split
    · refine take_gives.bind fun comma isComma => isMark_gives.bind fun _ _ => ?_
      refine isWord_gives.bind fun _ _ => ?_
      split
      · exact .pure (by simp [isComma, plain])
      · refine (casePattern_gives inside _ _).bind fun tree isTree => ?_
        exact .pure (by simp [isTree, isComma, plain])
    · exact .pure (by simpa using plain)
  · refine (blockAfterColon_gives blocks).bind fun body isBody => ?_
    refine (soundNode_gives (by decide) ?_).bind fun tree isTree => .pure (by simpa using isTree)
    simp [isWord.sound, plain.sound, isGuard.sound, isBody]

theorem cases_gives : (cases inner depth block).Gives Sound := by
  refine place_gives.bind fun start _ => token_gives.bind fun next _ => ?_
  split
  · refine advanceTo_gives.bind fun _ _ => ?_
    exact (deeperTrees_gives (caseClause_gives inside blocks)).bind fun trees =>
      soundNode_gives (by decide)
  · exact emptyBlock_gives
  · exact .fail

theorem matchStatement_gives : (matchStatement inner depth block).Gives SoundAll := by
  refine keyword_gives.bind fun word isWord => ?_
  refine (expressions_gives inside).bind fun subjects are => ?_
  refine mark_gives.bind fun colon isColon => (cases_gives inside blocks).bind fun body isBody => ?_
  exact .pure (by simp [isWord.sound, are.sound, isColon.sound, isBody])

/-! ### Statements -/

theorem asyncStatement_gives : (asyncStatement inner block).Gives SoundAll := by
  refine keyword_gives.bind fun word isWord => isWord_gives.bind fun _ _ => ?_
  split
  · exact (forStatement_gives inside blocks).bind fun trees sound =>
      .pure (by simp [isWord.sound, sound])
  refine isWord_gives.bind fun _ _ => ?_
  split
  · exact (withStatement_gives inside blocks).bind fun trees sound =>
      .pure (by simp [isWord.sound, sound])
  · exact .fail

theorem statement_gives : (statement inner depth block).Gives SoundAll := by
  unfold statement
  extract_lets compound line
  have alone : ∀ {parser : Parser Tree}, parser.Gives Sound →
      Gives (do return [← parser]) SoundAll :=
    fun gives => gives.bind fun _ sound => .pure (by simpa using sound)
  have compounds : ∀ {children : Parser (List Tree)}, children.Gives SoundAll →
      (compound children).Gives SoundAll := fun gives => alone (statementOf_gives gives)
  have lines : line.Gives SoundAll := lineOf_gives inside
  refine token_gives.bind fun next _ => ?_
  split
  · exact compounds (ifStatement_gives inside blocks)
  · exact compounds (whileStatement_gives inside blocks)
  · exact compounds (forStatement_gives inside blocks)
  · exact compounds (withStatement_gives inside blocks)
  · exact compounds (tryStatement_gives inside blocks)
  · exact alone (classDefinition_gives inside blocks)
  · exact alone (functionDefinition_gives inside blocks)
  · exact alone (decoratedDefinition_gives inside blocks)
  · refine asyncWord_gives.bind fun word _ => ?_
    split
    · exact alone (functionDefinition_gives inside blocks)
    split
    · exact compounds (asyncStatement_gives inside blocks)
    · exact lines
  · exact .orElse (compounds (matchStatement_gives inside blocks)) lines
  · exact lines

end Blocks

/-- Blocks are sound at any depth of nesting. -/
theorem block_gives {inner : Inner} (inside : ∀ goal, (inner goal).Gives Plain) {depth : Nat}
    (nesting : Nat) (site : Site) : (block inner depth nesting site).Gives Sound := by
  induction nesting generalizing site with
  | zero => exact .fail
  | succ nesting ih => exact blockOf_gives inside (statement_gives inside ih)

theorem module_gives (depth : Nat) : (module depth).Gives Sound := by
  have inside : ∀ within, (goal depth within).Gives Plain := goal_gives depth
  refine Gives.bind (.repeatedKeeping SoundAll Tree.soundAll_nil fun trees sound => ?_)
    fun trees => soundNode_gives (by decide)
  refine trivia_gives.bind fun passed plain => token_gives.bind fun next _ => ?_
  split
  · exact .pure (by simp [plain.sound, sound])
  · refine (statement_gives inside (block_gives inside depth)).bind fun more areMore => ?_
    exact .pure (by simp [areMore, plain.sound, sound])

end Parser

/-- **The tree of every source is sound**, also where the grammar does not accept the source. -/
theorem Tree.sound_ofSource (source : String) : (ofSource source).Sound := by
  unfold ofSource ofChars
  dsimp only
  split
  · exact sound_node (by decide) soundAll_nil
  split
  next tree after runs =>
    exact (Parser.module_gives _ _ tree after (Ahead.sound_read _ _) runs).1
  next => exact sound_node (by simp) soundAll_nil

end DeclGraph.Syntax
