/-
**The texts of declarations.**

The text of a declaration is cut out of the lines of its source: from the row where its definition
begins to the last row of its last token. In a well-formed tree these rows are rows of the source,
so nothing has to be left out, and a definition inside another one begins and ends inside its rows.

* `EndsInRow`, `HasText`: where a definition ends, and its text, told without the search for tokens;
* `hasText_iff`: the text that is collected is the one that the definition has;
* **`Declarations.texts_are_blocks`**: the texts of types, members and functions;
* `splitOn_span_infix`: the lines of a definition are lines of what holds it.
-/

import DeclGraph.Proofs.Declarations.Collected
import DeclGraph.Proofs.Syntax.WellFormed
import DeclGraph.Syntax.Source

namespace DeclGraph

namespace Syntax.Tree

variable {source text : String} {tree node : Tree} {row : Nat}

/-! ### Texts -/

/-- A definition ends in a row: the last one that its last token touches. -/
def EndsInRow (source : String) (tree : Tree) (row : Nat) : Prop :=
  ∃ token, IsLastToken tree token ∧ IsLastRow source.toList token row

/-- **A definition has a text**: the whole lines of its source from the row where it begins to the
row where it ends. Both are rows of the source. -/
def HasText (source : String) (tree : Tree) (text : String) : Prop :=
  ∃ row, EndsInRow source tree row ∧ tree.start.row ≤ row ∧ row < (Text.lines source).length ∧
    text = "\n".intercalate (((Text.lines source).take (row + 1)).drop tree.start.row)

section WellFormed

variable (wellFormed : WellFormed source.toList tree) (kind : tree.kind ≠ .comment)

include wellFormed kind

/-- The last token of a definition, which is not empty or stands behind something. -/
theorem lastToken_fits : Fits source.toList tree.lastToken ∧
    (tree.lastToken.start < tree.lastToken.stop ∨ 0 < tree.lastToken.stop.column) := by
  have isLast := isLastToken_lastToken wellFormed kind
  exact ⟨wellFormed _ isLast.inside, isLast.isToken.reaches (wellFormed.inside isLast.inside)⟩

/-- The row behind a definition is the one behind the last character of its last token. -/
theorem endRow_eq : tree.endRow = tree.lastToken.stop.rowBefore + 1 := by
  have isLast := isLastToken_lastToken wellFormed kind
  have begins := (wellFormed.bounds isLast.inside).1
  obtain ⟨fits, reaches⟩ := lastToken_fits wellFormed kind
  have forward := fits.forward
  unfold endRow Position.rowBefore
  simp only [Position.le_def, Position.lt_def] at *
  split <;> split <;> omega

theorem endsInRow_iff : EndsInRow source tree row ↔ tree.endRow = row + 1 := by
  have isLast := isLastToken_lastToken wellFormed kind
  obtain ⟨fits, reaches⟩ := lastToken_fits wellFormed kind
  rw [endRow_eq wellFormed kind]
  constructor
  · rintro ⟨token, isOther, isLastRow⟩
    have other := wellFormed.inside isOther.inside
    have same := isLastRow.unique (isLastRow_rowBefore other.here (isOther.isToken.reaches other))
    rw [same, isOther.stop_eq wellFormed isLast]
  · intro same
    obtain rfl := Nat.succ.inj same
    exact ⟨tree.lastToken, isLast, isLastRow_rowBefore fits reaches⟩

/-- A definition has at least one row. -/
theorem start_row_lt_endRow : tree.start.row < tree.endRow := by
  have isLast := isLastToken_lastToken wellFormed kind
  have begins := (wellFormed.bounds isLast.inside).1
  obtain ⟨fits, reaches⟩ := lastToken_fits wellFormed kind
  have forward := fits.forward
  rw [endRow_eq wellFormed kind]
  unfold Position.rowBefore
  simp only [Position.le_def, Position.lt_def] at *
  split <;> omega

/-- **A definition ends in a row of its source.** -/
theorem endRow_le_length : tree.endRow ≤ (Text.lines source).length := by
  obtain ⟨fits, reaches⟩ := lastToken_fits wellFormed kind
  obtain ⟨before, c, isPrefix, stops⟩ := exists_stop_concat fits reaches
  rw [endRow_eq wellFormed kind, ← stops, rowBefore_place_concat]
  exact row_lt_length_lines isPrefix

/-- **The text that is collected is the one that the definition has.** -/
theorem hasText_iff : HasText source tree text ↔ text = tree.span (Text.lines source) := by
  have some := start_row_lt_endRow wellFormed kind
  have inSource := endRow_le_length wellFormed kind
  unfold HasText span
  simp only [endsInRow_iff wellFormed kind]
  constructor
  · rintro ⟨row, ends, _, _, rfl⟩
    rw [ends]
  · rintro rfl
    obtain ⟨row, ends⟩ := Nat.exists_eq_add_one_of_ne_zero (Nat.ne_zero_of_lt some)
    rw [ends] at some inSource ⊢
    exact ⟨row, rfl, Nat.le_of_lt_succ some, inSource, rfl⟩

/-- The lines of a text that is collected. -/
theorem splitOn_span : (tree.span (Text.lines source)).toList.splitOn '\n' =
    (((Text.lines source).take tree.endRow).drop tree.start.row).map String.toList := by
  have some := start_row_lt_endRow wellFormed kind
  have inSource := endRow_le_length wellFormed kind
  unfold span
  refine Text.splitOn_joined ?_ ?_
  · intro line isLine
    exact Text.feed_not_mem_of_mem_lines (List.mem_of_mem_take (List.mem_of_mem_drop isLine))
  · intro empty
    have length := congrArg List.length empty
    rw [List.length_drop, List.length_take, List.length_nil] at length
    omega

/-! ### Definitions inside others -/

variable (inside : Inside node tree) (inner : node.kind ≠ .comment)

include inside inner

theorem endRow_le_of_inside : node.endRow ≤ tree.endRow := by
  have within := wellFormed.inside inside
  have isLast := isLastToken_lastToken wellFormed kind
  have isInner := isLastToken_lastToken within inner
  have forward := (wellFormed _ isLast.inside).forward
  rw [endRow_eq wellFormed kind, endRow_eq within inner]
  refine Nat.succ_le_succ (Position.rowBefore_le ?_)
  rcases isLast.last _ (isInner.inside.trans inside) isInner.isToken with same | before
  · rw [same]
  · exact le_trans before forward

/-- **The lines of a definition are lines of what holds it**, one behind the other. -/
theorem splitOn_span_infix :
    (node.span (Text.lines source)).toList.splitOn '\n' <:+:
      (tree.span (Text.lines source)).toList.splitOn '\n' := by
  have begins := Position.row_le (wellFormed.bounds inside).1
  have ends := endRow_le_of_inside wellFormed kind inside inner
  rw [splitOn_span wellFormed kind, splitOn_span (wellFormed.inside inside) inner]
  have above : (Text.lines source).take node.endRow <+: (Text.lines source).take tree.endRow :=
    List.take_prefix_take_left ends
  obtain ⟨rest, whole⟩ := above
  rw [← whole, List.drop_append]
  have shorter := List.drop_suffix_drop_left ((Text.lines source).take node.endRow) begins
  exact List.IsInfix.map _ (shorter.isInfix.trans (List.prefix_append _ _).isInfix)

end WellFormed

theorem DefinesFunction.inside {statement definition : Tree} {name : String}
    (defines : statement.DefinesFunction definition name) : Inside definition statement := by
  rcases defines.1 with ⟨_, rfl⟩ | ⟨_, isPart, _⟩
  · exact .here
  · exact .part? isPart

theorem DefinesFunction.kind_ne {statement definition : Tree} {name : String}
    (defines : statement.DefinesFunction definition name) : definition.kind ≠ .comment := by
  rcases defines.1 with ⟨isFunction, rfl⟩ | ⟨_, _, isFunction⟩
  · simp [isFunction]
  · simp [isFunction]

end Syntax.Tree

namespace Declarations

open Syntax (Tree)
open Syntax.Tree (HasText Inside WellFormed)

variable {source : String} {tree type statement definition : Tree} {owner name : String}

/-! ### Collected definitions -/

/-- A statement right in the body of a class defines one of its members. -/
def DefinesMember (type statement definition : Tree) (name : String) : Prop :=
  ∃ body, type.part? .body = some body ∧ statement ∈ body.namedChildren ∧
    statement.DefinesFunction definition name

/-- A definition is collected: as a class, as a member or as a function. -/
inductive IsCollected (tree definition : Tree) : Prop
  | type {name : String} (isClass : ClassIn tree definition name)
  | member {statement : Tree} {owner name : String}
      (isMember : MemberIn tree statement definition owner name)
  | function {statement : Tree} {name : String}
      (isFunction : FunctionIn tree statement definition name)

theorem ClassIn.kind_ne (isClass : ClassIn tree type name) : type.kind ≠ .comment := by
  simp [isClass.2.1]

theorem DefinesMember.inside (defines : DefinesMember type statement definition name) :
    Inside definition type := by
  obtain ⟨body, isBody, inBody, defines⟩ := defines
  exact defines.inside.trans ((Inside.namedChild inBody).trans (.part? isBody))

theorem DefinesMember.kind_ne (defines : DefinesMember type statement definition name) :
    definition.kind ≠ .comment := by
  obtain ⟨_, _, _, defines⟩ := defines
  exact defines.kind_ne

theorem MemberIn.inside (isMember : MemberIn tree statement definition owner name) :
    Inside definition tree := by
  obtain ⟨type, body, isClass, isBody, inBody, defines⟩ := isMember
  have inType : DefinesMember type statement definition name := ⟨body, isBody, inBody, defines⟩
  exact inType.inside.trans isClass.1.inside

theorem FunctionIn.inside (isFunction : FunctionIn tree statement definition name) :
    Inside definition tree :=
  isFunction.2.inside.trans (.namedChild isFunction.1)

/-- Collected definitions stand in the tree, and are no comments. -/
theorem IsCollected.inside (collected : IsCollected tree definition) :
    Inside definition tree ∧ definition.kind ≠ .comment := by
  cases collected with
  | type isClass => exact ⟨isClass.1.inside, isClass.kind_ne⟩
  | member isMember =>
    refine ⟨isMember.inside, ?_⟩
    obtain ⟨_, _, _, _, _, defines⟩ := isMember
    exact defines.kind_ne
  | function isFunction => exact ⟨isFunction.inside, isFunction.2.kind_ne⟩

/-- The text of a collected definition. -/
theorem IsCollected.hasText_iff (collected : IsCollected tree definition)
    (wellFormed : WellFormed source.toList tree) {text : String} :
    HasText source definition text ↔ text = definition.span (Text.lines source) :=
  Syntax.Tree.hasText_iff (wellFormed.inside collected.inside.1) collected.inside.2

/-! ### Texts of declarations -/

/-- **The texts of declarations are blocks of lines.** In a well-formed tree of a source, each type,
member and function that is collected has the text of its definition: the lines of the source from
the row where the definition begins to the last row of its last token, comments aside. The lines of
a member stand together among those of its class, and the rows that are cut out of the source are
always rows of it. -/
theorem texts_are_blocks (wellFormed : WellFormed source.toList tree) :
    (∀ type, type ∈ (ofTree (Text.lines source) tree).types ↔
      ∃ definition, ClassIn tree definition type.name ∧ HasText source definition type.source ∧
        type.bases = TypeDeclaration.basesOf definition) ∧
    (∀ member, member ∈ (ofTree (Text.lines source) tree).members ↔
      ∃ statement definition, MemberIn tree statement definition member.owner member.name ∧
        HasText source definition member.source ∧ member.calls = statement.callNames) ∧
    (∀ function, function ∈ (ofTree (Text.lines source) tree).functions ↔
      ∃ statement definition, FunctionIn tree statement definition function.name ∧
        HasText source definition function.source ∧ function.calls = statement.callNames) ∧
    (∀ type statement definition owner name whole part, ClassIn tree type owner →
      DefinesMember type statement definition name → HasText source type whole →
        HasText source definition part →
          part.toList.splitOn '\n' <:+: whole.toList.splitOn '\n') ∧
    ∀ definition, IsCollected tree definition →
      definition.start.row < definition.endRow ∧
        definition.endRow ≤ (Text.lines source).length := by
  refine ⟨?_, ?_, ?_, ?_, ?_⟩
  · intro type
    rw [mem_types_ofTree_iff]
    refine exists_congr fun definition => and_congr_right fun isClass => ?_
    rw [(IsCollected.type isClass).hasText_iff wellFormed]
  · rintro ⟨owner, name, text, calls⟩
    rw [mem_members_ofTree_iff]
    constructor
    · rintro ⟨statement, definition, owner, name, isMember, made⟩
      cases made
      exact ⟨statement, definition, isMember,
        ((IsCollected.member isMember).hasText_iff wellFormed).mpr rfl, rfl⟩
    · rintro ⟨statement, definition, isMember, hasText, rfl⟩
      obtain rfl := ((IsCollected.member isMember).hasText_iff wellFormed).mp hasText
      exact ⟨statement, definition, owner, name, isMember, rfl⟩
  · rintro ⟨name, text, calls⟩
    rw [mem_functions_ofTree_iff]
    constructor
    · rintro ⟨statement, definition, name, isFunction, made⟩
      cases made
      exact ⟨statement, definition, isFunction,
        ((IsCollected.function isFunction).hasText_iff wellFormed).mpr rfl, rfl⟩
    · rintro ⟨statement, definition, isFunction, hasText, rfl⟩
      obtain rfl := ((IsCollected.function isFunction).hasText_iff wellFormed).mp hasText
      exact ⟨statement, definition, name, isFunction, rfl⟩
  · intro type statement definition owner name whole part isClass defines hasWhole hasPart
    have outer := wellFormed.inside isClass.1.inside
    have inner := outer.inside defines.inside
    obtain rfl := (Syntax.Tree.hasText_iff outer isClass.kind_ne).mp hasWhole
    obtain rfl := (Syntax.Tree.hasText_iff inner defines.kind_ne).mp hasPart
    exact Syntax.Tree.splitOn_span_infix outer isClass.kind_ne defines.inside defines.kind_ne
  · intro definition collected
    obtain ⟨inside, kind⟩ := collected.inside
    have below := wellFormed.inside inside
    exact ⟨Syntax.Tree.start_row_lt_endRow below kind, Syntax.Tree.endRow_le_length below kind⟩

/-- A class with comments behind its members, and a function without a body. -/
def outlined : String := "class A:\n def f():\n  g()\n # b\n# c\ndef h():"

/-- Its texts. -/
theorem outlined_texts :
    (∃ definition, ClassIn (.ofSource outlined) definition "A" ∧
      HasText outlined definition "class A:\n def f():\n  g()") ∧
    (∃ statement definition, MemberIn (.ofSource outlined) statement definition "A" "f" ∧
      HasText outlined definition " def f():\n  g()") ∧
    ∃ statement definition, FunctionIn (.ofSource outlined) statement definition "h" ∧
      HasText outlined definition "def h():" := by
  have wellFormed : WellFormed outlined.toList (.ofSource outlined) := by decide +kernel
  obtain ⟨types, members, functions, _⟩ := texts_are_blocks wellFormed
  obtain ⟨type, isClass, typeText, _⟩ :=
    (types ⟨"A", "class A:\n def f():\n  g()", []⟩).mp (by decide +kernel)
  obtain ⟨statement, definition, isMember, memberText, _⟩ :=
    (members ⟨"A", "f", " def f():\n  g()", ["g"]⟩).mp (by decide +kernel)
  obtain ⟨last, function, isFunction, functionText, _⟩ :=
    (functions ⟨"h", "def h():", []⟩).mp (by decide +kernel)
  exact ⟨⟨type, isClass, typeText⟩, ⟨statement, definition, isMember, memberText⟩, last, function,
    isFunction, functionText⟩

end Declarations

end DeclGraph
