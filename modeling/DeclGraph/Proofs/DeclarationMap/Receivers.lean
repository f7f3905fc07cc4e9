/-
**The two forms of a method's key.**

A key spells the receiver of a method plainly, `Pair[K, V].Swap`, or in braces behind its position,
`&{0xc0001 Pair[K, V]}.Swap`. The plain form is cut at its first point; no name holds one, so the
whole receiver is before it and its parameters go. In braces the receiver is the last word, and the
parameters after the first stand in words of their own: with two parameters or more, the last one
and its bracket are taken for the receiver.

* `IsName`: the names of types, methods and type parameters;
* `plain`, `pointer`: the two forms;
* `receiver_plain`, **`receiver_pointer`**: the receivers that they give;
* `Normalised`: a key is normalised to a type and a method, in every map that has it;
* **`normalised_plain_and_pointer_iff`**: both forms are normalised alike exactly if there is one
  parameter at most;
* **`two_parameters_differ`**: a key with two.
-/

import DeclGraph.Proofs.DeclarationMap.Graph
import DeclGraph.Proofs.DeclarationMap.Groups
import Mathlib.Data.List.TakeWhile

namespace DeclGraph

namespace Key

/-! ### Names and the forms of keys -/

/-- A character of names: it is not blank, and keys do not use it as a mark. -/
def isNameCharacter (c : Char) : Bool :=
  !(Text.isBlank c || isBrace c || ['.', '[', ']', '&'].contains c)

/-- The name of a type, of a method or of a type parameter. Letters, digits and underscores are no
marks of keys, so every identifier is a name. -/
structure IsName (name : String) : Prop where
  nonempty : name ≠ ""
  plain : ∀ c ∈ name.toList, isNameCharacter c = true

instance (name : String) : Decidable (IsName name) :=
  decidable_of_iff (name ≠ "" ∧ name.toList.all isNameCharacter = true)
    ⟨fun ⟨nonempty, plain⟩ => ⟨nonempty, List.all_eq_true.mp plain⟩,
      fun ⟨nonempty, plain⟩ => ⟨nonempty, List.all_eq_true.mpr plain⟩⟩

/-- A type with its parameters in brackets, if it has any. -/
def applied (type : String) : List String → String
  | [] => type
  | parameters => type ++ "[" ++ ", ".intercalate parameters ++ "]"

/-- The key of a method with a plain receiver. -/
def plain (type : String) (parameters : List String) (method : String) : String :=
  applied type parameters ++ "." ++ method

/-- The key of a method with a receiver in braces, behind its position. -/
def pointer (position type : String) (parameters : List String) (method : String) : String :=
  "&\x7b" ++ position ++ " " ++ applied type parameters ++ "\x7d" ++ "." ++ method

/-! ### Cutting texts -/

theorem takeWhile_ne_append {separator : Char} {before : List Char} (after : List Char)
    (absent : separator ∉ before) :
    (before ++ separator :: after).takeWhile (· != separator) = before := by
  rw [List.takeWhile_append_of_pos, List.takeWhile_cons_of_neg (by simp), List.append_nil]
  intro c member
  simpa using fun same : c = separator => absent (same ▸ member)

/-- Only what follows a separator counts. -/
theorem afterLast_append_cons (separator : Char) (before after : List Char) :
    afterLast separator (before ++ separator :: after) = afterLast separator after := by
  unfold afterLast
  rw [List.reverse_append, List.reverse_cons, List.append_assoc, List.takeWhile_append]
  split
  next all =>
    rw [List.singleton_append, List.takeWhile_cons_of_neg (by simp), List.append_nil,
      (List.takeWhile_prefix _).eq_of_length all]
  next => rfl

theorem afterLast_of_notMem {separator : Char} {chars : List Char} (absent : separator ∉ chars) :
    afterLast separator chars = chars := by
  unfold afterLast
  rw [List.takeWhile_eq_self_iff.mpr, List.reverse_reverse]
  intro c member
  simpa using fun same : c = separator => absent (same ▸ List.mem_reverse.mp member)

/-- A text that is not empty and has no blank at either end. -/
structure Trimmed (chars : List Char) : Prop where
  nonempty : chars ≠ []
  first : Text.isBlank (chars.head nonempty) = false
  last : Text.isBlank (chars.getLast nonempty) = false

theorem trimChars_append (before : List Char) {word : List Char} (trimmed : Trimmed word) :
    Text.trimChars (before ++ word) = before.dropWhile Text.isBlank ++ word := by
  obtain ⟨nonempty, first, last⟩ := trimmed
  have front : (before ++ word).dropWhile Text.isBlank = before.dropWhile Text.isBlank ++ word := by
    rw [List.dropWhile_append]
    split
    next all =>
      rw [List.isEmpty_iff.mp all, List.nil_append]
      obtain ⟨c, rest, rfl⟩ := List.exists_cons_of_ne_nil nonempty
      exact List.dropWhile_cons_of_neg (by simpa using first)
    next => rfl
  obtain ⟨rest, c, rfl⟩ := (List.eq_nil_or_concat' word).resolve_left nonempty
  unfold Text.trimChars
  rw [front, ← List.append_assoc, List.reverse_concat,
    List.dropWhile_cons_of_neg (by simpa using last), List.reverse_cons, List.reverse_reverse]

/-- The last word of a text, whatever blanks stand in front of it. -/
theorem afterLast_trimChars (before : List Char) {word : List Char} (trimmed : Trimmed word) :
    afterLast ' ' (Text.trimChars (before ++ ' ' :: word)) = afterLast ' ' word := by
  have joined : before ++ ' ' :: word = (before ++ [' ']) ++ word := by simp
  rw [joined, trimChars_append _ trimmed, List.dropWhile_append]
  split
  · rfl
  · rw [List.append_assoc]
    exact afterLast_append_cons ' ' _ word

/-! ### Names in keys -/

section Names

variable {type method : String} {parameters : List String}

theorem IsName.notMem {name : String} (isName : IsName name) {c : Char}
    (mark : isNameCharacter c = false) : c ∉ name.toList := by
  intro member
  rw [isName.plain c member] at mark
  cases mark

theorem IsName.not_blank {name : String} (isName : IsName name) :
    ∀ c ∈ name.toList, Text.isBlank c = false := by
  intro c member
  have plain := isName.plain c member
  unfold isNameCharacter at plain
  simp only [Bool.not_eq_true', Bool.or_eq_false_iff] at plain
  exact plain.1.1

theorem IsName.toList_ne_nil {name : String} (isName : IsName name) : name.toList ≠ [] :=
  fun empty => isName.nonempty (String.toList_eq_nil_iff.mp empty)

theorem applied_eq (some : parameters ≠ []) :
    applied type parameters = type ++ "[" ++ ", ".intercalate parameters ++ "]" := by
  cases parameters with
  | nil => exact absurd rfl some
  | cons => rfl

/-- The characters of the parameters of a type, and the marks between them. -/
theorem mem_intercalate_names (areNames : ∀ parameter ∈ parameters, IsName parameter) {c : Char}
    (member : c ∈ (", ".intercalate parameters).toList) :
    isNameCharacter c = true ∨ c = ',' ∨ c = ' ' := by
  induction parameters with
  | nil => simp at member
  | cons first rest ih =>
    obtain ⟨isName, areNames⟩ := List.forall_mem_cons.mp areNames
    cases rest with
    | nil =>
      rw [String.intercalate_singleton] at member
      exact Or.inl (isName.plain c member)
    | cons second rest =>
      rw [String.intercalate_cons_cons, String.toList_append, String.toList_append,
        List.mem_append, List.mem_append] at member
      rcases member with (inFirst | mark) | behind
      · exact Or.inl (isName.plain c inFirst)
      · exact Or.inr (by simpa using mark)
      · exact ih areNames behind

/-- The characters of a type with its parameters. -/
theorem mem_applied (isName : IsName type) (areNames : ∀ parameter ∈ parameters, IsName parameter)
    {c : Char} (member : c ∈ (applied type parameters).toList) :
    isNameCharacter c = true ∨ c ∈ [',', ' ', '[', ']'] := by
  by_cases none : parameters = []
  · subst none
    exact Or.inl (isName.plain c member)
  · rw [applied_eq none] at member
    simp only [String.toList_append, List.mem_append] at member
    rcases member with ((inType | opening) | inside) | closing
    · exact Or.inl (isName.plain c inType)
    · exact Or.inr (by simp_all)
    · exact (mem_intercalate_names areNames inside).imp_right (by rintro (rfl | rfl) <;> simp)
    · exact Or.inr (by simp_all)

theorem notMem_of_isBrace {c : Char} (brace : isBrace c = true) : c ∉ [',', ' ', '[', ']'] := by
  unfold isBrace at brace
  rintro member
  simp only [List.mem_cons, List.not_mem_nil, or_false] at member
  rcases member with rfl | rfl | rfl | rfl <;> cases brace

theorem notMem_applied (isName : IsName type)
    (areNames : ∀ parameter ∈ parameters, IsName parameter) {c : Char}
    (mark : isNameCharacter c = false) (other : c ∉ [',', ' ', '[', ']']) :
    c ∉ (applied type parameters).toList := by
  intro member
  rcases mem_applied isName areNames member with plain | listed
  · rw [mark] at plain
    cases plain
  · exact other listed

theorem trimmed_applied (isName : IsName type) :
    Trimmed (applied type parameters).toList := by
  have blank := isName.not_blank
  obtain ⟨c, rest, chars⟩ := List.exists_cons_of_ne_nil isName.toList_ne_nil
  by_cases none : parameters = []
  · subst none
    refine ⟨isName.toList_ne_nil, blank _ (List.head_mem _), blank _ (List.getLast_mem _)⟩
  · rw [applied_eq none]
    simp only [String.toList_append, chars]
    refine ⟨by simp, blank c (by simp [chars]), ?_⟩
    simp only [show "]".toList = [']'] from rfl, List.getLast_concat]
    decide

/-- **A type without its parameters.** -/
theorem withoutGroups_applied (isName : IsName type)
    (areNames : ∀ parameter ∈ parameters, IsName parameter) :
    withoutGroups (applied type parameters).toList = type.toList := by
  have unopened : '[' ∉ type.toList := isName.notMem (by decide)
  by_cases none : parameters = []
  · subst none
    exact withoutGroups_of_notMem unopened
  · rw [applied_eq none]
    simp only [String.toList_append, List.append_assoc, show "[".toList = ['['] from rfl,
      show "]".toList = [']'] from rfl, List.cons_append, List.nil_append]
    rw [withoutGroups_append _ unopened, withoutGroups_group, withoutGroups.eq_1, List.append_nil]
    intro c member
    rcases mem_intercalate_names areNames member with plain | rfl | rfl
    · constructor <;> rintro rfl <;> cases plain
    · decide
    · decide

theorem trimChars_name (isName : IsName type) : Text.trimChars type.toList = type.toList := by
  have trimmed : Trimmed (applied type []).toList := trimmed_applied isName
  exact trimChars_append [] trimmed

/-! ### The parts of the two forms -/

/-- The name of the method follows the last point in both forms. -/
theorem method_append (before : String) (methodIsName : IsName method) :
    Key.method (before ++ "." ++ method) = method := by
  unfold Key.method
  rw [String.toList_append, String.toList_append, List.append_assoc,
    show ".".toList = ['.'] from rfl, List.singleton_append, afterLast_append_cons,
    afterLast_of_notMem (methodIsName.notMem (by decide)), String.ofList_toList]

section Parts

variable (typeIsName : IsName type) (areNames : ∀ parameter ∈ parameters, IsName parameter)

include typeIsName areNames

/-- **The plain form gives the type.** -/
theorem receiver_plain : receiver (plain type parameters method) = type := by
  have chars : (plain type parameters method).toList =
      (applied type parameters).toList ++ '.' :: method.toList := by
    simp [plain]
  have unbraced : isBraced (plain type parameters method).toList = false := by
    obtain ⟨c, rest, own⟩ := List.exists_cons_of_ne_nil typeIsName.toList_ne_nil
    have head : (plain type parameters method).toList.head? = some c := by
      rw [chars]
      by_cases none : parameters = []
      · simp [none, applied, own]
      · simp [applied_eq none, own]
    have isChar := typeIsName.plain c (by simp [own])
    unfold isBraced
    rw [head]
    simp only [Bool.or_eq_false_iff, beq_eq_false_iff_ne, ne_eq, Option.some.injEq]
    constructor <;> rintro rfl <;> exact absurd isChar (by decide)
  unfold receiver spelledReceiver
  rw [unbraced, if_neg Bool.false_ne_true, chars, takeWhile_ne_append _
    (notMem_applied typeIsName areNames (by decide) (by decide)),
    withoutGroups_applied typeIsName areNames, trimChars_name typeIsName, String.ofList_toList]

variable {position : String} (unbraced : ∀ c ∈ position.toList, isBrace c = false)

include unbraced

/-- In braces, the receiver is the last word of the type with its parameters. -/
theorem receiver_pointer : receiver (pointer position type parameters method) =
    String.ofList (Text.trimChars (withoutGroups (afterLast ' '
      (applied type parameters).toList))) := by
  have chars : (pointer position type parameters method).toList = '&' :: '\x7b' ::
      ((position.toList ++ ' ' :: (applied type parameters).toList) ++
        '\x7d' :: '.' :: method.toList) := by
    simp [pointer]
  have inner : ∀ c ∈ position.toList ++ ' ' :: (applied type parameters).toList,
      (!isBrace c) = true := by
    intro c member
    rcases List.mem_append.mp member with before | behind
    · rw [unbraced c before, Bool.not_false]
    · rcases List.mem_cons.mp behind with rfl | inType
      · decide
      · have brace : isBrace c ≠ true := fun brace =>
          notMem_applied typeIsName areNames (by simp [isNameCharacter, brace])
            (notMem_of_isBrace brace) inType
        rw [Bool.eq_false_iff.mpr brace, Bool.not_false]
  have between : betweenBraces (pointer position type parameters method).toList =
      position.toList ++ ' ' :: (applied type parameters).toList := by
    unfold betweenBraces
    rw [chars, List.dropWhile_cons_of_pos (by decide), List.dropWhile_cons_of_neg (by decide),
      List.tail_cons, List.takeWhile_append_of_pos inner, List.takeWhile_cons_of_neg (by decide),
      List.append_nil]
  have braced : isBraced (pointer position type parameters method).toList = true := by
    rw [chars]
    rfl
  unfold receiver spelledReceiver
  rw [braced, if_pos rfl, between, afterLast_trimChars _ (trimmed_applied typeIsName)]

/-- With one parameter at most, the last word is the type with its parameter. -/
theorem receiver_pointer_of_few (few : parameters.length ≤ 1) :
    receiver (pointer position type parameters method) = type := by
  have whole : ' ' ∉ (applied type parameters).toList := by
    match parameters, few, areNames with
    | [], _, _ => exact typeIsName.notMem (by decide)
    | [parameter], _, areNames =>
      have inType : ' ' ∉ type.toList := typeIsName.notMem (by decide)
      have inParameter : ' ' ∉ parameter.toList :=
        (areNames parameter List.mem_cons_self).notMem (by decide)
      simp [applied, inType, inParameter]
  rw [receiver_pointer typeIsName areNames unbraced, afterLast_of_notMem whole,
    withoutGroups_applied typeIsName areNames, trimChars_name typeIsName, String.ofList_toList]

omit areNames in
/-- **With more parameters, the last word is the last parameter with the closing bracket.** -/
theorem receiver_pointer_of_many {front : List String} {last : String} (more : front ≠ [])
    (areNames : ∀ parameter ∈ front ++ [last], IsName parameter) :
    receiver (pointer position type (front ++ [last]) method) = last ++ "]" := by
  have isName := areNames last (List.mem_append_right _ List.mem_cons_self)
  have chars : (applied type (front ++ [last])).toList =
      (type.toList ++ '[' :: (", ".intercalate front).toList ++ [',']) ++
        ' ' :: (last.toList ++ [']']) := by
    rw [applied_eq (by simp), String.intercalate_append_of_ne_nil more (List.cons_ne_nil _ _),
      String.intercalate_singleton]
    simp
  have word : ' ' ∉ last.toList ++ [']'] := by
    simpa using isName.notMem (c := ' ') (by decide)
  have trimmed : Trimmed (last.toList ++ [']']) := by
    obtain ⟨c, rest, own⟩ := List.exists_cons_of_ne_nil isName.toList_ne_nil
    refine ⟨by simp, ?_, by rw [List.getLast_concat]; decide⟩
    simpa [own] using isName.not_blank c (by simp [own])
  have unopened : '[' ∉ last.toList ++ [']'] := by
    simpa using isName.notMem (c := '[') (by decide)
  rw [receiver_pointer typeIsName areNames unbraced, chars, afterLast_append_cons,
    afterLast_of_notMem word, withoutGroups_of_notMem unopened,
    ← List.nil_append (last.toList ++ [']']), trimChars_append [] trimmed, List.dropWhile_nil,
    List.nil_append, String.ofList_append]
  simp

end Parts

end Names

end Key

/-! ### Members under the two forms -/

namespace DeclarationMap

open Key (isBrace plain pointer)

/-- A key is normalised to a type and a method: these are its parts, and in every map a method under
the key is shown as a member of that name, which the type contains if it is declared. -/
structure Normalised (key type method : String) : Prop where
  ownReceiver : Key.receiver key = type
  ownMethod : Key.method key = method
  node : ∀ (map : DeclarationMap) (declaration : ForeignDeclaration),
    (key, declaration) ∈ map.entries → declaration.kind = "method" →
      ⟨type ++ "." ++ method, method, .member, declaration.code⟩ ∈ map.graph.nodes
  containment : ∀ (map : DeclarationMap) (declaration declared : ForeignDeclaration),
    (key, declaration) ∈ map.entries → declaration.kind = "method" →
      (type, declared) ∈ map.entries → declared.kind = "type" →
        ⟨type, type ++ "." ++ method, .containment⟩ ∈ map.graph.links

/-- The parts of a key decide what it is normalised to. -/
theorem normalised_of_parts {key type method : String} (receiver : Key.receiver key = type)
    (ownMethod : Key.method key = method) : Normalised key type method := by
  refine ⟨receiver, ownMethod, ?_, ?_⟩
  · intro map declaration listed isMethod
    have known : isKnown (key, declaration) = true :=
      isKnown_iff.mpr (Or.inr (Or.inr (Or.inl isMethod)))
    have node : (emittedOf (key, declaration)).node =
        ⟨type ++ "." ++ method, method, .member, declaration.code⟩ := by
      simp [emittedOf, nodeKind?, isMethod, nodeOf, memberKey, receiver, ownMethod]
    rw [← node]
    exact node_mem_graph_nodes (List.mem_filter.mpr ⟨listed, known⟩)
  · intro map declaration declared listed isMethod typeListed isType
    have hasReceiver : map.hasReceiver (key, declaration) = true :=
      List.any_eq_true.mpr ⟨(type, declared), typeListed, by simp [isType, receiver]⟩
    have link : (⟨Key.receiver key, emittedKey (key, declaration), .containment⟩ : Link) =
        ⟨type, type ++ "." ++ method, .containment⟩ := by
      simp [emittedKey, isMethod, receiver, ownMethod]
    have chosen : (declaration.kind == "method" && map.hasReceiver (key, declaration)) = true := by
      rw [hasReceiver, isMethod]
      rfl
    rw [graph_links_eq]
    exact List.mem_append_left _ (List.mem_map.mpr
      ⟨(key, declaration), List.mem_filter.mpr ⟨listed, chosen⟩, link⟩)

/-- A receiver that is the last parameter with its bracket is not the type. -/
theorem receiver_pointer_ne {position type method : String} {parameters : List String}
    (typeIsName : Key.IsName type) (areNames : ∀ parameter ∈ parameters, Key.IsName parameter)
    (unbraced : ∀ c ∈ position.toList, isBrace c = false) (many : ¬ parameters.length ≤ 1) :
    Key.receiver (pointer position type parameters method) ≠ type := by
  obtain ⟨front, last, rfl⟩ := (List.eq_nil_or_concat' parameters).resolve_left (by
    rintro rfl
    exact many (Nat.zero_le _))
  have more : front ≠ [] := by
    rintro rfl
    exact many (Nat.le_refl _)
  intro same
  rw [Key.receiver_pointer_of_many typeIsName unbraced more areNames] at same
  have bracket : ']' ∈ type.toList := by
    rw [← same, String.toList_append]
    exact List.mem_append_right _ (by decide)
  exact typeIsName.notMem (by decide) bracket

/-- **When the two forms of a method's key are normalised alike.** The plain form is always
normalised to the type and the method. The form in braces is so exactly if the type has one
parameter at most. -/
theorem normalised_plain_and_pointer_iff {position type method : String} {parameters : List String}
    (typeIsName : Key.IsName type) (methodIsName : Key.IsName method)
    (areNames : ∀ parameter ∈ parameters, Key.IsName parameter)
    (unbraced : ∀ c ∈ position.toList, isBrace c = false) :
    Normalised (plain type parameters method) type method ∧
      Key.method (pointer position type parameters method) = method ∧
      (Normalised (pointer position type parameters method) type method ↔
        parameters.length ≤ 1) := by
  have ownMethod : Key.method (pointer position type parameters method) = method :=
    Key.method_append _ methodIsName
  have plainMethod : Key.method (plain type parameters method) = method :=
    Key.method_append _ methodIsName
  refine ⟨normalised_of_parts (Key.receiver_plain typeIsName areNames) plainMethod, ownMethod, ?_⟩
  constructor
  · intro normalised
    by_contra many
    exact receiver_pointer_ne typeIsName areNames unbraced many normalised.ownReceiver
  · intro few
    have receiver : Key.receiver (pointer position type parameters method) = type :=
      Key.receiver_pointer_of_few typeIsName areNames unbraced few
    exact normalised_of_parts receiver ownMethod

/-- A type with one parameter, in both forms. -/
theorem stack_normalised :
    Normalised (plain "Stack" ["T"] "Pop") "Stack" "Pop" ∧
      Normalised (pointer "0xc0001" "Stack" ["T"] "Pop") "Stack" "Pop" := by
  have forms : Normalised (plain "Stack" ["T"] "Pop") "Stack" "Pop" ∧
      Key.method (pointer "0xc0001" "Stack" ["T"] "Pop") = "Pop" ∧
      (Normalised (pointer "0xc0001" "Stack" ["T"] "Pop") "Stack" "Pop" ↔ ["T"].length ≤ 1) :=
    normalised_plain_and_pointer_iff (by decide +kernel) (by decide +kernel) (by decide +kernel)
      (by simp [isBrace])
  exact ⟨forms.1, forms.2.2.mpr (by decide +kernel)⟩

/-- **A type with two parameters is lost in braces**: the second parameter is taken for it. -/
theorem two_parameters_differ :
    plain "Pair" ["K", "V"] "Swap" = "Pair[K, V].Swap" ∧
      pointer "0xc0001" "Pair" ["K", "V"] "Swap" = "&\x7b0xc0001 Pair[K, V]\x7d.Swap" ∧
      Key.receiver "Pair[K, V].Swap" = "Pair" ∧
      Key.receiver "&\x7b0xc0001 Pair[K, V]\x7d.Swap" = "V]" ∧
      ¬ Normalised "&\x7b0xc0001 Pair[K, V]\x7d.Swap" "Pair" "Swap" := by
  have pointed : Key.receiver "&\x7b0xc0001 Pair[K, V]\x7d.Swap" = "V]" := by decide +kernel
  refine ⟨by decide +kernel, by decide +kernel, by decide +kernel, pointed, ?_⟩
  intro normalised
  have same := normalised.ownReceiver
  rw [pointed] at same
  exact absurd same (by decide +kernel)

end DeclarationMap

end DeclGraph
