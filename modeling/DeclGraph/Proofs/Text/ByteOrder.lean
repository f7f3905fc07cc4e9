/-
**The order of texts is the order of their bytes.**

Texts are compared character by character. The encoding of a character is never the beginning of
that of another one, and its bytes compare as the characters do.

* `DiffersBelow`: two byte sequences differ at a place that both have, the first being less there;
* `utf8EncodeChar_differsBelow`: the encodings of two characters do so if the first is less;
* **`encode_lt_encode_iff`**: a text is less than another one exactly if its bytes are.
-/

import DeclGraph.Text.Utf8
import Mathlib.Algebra.Ring.Nat

namespace DeclGraph.Text.Utf8

/-! ### Bytes of a text -/

/-- The bytes of an array from a place on, behind those that were read before. -/
theorem toList_loop_eq (bytes : ByteArray) (place : Nat) (read : List UInt8) :
    ByteArray.toList.loop bytes place read = read.reverse ++ bytes.data.toList.drop place := by
  unfold ByteArray.toList.loop
  by_cases inside : place < bytes.size
  · have bound : place < bytes.data.toList.length := inside
    have first : bytes.get! place = bytes.data.toList[place] := by
      simp [ByteArray.get!, getElem!_pos bytes.data place inside]
    rw [if_pos inside, toList_loop_eq bytes (place + 1), first, List.drop_eq_getElem_cons bound,
      List.reverse_cons, List.append_assoc]
    rfl
  · have behind : bytes.data.toList.length ≤ place := Nat.le_of_not_lt inside
    rw [if_neg inside, List.drop_eq_nil_of_le behind, List.append_nil]
termination_by bytes.size - place

/-- The bytes of a text are those of its characters. -/
theorem encode_eq_flatMap (text : String) :
    encode text = text.toList.flatMap String.utf8EncodeChar := by
  have asData : encode text = text.toByteArray.data.toList := toList_loop_eq text.toByteArray 0 []
  rw [asData, ← String.utf8Encode_toList]
  exact List.toList_data_toByteArray

/-! ### Differences -/

/-- Two byte sequences differ at a place that both have, and the first is less there. -/
def DiffersBelow : List UInt8 → List UInt8 → Prop
  | low :: first, high :: second => low < high ∨ low = high ∧ DiffersBelow first second
  | _, _ => False

namespace DiffersBelow

variable {first second : List UInt8}

/-- What comes behind the difference does not matter. -/
theorem append (below : DiffersBelow first second) (behind rest : List UInt8) :
    DiffersBelow (first ++ behind) (second ++ rest) := by
  induction first generalizing second with
  | nil => cases second <;> exact below.elim
  | cons low first ih =>
    cases second with
    | nil => exact below.elim
    | cons high second => exact below.imp_right fun ⟨same, later⟩ => ⟨same, ih later⟩

/-- A common beginning does not matter. -/
theorem append_left (shared : List UInt8) (below : DiffersBelow first second) :
    DiffersBelow (shared ++ first) (shared ++ second) := by
  induction shared with
  | nil => exact below
  | cons byte shared ih => exact Or.inr ⟨rfl, ih⟩

theorem lt (below : DiffersBelow first second) : first < second := by
  induction first generalizing second with
  | nil => cases second <;> exact below.elim
  | cons low first ih =>
    cases second with
    | nil => exact below.elim
    | cons high second =>
      rw [List.cons_lt_cons_iff]
      exact below.imp_right fun ⟨same, later⟩ => ⟨same, ih later⟩

end DiffersBelow

theorem ofNat_lt_ofNat {low high : Nat} (less : low < high) (bound : high < 256) :
    UInt8.ofNat low < UInt8.ofNat high := by
  rw [UInt8.lt_iff_toNat_lt, UInt8.toNat_ofNat', UInt8.toNat_ofNat', Nat.mod_eq_of_lt bound,
    Nat.mod_eq_of_lt (Nat.lt_trans less bound)]
  exact less

/-! ### Bytes of a number -/

/-- The bytes of a number: one with a mark, and behind it some with six bits each. -/
def marked (mark : Nat) : Nat → Nat → List UInt8
  | 0, value => [UInt8.ofNat (mark + value)]
  | count + 1, value => marked mark count (value / 64) ++ [UInt8.ofNat (0x80 + value % 64)]

/-- The first byte holds what the others leave. -/
theorem marked_eq_cons (mark count value : Nat) :
    ∃ rest, marked mark count value = UInt8.ofNat (mark + value / 64 ^ count) :: rest := by
  induction count generalizing value with
  | zero => exact ⟨[], by rw [marked, Nat.pow_zero, Nat.div_one]⟩
  | succ count ih =>
    obtain ⟨rest, same⟩ := ih (value / 64)
    refine ⟨rest ++ [UInt8.ofNat (0x80 + value % 64)], ?_⟩
    rw [marked, same, Nat.div_div_eq_div_mul, Nat.pow_succ', List.cons_append]

/-- Bytes of one form compare as the numbers do. -/
theorem marked_differsBelow {mark count low high : Nat} (less : low < high)
    (bound : mark + high / 64 ^ count < 256) :
    DiffersBelow (marked mark count low) (marked mark count high) := by
  induction count generalizing low high with
  | zero =>
    rw [Nat.pow_zero, Nat.div_one] at bound
    exact Or.inl (ofNat_lt_ofNat (Nat.add_lt_add_left less mark) bound)
  | succ count ih =>
    rw [marked, marked]
    by_cases upper : low / 64 < high / 64
    · rw [Nat.pow_succ', ← Nat.div_div_eq_div_mul] at bound
      exact (ih upper bound).append _ _
    · have same : low / 64 = high / 64 := by omega
      rw [same]
      exact (show DiffersBelow [_] [_] from
        Or.inl (ofNat_lt_ofNat (by omega) (by omega))).append_left _

/-! ### Bytes of a character -/

theorem toNat_lt (c : Char) : c.val.toNat < 0x110000 := by
  have valid := c.valid
  unfold UInt32.isValidChar Nat.isValidChar at valid
  omega

/-- How many bytes follow the first one. -/
def continuations (value : Nat) : Nat :=
  if value ≤ 0x7f then 0 else if value ≤ 0x7ff then 1 else if value ≤ 0xffff then 2 else 3

/-- The mark of a first byte, by how many bytes follow. -/
def markOf : Nat → Nat
  | 0 => 0
  | 1 => 0xc0
  | 2 => 0xe0
  | 3 => 0xf0
  | _ => 0xf8

/-- The first byte of a number. -/
def leading (value : Nat) : Nat := markOf (continuations value) + value / 64 ^ continuations value

theorem utf8EncodeChar_eq_marked (c : Char) : String.utf8EncodeChar c =
    marked (markOf (continuations c.val.toNat)) (continuations c.val.toNat) c.val.toNat := by
  have bound := toNat_lt c
  unfold String.utf8EncodeChar continuations
  generalize c.val.toNat = value at bound
  dsimp only
  by_cases one : value ≤ 0x7f
  · rw [if_pos one, if_pos one]
    show _ = [UInt8.ofNat (0 + value)]
    rw [Nat.zero_add]
  · rw [if_neg one, if_neg one]
    by_cases two : value ≤ 0x7ff
    · rw [if_pos two, if_pos two]
      show _ = [UInt8.ofNat (0xc0 + value / 64), UInt8.ofNat (0x80 + value % 64)]
      rw [Nat.add_comm 0xc0, Nat.add_comm 0x80, Nat.mod_eq_of_lt (by omega : value / 64 < 0x20)]
    · rw [if_neg two, if_neg two]
      by_cases three : value ≤ 0xffff
      · rw [if_pos three, if_pos three]
        show _ = [UInt8.ofNat (0xe0 + value / 64 / 64), UInt8.ofNat (0x80 + value / 64 % 64),
          UInt8.ofNat (0x80 + value % 64)]
        rw [Nat.div_div_eq_div_mul, Nat.add_comm 0xe0, Nat.add_comm 0x80, Nat.add_comm 0x80,
          Nat.mod_eq_of_lt (by omega : value / 4096 < 0x10)]
      · rw [if_neg three, if_neg three]
        show _ = [UInt8.ofNat (0xf0 + value / 64 / 64 / 64),
          UInt8.ofNat (0x80 + value / 64 / 64 % 64), UInt8.ofNat (0x80 + value / 64 % 64),
          UInt8.ofNat (0x80 + value % 64)]
        rw [Nat.div_div_eq_div_mul value 64 64, Nat.div_div_eq_div_mul, Nat.add_comm 0xf0,
          Nat.add_comm 0x80, Nat.add_comm 0x80, Nat.add_comm 0x80, Nat.mod_eq_of_lt (by omega : value / 262144 < 0x08)]

/-- A first byte lies below the next mark. -/
theorem leading_lt_markOf {value : Nat} (bound : value < 0x110000) :
    leading value < markOf (continuations value + 1) := by
  unfold leading continuations
  split
  · show 0 + value / 1 < 0xc0
    omega
  · split
    · show 0xc0 + value / 64 < 0xe0
      omega
    · split
      · show 0xe0 + value / 4096 < 0xf0
        omega
      · show 0xf0 + value / 262144 < 0xf8
        omega

theorem markOf_le_markOf {fewer more : Nat} (le : fewer ≤ more) : markOf fewer ≤ markOf more := by
  induction le with
  | refl => exact Nat.le_refl _
  | @step more _ ih =>
    refine Nat.le_trans ih ?_
    match more with
    | 0 | 1 | 2 | 3 => decide
    | _ + 4 => exact Nat.le_refl _

theorem markOf_lt (count : Nat) : markOf count < 256 :=
  match count with
  | 0 | 1 | 2 | 3 => by decide
  | _ + 4 => show 0xf8 < 256 by decide

theorem continuations_le {low high : Nat} (less : low < high) :
    continuations low ≤ continuations high := by
  unfold continuations
  split
  · exact Nat.zero_le _
  · rw [if_neg (by omega : ¬ high ≤ 0x7f)]
    split
    · split
      · exact Nat.le_refl 1
      · split <;> decide
    · rw [if_neg (by omega : ¬ high ≤ 0x7ff)]
      split
      · split <;> decide
      · exact Nat.le_of_eq (if_neg (by omega : ¬ high ≤ 0xffff)).symm

/-- **The bytes of characters compare as the characters do.** Where their numbers of bytes differ,
the first bytes tell it. -/
theorem utf8EncodeChar_differsBelow {first second : Char} (less : first < second) :
    DiffersBelow (String.utf8EncodeChar first) (String.utf8EncodeChar second) := by
  have less : first.val.toNat < second.val.toNat := less
  have bound := toNat_lt second
  rw [utf8EncodeChar_eq_marked, utf8EncodeChar_eq_marked]
  generalize first.val.toNat = low at less
  generalize second.val.toNat = high at less bound
  have isByte : leading high < 256 := Nat.lt_trans (leading_lt_markOf bound) (markOf_lt _)
  by_cases same : continuations low = continuations high
  · rw [same]
    exact marked_differsBelow less isByte
  · have fewer : continuations low < continuations high :=
      Nat.lt_of_le_of_ne (continuations_le less) same
    have leads : leading low < leading high := calc
      leading low < markOf (continuations low + 1) := leading_lt_markOf (Nat.lt_trans less bound)
      _ ≤ markOf (continuations high) := markOf_le_markOf fewer
      _ ≤ leading high := Nat.le_add_right _ _
    obtain ⟨_, front⟩ := marked_eq_cons (markOf (continuations low)) (continuations low) low
    obtain ⟨_, back⟩ := marked_eq_cons (markOf (continuations high)) (continuations high) high
    rw [front, back]
    exact Or.inl (ofNat_lt_ofNat leads isByte)

/-! ### Order of texts -/

/-- Lists of characters compare as their bytes do. -/
theorem flatMap_utf8EncodeChar_lt {first second : List Char} (less : first < second) :
    first.flatMap String.utf8EncodeChar < second.flatMap String.utf8EncodeChar := by
  induction first generalizing second with
  | nil =>
    cases second with
    | nil => cases less
    | cons d second =>
      rw [List.flatMap_nil, List.flatMap_cons]
      cases bytes : String.utf8EncodeChar d with
      | nil => exact absurd bytes String.utf8EncodeChar_ne_nil
      | cons byte rest => exact List.nil_lt_cons byte _
  | cons c first ih =>
    cases second with
    | nil => cases less
    | cons d second =>
      rw [List.flatMap_cons, List.flatMap_cons]
      rcases List.cons_lt_cons_iff.mp less with differs | ⟨rfl, later⟩
      · exact ((utf8EncodeChar_differsBelow differs).append _ _).lt
      · exact List.append_left_lt (ih later)

/-- **The order of texts is the order of their bytes.** -/
theorem encode_lt_encode_iff {first second : String} :
    encode first < encode second ↔ first < second := by
  rw [encode_eq_flatMap, encode_eq_flatMap]
  refine ⟨fun less => ?_, flatMap_utf8EncodeChar_lt⟩
  by_cases order : first < second
  · exact order
  · by_cases same : first = second
    · rw [same] at less
      exact absurd less (List.lt_irrefl _)
    · have greater : second < first :=
        Std.lt_of_le_of_ne (String.not_lt.mp order) (Ne.symm same)
      exact absurd less (List.lt_asymm (flatMap_utf8EncodeChar_lt greater))

end DeclGraph.Text.Utf8
