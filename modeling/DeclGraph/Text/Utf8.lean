/-
**Texts as bytes.**

Reading UTF-8 byte by byte. A byte that cannot continue the sequence begun before it ends a faulty
piece; the piece is as long as the longest part that some character's bytes begin with, and the
byte itself is looked at anew. A piece that the input cuts off is incomplete.

* `decode`: the text, or where and how the first fault occurs;
* `decodeLossy`: the text with one replacement character for each faulty piece;
* `encode`: the bytes of a text.
-/

namespace DeclGraph.Text.Utf8

/-- The first fault of a byte sequence. -/
inductive Fault where
  /-- a faulty piece of `length` bytes begins at byte `index` -/
  | invalid (length index : Nat)
  /-- the input ends inside a sequence that begins at byte `index` -/
  | incomplete (index : Nat)
  deriving DecidableEq, Repr

/-- A fault in words. -/
def Fault.message : Fault → String
  | invalid length index => s!"invalid utf-8 sequence of {length} bytes from index {index}"
  | incomplete index => s!"incomplete utf-8 byte sequence from index {index}"

/-- What a stretch of bytes stands for. -/
inductive Piece where
  | char (c : Char) (length : Nat)
  | invalid (length : Nat)
  | incomplete (length : Nat)
  deriving DecidableEq, Repr

namespace Piece

/-- How many bytes the piece takes. -/
def length : Piece → Nat
  | char _ length | invalid length | incomplete length => length

end Piece

/-- A sequence that has begun: what its next byte may be, and how many bytes are still owed. -/
structure Pending where
  /-- the bits read so far -/
  bits : Nat
  /-- the least and the greatest next byte -/
  low : Nat
  high : Nat
  owed : Nat
  seen : Nat
  deriving DecidableEq, Repr

/-- The reader between two bytes: the pieces found, last first, and the sequence under way. -/
structure Scan where
  pieces : List Piece := []
  pending : Option Pending := none
  deriving DecidableEq, Repr

/-- How a sequence may begin. -/
def begin (byte : Nat) : Piece ⊕ Pending :=
  if byte < 0x80 then .inl (.char (Char.ofNat byte) 1)
  else if byte < 0xC2 then .inl (.invalid 1)
  else if byte < 0xE0 then .inr ⟨byte % 32, 0x80, 0xBF, 1, 1⟩
  else if byte = 0xE0 then .inr ⟨0, 0xA0, 0xBF, 2, 1⟩
  else if byte = 0xED then .inr ⟨13, 0x80, 0x9F, 2, 1⟩
  else if byte < 0xF0 then .inr ⟨byte % 16, 0x80, 0xBF, 2, 1⟩
  else if byte = 0xF0 then .inr ⟨0, 0x90, 0xBF, 3, 1⟩
  else if byte < 0xF4 then .inr ⟨byte % 8, 0x80, 0xBF, 3, 1⟩
  else if byte = 0xF4 then .inr ⟨4, 0x80, 0x8F, 3, 1⟩
  else .inl (.invalid 1)

/-- The reader at the first byte of a sequence. -/
def Scan.first (pieces : List Piece) (byte : Nat) : Scan :=
  match begin byte with
  | .inl piece => ⟨piece :: pieces, none⟩
  | .inr pending => ⟨pieces, some pending⟩

/-- The reader after one more byte. -/
def Scan.next (scan : Scan) (byte : UInt8) : Scan :=
  let byte := byte.toNat
  match scan.pending with
  | none => Scan.first scan.pieces byte
  | some pending =>
    if pending.low ≤ byte && byte ≤ pending.high then
      let bits := pending.bits * 64 + byte % 64
      if pending.owed = 1 then ⟨.char (Char.ofNat bits) (pending.seen + 1) :: scan.pieces, none⟩
      else ⟨scan.pieces, some ⟨bits, 0x80, 0xBF, pending.owed - 1, pending.seen + 1⟩⟩
    else Scan.first (.invalid pending.seen :: scan.pieces) byte

/-- The pieces of a byte sequence. -/
def pieces (bytes : List UInt8) : List Piece :=
  let scan := bytes.foldl Scan.next {}
  match scan.pending with
  | none => scan.pieces.reverse
  | some pending => (.incomplete pending.seen :: scan.pieces).reverse

/-- The characters of the pieces up to the first fault, which is told by its byte index. -/
def charsOf (index : Nat) (read : List Char) : List Piece → Except Fault (List Char)
  | [] => .ok read.reverse
  | .char c length :: rest => charsOf (index + length) (c :: read) rest
  | .invalid length :: _ => .error (.invalid length index)
  | .incomplete _ :: _ => .error (.incomplete index)

/-- The text of a byte sequence. -/
def decode (bytes : List UInt8) : Except Fault String :=
  (charsOf 0 [] (pieces bytes)).map String.ofList

/-- What is shown for a piece: its character, or the replacement character. -/
def Piece.shown : Piece → Char
  | char c _ => c
  | _ => '\uFFFD'

/-- The text of a byte sequence, with the replacement character for each faulty piece. -/
def decodeLossy (bytes : List UInt8) : String := String.ofList ((pieces bytes).map Piece.shown)

/-- The bytes of a text. -/
def encode (text : String) : List UInt8 := text.toUTF8.toList

end DeclGraph.Text.Utf8
