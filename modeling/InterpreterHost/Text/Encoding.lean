import InterpreterHost.Text.CharacterClass

/-! Text as bytes and bytes as text: UTF-8 in both directions, and the quoted forms in which texts
and bytes are shown. -/

namespace InterpreterHost

/-! ### UTF-8

Bytes are read as characters and ill-formed parts; a part is as long as the start of some character
that it could have been, so that what follows it is read afresh. -/

namespace Utf8

/-- The bytes of a text. -/
def encode (text : String) : List UInt8 :=
  text.toUTF8.data.toList

theorem encode_eq_flatMap (text : String) :
    encode text = text.toList.flatMap String.utf8EncodeChar := by
  show text.toByteArray.data.toList = _
  rw [← String.utf8Encode_toList, List.utf8Encode, List.data_toByteArray]

/-- The text with the bytes `bytes`, if they are well-formed. -/
def decode? (bytes : List UInt8) : Option String :=
  String.fromUTF8? ⟨bytes.toArray⟩

/-- A piece of a run of bytes. -/
inductive Piece where
  | char (c : Char)
  /-- Bytes that are no character. -/
  | stray (bytes : List UInt8)
deriving DecidableEq

/-- The bytes of a piece. -/
def Piece.bytes : Piece → List UInt8
  | char c => String.utf8EncodeChar c
  | stray bytes => bytes

/-- A byte that continues a character. -/
def isContinuation (b : UInt8) : Bool :=
  0x80 ≤ b && b ≤ 0xBF

/-- A second byte `b` that some character with the first byte `a`, of three or four bytes, has. -/
def isSecond (a b : UInt8) : Bool :=
  if a = 0xE0 then 0xA0 ≤ b && b ≤ 0xBF
  else if a = 0xED then 0x80 ≤ b && b ≤ 0x9F
  else if a = 0xF0 then 0x90 ≤ b && b ≤ 0xBF
  else if a = 0xF4 then 0x80 ≤ b && b ≤ 0x8F
  else (0xE1 ≤ a && a ≤ 0xF3) && isContinuation b

/-- How many bytes after the first byte `a` of an ill-formed part belong to it. -/
def strayTail (a : UInt8) : List UInt8 → Nat
  | b :: c :: _ => if isSecond a b then if 0xF0 ≤ a && isContinuation c then 2 else 1 else 0
  | [b] => if isSecond a b then 1 else 0
  | [] => 0

/-- The character at the start of `bytes`. -/
def firstChar? (bytes : List UInt8) : Option Char :=
  (bytes.take 4).toByteArray.utf8DecodeChar? 0

/-- A character at the start of `bytes` has its own bytes there. -/
theorem eq_append_of_firstChar? {bytes : List UInt8} {c : Char} (h : firstChar? bytes = some c) :
    bytes = String.utf8EncodeChar c ++ bytes.drop c.utf8Size := by
  have hb := congrArg (·.data.toList) (ByteArray.eq_of_utf8DecodeChar?_eq_some h)
  simp only [List.data_toByteArray, ByteArray.data_append, Array.toList_append] at hb
  rw [← List.take_append_drop 4 bytes, hb, List.append_assoc,
    List.drop_append_of_le_length (by simp [String.length_utf8EncodeChar]),
    ← String.length_utf8EncodeChar c, List.drop_length, List.nil_append]

/-- The characters and ill-formed parts of `bytes`, in order. -/
def pieces : List UInt8 → List Piece
  | [] => []
  | b :: bs =>
    match firstChar? (b :: bs) with
    | some c => .char c :: pieces (bs.drop (c.utf8Size - 1))
    | none => .stray (b :: bs.take (strayTail b bs)) :: pieces (bs.drop (strayTail b bs))
termination_by bytes => bytes.length

/-- The pieces of `bytes` are made of its bytes, each once and in order. -/
theorem flatMap_bytes_pieces (bytes : List UInt8) :
    (pieces bytes).flatMap Piece.bytes = bytes := by
  fun_induction pieces bytes with
  | case1 => rfl
  | case2 b bs c hc ih =>
    rw [List.flatMap_cons, ih, Piece.bytes]
    have h := eq_append_of_firstChar? hc
    obtain ⟨n, hn⟩ : ∃ n, c.utf8Size = n + 1 := ⟨c.utf8Size - 1, by have := c.utf8Size_pos; omega⟩
    rw [hn, List.drop_succ_cons] at h
    rw [hn]
    exact h.symm
  | case3 b bs _ ih =>
    rw [List.flatMap_cons, ih, Piece.bytes, List.cons_append, List.take_append_drop]

/-- The text of `bytes`, with U+FFFD for each ill-formed part. -/
def toText (bytes : List UInt8) : String :=
  String.ofList <| (pieces bytes).map fun
    | .char c => c
    | .stray _ => '\uFFFD'

end Utf8

/-! ### Quoted forms

Between double quotes, with everything escaped that would not be seen for what it is. Bytes that are
no text appear as `\xFF`. -/

namespace Quoted

/-- The hexadecimal digits of `n`. -/
def hex (n : Nat) : List Char :=
  Nat.toDigits 16 n

/-- A character as it is quoted. -/
def escapeChar (c : Char) : List Char :=
  if c = '"' ∨ c = '\\' then ['\\', c]
  else if c = '\x00' then ['\\', '0']
  else if c = '\t' then ['\\', 't']
  else if c = '\n' then ['\\', 'n']
  else if c = '\r' then ['\\', 'r']
  else if isUnprintable c || isExtending c then ['\\', 'u', '\x7b'] ++ hex c.toNat ++ ['\x7d']
  else [c]

/-- The digit `n` below sixteen, in upper case. -/
def upperDigit (n : Nat) : Char :=
  n.digitChar.toUpper

/-- A byte outside of any character as it is quoted. -/
def escapeByte (b : UInt8) : List Char :=
  ['\\', 'x', upperDigit (b.toNat / 16), upperDigit (b.toNat % 16)]

/-- A piece of a run of bytes as it is quoted. -/
def escapePiece : Utf8.Piece → List Char
  | .char c => escapeChar c
  | .stray bytes => bytes.flatMap escapeByte

/-- Some characters between quotes. -/
def enclose (chars : List Char) : String :=
  String.ofList ('"' :: chars ++ ['"'])

/-- The quoted form of a text. -/
def ofText (text : String) : String :=
  enclose (text.toList.flatMap escapeChar)

/-- The quoted form of a run of bytes. -/
def ofBytes (bytes : List UInt8) : String :=
  enclose ((Utf8.pieces bytes).flatMap escapePiece)

end Quoted

end InterpreterHost
