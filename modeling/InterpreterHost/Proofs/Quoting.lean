import InterpreterHost.Launch

/-! Quoted forms read back. Its first characters tell which escape a quoted form starts with, if it
starts with one (`Quoted.next?`), so what was quoted can be read off piece by piece (`Quoted.read`).
Of a text these pieces are its characters (`Quoted.read_text`), of a run of bytes they are made of
its bytes (`Quoted.flatMap_bytes_read`), no matter which of them are text. So the log tells
identities apart by their names and modes by their paths (`quoted_tells_apart`). -/

namespace InterpreterHost

namespace Quoted

/-! ### Hexadecimal numbers -/

/-- The value of a hexadecimal digit. -/
def digitValue (c : Char) : Nat :=
  if c.isDigit then c.toNat - 48 else c.toLower.toNat - 87

/-- The number that some hexadecimal digits stand for. -/
def hexValue (digits : List Char) : Nat :=
  digits.foldl (fun n c => 16 * n + digitValue c) 0

theorem digitValue_digitChar : ∀ n < 16, digitValue n.digitChar = n := by decide

theorem digitValue_upperDigit : ∀ n < 16, digitValue (upperDigit n) = n := by decide

theorem digitChar_ne_brace : ∀ n < 16, n.digitChar ≠ '\x7d' := by decide

theorem hexValue_concat (digits : List Char) (c : Char) :
    hexValue (digits ++ [c]) = 16 * hexValue digits + digitValue c := by
  simp [hexValue]

theorem hex_of_lt {n : Nat} (h : n < 16) : hex n = [n.digitChar] :=
  Nat.toDigits_of_lt_base h

theorem hex_of_le {n : Nat} (h : 16 ≤ n) : hex n = hex (n / 16) ++ [(n % 16).digitChar] :=
  Nat.toDigits_of_base_le (by decide) h

/-- The digits of a number stand for it: the last one is split off, and the others are those of a
smaller number. -/
theorem hexValue_hex (n : Nat) : hexValue (hex n) = n := by
  induction n using Nat.strongRecOn with
  | _ n ih =>
    by_cases h : n < 16
    · rw [hex_of_lt h]
      simp [hexValue, digitValue_digitChar n h]
    · rw [hex_of_le (by omega), hexValue_concat, ih (n / 16) (by omega),
        digitValue_digitChar (n % 16) (by omega)]
      omega

/-- The brace that ends a number is none of its digits. -/
theorem brace_not_mem_hex (n : Nat) : '\x7d' ∉ hex n := by
  induction n using Nat.strongRecOn with
  | _ n ih =>
    by_cases h : n < 16
    · rw [hex_of_lt h, List.mem_singleton]
      exact (digitChar_ne_brace n h).symm
    · rw [hex_of_le (by omega), List.mem_append, List.mem_singleton, not_or]
      exact ⟨ih (n / 16) (by omega), (digitChar_ne_brace (n % 16) (by omega)).symm⟩

/-! ### Reading -/

/-- The first piece that a quoted form shows, and what follows it. -/
def next? : List Char → Option (Utf8.Piece × List Char)
  | [] => none
  | '\\' :: '0' :: cs => some (.char '\x00', cs)
  | '\\' :: 't' :: cs => some (.char '\t', cs)
  | '\\' :: 'n' :: cs => some (.char '\n', cs)
  | '\\' :: 'r' :: cs => some (.char '\r', cs)
  | '\\' :: 'u' :: '\x7b' :: cs =>
    let digits := cs.takeWhile (· ≠ '\x7d')
    some (.char (Char.ofNat (hexValue digits)), cs.drop (digits.length + 1))
  | '\\' :: 'x' :: high :: low :: cs =>
    some (.stray [UInt8.ofNat (hexValue [high, low])], cs)
  | '\\' :: c :: cs => some (.char c, cs)
  | c :: cs => some (.char c, cs)

/-- Every piece takes up some character. -/
theorem length_next? {quoted rest : List Char} {piece : Utf8.Piece}
    (h : next? quoted = some (piece, rest)) : rest.length < quoted.length := by
  unfold next? at h
  split at h <;> cases h <;> simp <;> omega

/-- The pieces that a quoted form shows. -/
def read (quoted : List Char) : List Utf8.Piece :=
  match _ : next? quoted with
  | some (piece, rest) => piece :: read rest
  | none => []
termination_by quoted.length
decreasing_by exact length_next? ‹_›

theorem read_nil : read [] = [] := by
  rw [read]
  rfl

theorem read_of_next? {quoted rest : List Char} {piece : Utf8.Piece}
    (h : next? quoted = some (piece, rest)) : read quoted = piece :: read rest := by
  rw [read]
  split <;> simp_all

theorem next?_brace (cs : List Char) :
    next? ('\\' :: 'u' :: '\x7b' :: cs) =
      let digits := cs.takeWhile (· ≠ '\x7d')
      some (.char (Char.ofNat (hexValue digits)), cs.drop (digits.length + 1)) := rfl

/-- A character given by its number is read up to the brace, whatever stands behind it. -/
theorem next?_hex (c : Char) (rest : List Char) :
    next? (['\\', 'u', '\x7b'] ++ hex c.toNat ++ ['\x7d'] ++ rest) = some (.char c, rest) := by
  have inside : ∀ d ∈ hex c.toNat, decide (d ≠ '\x7d') = true := by
    intro d hd
    rw [decide_eq_true_eq]
    rintro rfl
    exact brace_not_mem_hex _ hd
  have digits : (hex c.toNat ++ '\x7d' :: rest).takeWhile (· ≠ '\x7d') = hex c.toNat := by
    rw [List.takeWhile_append_of_pos inside, List.takeWhile_cons_of_neg (by decide),
      List.append_nil]
  have after : (hex c.toNat ++ '\x7d' :: rest).drop ((hex c.toNat).length + 1) = rest := by
    rw [List.drop_append]
    simp
  have spelled : ['\\', 'u', '\x7b'] ++ hex c.toNat ++ ['\x7d'] ++ rest =
      '\\' :: 'u' :: '\x7b' :: (hex c.toNat ++ '\x7d' :: rest) := by simp
  rw [spelled, next?_brace]
  simp only [digits, after, hexValue_hex, Char.ofNat_toNat]

/-- Nothing but a backslash starts an escape. -/
theorem next?_cons {c : Char} (h : c ≠ '\\') (rest : List Char) :
    next? (c :: rest) = some (.char c, rest) := by
  unfold next?
  split <;> simp_all

/-- Whichever escape a character has, and if it has none, it is what its quoted form starts with. -/
theorem next?_escapeChar (c : Char) (rest : List Char) :
    next? (escapeChar c ++ rest) = some (.char c, rest) := by
  unfold escapeChar
  split
  · next h => rcases h with rfl | rfl <;> rfl
  · next plain =>
    split
    · next h => rw [h]; rfl
    split
    · next h => rw [h]; rfl
    split
    · next h => rw [h]; rfl
    split
    · next h => rw [h]; rfl
    split
    · exact next?_hex c rest
    · exact next?_cons (fun h => plain (.inr h)) rest

/-- A byte given by its two digits is read as that byte. -/
theorem next?_escapeByte (b : UInt8) (rest : List Char) :
    next? (escapeByte b ++ rest) = some (.stray [b], rest) := by
  have bound := b.toNat_lt
  have value : hexValue [upperDigit (b.toNat / 16), upperDigit (b.toNat % 16)] = b.toNat := by
    simp only [hexValue, List.foldl_cons, List.foldl_nil]
    rw [digitValue_upperDigit _ (by omega), digitValue_upperDigit _ (by omega)]
    omega
  show some (Utf8.Piece.stray [UInt8.ofNat (hexValue [_, _])], rest) = _
  rw [value, UInt8.ofNat_toNat]

/-! ### Quoted forms -/

/-- The pieces of which a piece is quoted one by one: a character, or each byte on its own. -/
def atoms : Utf8.Piece → List Utf8.Piece
  | .char c => [.char c]
  | .stray bytes => bytes.map fun b => .stray [b]

/-- A quoted piece is read back, a stray one byte by byte, and what stands behind it is read on its
own. -/
theorem read_escapePiece (piece : Utf8.Piece) (rest : List Char) :
    read (escapePiece piece ++ rest) = atoms piece ++ read rest := by
  cases piece with
  | char c => exact read_of_next? (next?_escapeChar c rest)
  | stray bytes =>
    induction bytes with
    | nil => rfl
    | cons b bytes ih =>
      rw [escapePiece, List.flatMap_cons, List.append_assoc, read_of_next? (next?_escapeByte b _)]
      exact congrArg (_ :: ·) ih

theorem read_pieces (pieces : List Utf8.Piece) :
    read (pieces.flatMap escapePiece) = pieces.flatMap atoms := by
  induction pieces with
  | nil => exact read_nil
  | cons piece pieces ih => rw [List.flatMap_cons, List.flatMap_cons, read_escapePiece, ih]

/-- A quoted text shows its characters. -/
theorem read_text (text : List Char) : read (text.flatMap escapeChar) = text.map .char := by
  have pieces := read_pieces (text.map .char)
  rw [List.flatMap_map, List.flatMap_map] at pieces
  rw [List.map_eq_flatMap]
  exact pieces

theorem flatMap_bytes_atoms (piece : Utf8.Piece) :
    (atoms piece).flatMap Utf8.Piece.bytes = piece.bytes := by
  cases piece with
  | char c => exact List.flatMap_singleton ..
  | stray bytes => simp [atoms, Utf8.Piece.bytes, List.flatMap_map]

/-- A quoted run of bytes shows pieces with these bytes. -/
theorem flatMap_bytes_read (bytes : List UInt8) :
    (read ((Utf8.pieces bytes).flatMap escapePiece)).flatMap Utf8.Piece.bytes = bytes := by
  rw [read_pieces, List.flatMap_assoc]
  simp only [flatMap_bytes_atoms]
  exact Utf8.flatMap_bytes_pieces bytes

theorem enclose_injective : Function.Injective enclose := by
  intro chars others h
  have same := String.ofList_injective h
  simpa using same

theorem ofText_injective : Function.Injective ofText := by
  intro text other h
  have same := congrArg read (enclose_injective h)
  rw [read_text, read_text] at same
  have chars := (List.map_inj_right fun _ _ h => Utf8.Piece.char.inj h).mp same
  exact String.toList_inj.mp chars

/-- Runs of bytes with one quoted form are the same, text or not. -/
theorem ofBytes_injective : Function.Injective ofBytes := by
  intro bytes others h
  have same := congrArg (fun chars => (read chars).flatMap Utf8.Piece.bytes) (enclose_injective h)
  simpa only [flatMap_bytes_read] using same

end Quoted

/-- What stands between the same two texts is the same if the whole is. -/
theorem eq_of_append_append {front inner inner' back : String}
    (h : front ++ inner ++ back = front ++ inner' ++ back) : inner = inner' := by
  have same := congrArg String.toList h
  rw [String.toList_append, String.toList_append, String.toList_append,
    String.toList_append] at same
  exact String.toList_inj.mp (List.append_cancel_left (List.append_cancel_right same))

theorem Identity.quoted_injective : Function.Injective Identity.quoted := by
  intro first second h
  exact congrArg Identity.mk (Quoted.ofText_injective (eq_of_append_append h))

theorem Mode.quoted_conversation_ne (path : Path) : conversation.quoted ≠ (script path).quoted := by
  intro h
  have first := congrArg (·.toList.head?) h
  simp [quoted] at first

/-- Modes that are shown alike are the same: only a script's has a parenthesis, and its path is
quoted there. -/
theorem Mode.quoted_injective : Function.Injective Mode.quoted := by
  intro mode other h
  cases mode with
  | conversation =>
    cases other with
    | conversation => rfl
    | script path => exact absurd h (quoted_conversation_ne path)
  | script path =>
    cases other with
    | conversation => exact absurd h.symm (quoted_conversation_ne path)
    | script path' => rw [Quoted.ofBytes_injective (eq_of_append_append h)]

/-- Identities that the log shows alike are the same, and so are modes, whatever the bytes of their
paths: two lists of arguments have modes that are shown alike just if both mean a conversation or
both name the same script, byte for byte, and then the modes agree. -/
theorem quoted_tells_apart :
    (∀ first second : Identity, first.quoted = second.quoted ↔ first = second) ∧
    ∀ args others : List Path,
      let mode := Mode.ofArguments args
      let other := Mode.ofArguments others
      (mode.quoted = other.quoted ↔ mode = .conversation ∧ other = .conversation ∨
        ∃ path, mode = .script path ∧ other = .script path) ∧
      (mode.quoted = other.quoted → mode.agrees other) := by
  refine ⟨fun first second => ⟨fun h => Identity.quoted_injective h, congrArg Identity.quoted⟩,
    ?_⟩
  intro args others mode other
  constructor
  · constructor
    · intro shown
      have same : mode = other := Mode.quoted_injective shown
      rw [← same]
      cases mode with
      | conversation => exact .inl ⟨rfl, rfl⟩
      | script path => exact .inr ⟨path, rfl, rfl⟩
    · rintro (⟨talk, talk'⟩ | ⟨path, script, script'⟩)
      · rw [talk, talk']
      · rw [script, script']
  · intro shown
    have same : mode = other := Mode.quoted_injective shown
    rw [← same]
    cases mode <;> simp [Mode.agrees]

/-- A path of one stray byte is told from a path that spells out its escape, and a script from a
conversation with two arguments. -/
theorem stray_byte_told_from_its_escape :
    let stray : List Path := [[0xFF]]
    let spelled : List Path := [[0x5C, 0x78, 0x46, 0x46]]
    let talk : List Path := [[0x22], [0xC3, 0xA9]]
    (Mode.ofArguments stray).quoted ≠ (Mode.ofArguments spelled).quoted ∧
      (Mode.ofArguments stray).quoted ≠ (Mode.ofArguments talk).quoted ∧
      (Mode.ofArguments []).agrees (Mode.ofArguments talk) = true := by
  intro stray spelled talk
  obtain ⟨-, modes⟩ := quoted_tells_apart
  refine ⟨?_, ?_, (modes [] talk).2 rfl⟩
  · rw [ne_eq, (modes stray spelled).1]
    simp [stray, spelled, Mode.ofArguments]
  · rw [ne_eq, (modes stray talk).1]
    simp [stray, talk, Mode.ofArguments]

end InterpreterHost
