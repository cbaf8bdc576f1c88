import InterpreterHost.Text.Fields
import InterpreterHost.Text.LineBreak

/-! Text wrapped to a number of columns, and what wrapping keeps of it. All that is on wrapped lines
was in the text, and none of it is a newline (`Wrap.mem_of_mem_wrap`). -/

namespace InterpreterHost

/-! ### Columns

The columns that text takes on a terminal: none for controls, combining characters and other
invisible ones, two for ideographs and emoji, one for the rest. Escape sequences take none; `Scan`
follows them one character at a time. -/

/-- Controls, the property Default_Ignorable_Code_Point and the vowels and finals of Hangul
syllables, so far as they are not extending. -/
def CodeRanges.invisible : CodeRanges :=
  [(0x0, 0x1F), (0x7F, 0x9F), (0xAD, 0xAD), (0x61C, 0x61C), (0x1160, 0x11FF), (0x180E, 0x180E),
    (0x200B, 0x200B), (0x200D, 0x200F), (0x202A, 0x202E), (0x2060, 0x206F), (0x3164, 0x3164),
    (0xD7B0, 0xD7C6), (0xD7CB, 0xD7FB), (0xFEFF, 0xFEFF), (0xFFA0, 0xFFA0), (0xFFF0, 0xFFF8),
    (0x1BCA0, 0x1BCA3), (0x1D173, 0x1D17A), (0xE0000, 0xE001F), (0xE0080, 0xE00FF),
    (0xE01F0, 0xE0FFF)]

/-- The values W and F of the property East_Asian_Width. -/
def CodeRanges.wide : CodeRanges :=
  [(0x1100, 0x115F), (0x231A, 0x231B), (0x2329, 0x232A), (0x23E9, 0x23EC), (0x23F0, 0x23F0),
    (0x23F3, 0x23F3), (0x25FD, 0x25FE), (0x2614, 0x2615), (0x2630, 0x2637), (0x2648, 0x2653),
    (0x267F, 0x267F), (0x268A, 0x268F), (0x2693, 0x2693), (0x26A1, 0x26A1), (0x26AA, 0x26AB),
    (0x26BD, 0x26BE), (0x26C4, 0x26C5), (0x26CE, 0x26CE), (0x26D4, 0x26D4), (0x26EA, 0x26EA),
    (0x26F2, 0x26F3), (0x26F5, 0x26F5), (0x26FA, 0x26FA), (0x26FD, 0x26FD), (0x2705, 0x2705),
    (0x270A, 0x270B), (0x2728, 0x2728), (0x274C, 0x274C), (0x274E, 0x274E), (0x2753, 0x2755),
    (0x2757, 0x2757), (0x2795, 0x2797), (0x27B0, 0x27B0), (0x27BF, 0x27BF), (0x2B1B, 0x2B1C),
    (0x2B50, 0x2B50), (0x2B55, 0x2B55), (0x2E80, 0x2E99), (0x2E9B, 0x2EF3), (0x2F00, 0x2FD5),
    (0x2FF0, 0x303E), (0x3041, 0x3096), (0x3099, 0x30FF), (0x3105, 0x312F), (0x3131, 0x318E),
    (0x3190, 0x31E5), (0x31EF, 0x321E), (0x3220, 0x3247), (0x3250, 0xA48C), (0xA490, 0xA4C6),
    (0xA960, 0xA97C), (0xAC00, 0xD7A3), (0xF900, 0xFAFF), (0xFE10, 0xFE19), (0xFE30, 0xFE52),
    (0xFE54, 0xFE66), (0xFE68, 0xFE6B), (0xFF01, 0xFF60), (0xFFE0, 0xFFE6), (0x16FE0, 0x16FE4),
    (0x16FF0, 0x16FF6), (0x17000, 0x18CD5), (0x18CFF, 0x18D1E), (0x18D80, 0x18DF2),
    (0x1AFF0, 0x1AFF3), (0x1AFF5, 0x1AFFB), (0x1AFFD, 0x1AFFE), (0x1B000, 0x1B122),
    (0x1B132, 0x1B132), (0x1B150, 0x1B152), (0x1B155, 0x1B155), (0x1B164, 0x1B167),
    (0x1B170, 0x1B2FB), (0x1D300, 0x1D356), (0x1D360, 0x1D376), (0x1F004, 0x1F004),
    (0x1F0CF, 0x1F0CF), (0x1F18E, 0x1F18E), (0x1F191, 0x1F19A), (0x1F200, 0x1F202),
    (0x1F210, 0x1F23B), (0x1F240, 0x1F248), (0x1F250, 0x1F251), (0x1F260, 0x1F265),
    (0x1F300, 0x1F320), (0x1F32D, 0x1F335), (0x1F337, 0x1F37C), (0x1F37E, 0x1F393),
    (0x1F3A0, 0x1F3CA), (0x1F3CF, 0x1F3D3), (0x1F3E0, 0x1F3F0), (0x1F3F4, 0x1F3F4),
    (0x1F3F8, 0x1F43E), (0x1F440, 0x1F440), (0x1F442, 0x1F4FC), (0x1F4FF, 0x1F53D),
    (0x1F54B, 0x1F54E), (0x1F550, 0x1F567), (0x1F57A, 0x1F57A), (0x1F595, 0x1F596),
    (0x1F5A4, 0x1F5A4), (0x1F5FB, 0x1F64F), (0x1F680, 0x1F6C5), (0x1F6CC, 0x1F6CC),
    (0x1F6D0, 0x1F6D2), (0x1F6D5, 0x1F6D8), (0x1F6DC, 0x1F6DF), (0x1F6EB, 0x1F6EC),
    (0x1F6F4, 0x1F6FC), (0x1F7E0, 0x1F7EB), (0x1F7F0, 0x1F7F0), (0x1F90C, 0x1F93A),
    (0x1F93C, 0x1F945), (0x1F947, 0x1F9FF), (0x1FA70, 0x1FA7C), (0x1FA80, 0x1FA8A),
    (0x1FA8E, 0x1FAC6), (0x1FAC8, 0x1FAC8), (0x1FACD, 0x1FADC), (0x1FADF, 0x1FAEA),
    (0x1FAEF, 0x1FAF8), (0x20000, 0x2FFFD), (0x30000, 0x3FFFD)]

/-- The character takes two columns on its own. -/
def isWide (c : Char) : Bool :=
  CodeRanges.wide.contains c.toNat

/-- The columns of a character that is no part of an escape sequence. -/
def columns (c : Char) : Nat :=
  if CodeRanges.invisible.contains c.toNat || isExtending c then 0 else if isWide c then 2 else 1

/-- The character that starts an escape sequence. -/
def escape : Char := '\x1b'

/-- Where a reader of text stands with respect to escape sequences. -/
inductive Scan where
  /-- In no escape sequence. -/
  | plain
  /-- After the character that starts one. -/
  | opened
  /-- In a control sequence, which a character from `@` to `~` ends. -/
  | control
  /-- In a command, which BEL or an escape and a backslash end; `afterEscape` says that the last
  character was an escape. -/
  | command (afterEscape : Bool)
deriving DecidableEq

namespace Scan

/-- Where the reader stands after `c`. -/
def next (c : Char) : Scan → Scan
  | plain => if c = escape then opened else plain
  | opened => if c = '[' then control else if c = ']' then command false else plain
  | control => if '@' ≤ c ∧ c ≤ '~' then plain else control
  | command afterEscape =>
    if c = '\x07' ∨ (afterEscape ∧ c = '\\') then plain else command (c = escape)

/-- The character `c` is part of the text itself. -/
def shows (c : Char) (scan : Scan) : Bool :=
  scan = plain && c != escape

/-- The columns of the character `c`, none inside an escape sequence. -/
def columns (c : Char) (scan : Scan) : Nat :=
  if scan.shows c then InterpreterHost.columns c else 0

/-- The columns of a text that is read on from `scan`. -/
def width (scan : Scan) : List Char → Nat
  | [] => 0
  | c :: cs => scan.columns c + (scan.next c).width cs

/-- The characters of the text itself, read on from `scan`. -/
def shown (scan : Scan) : List Char → List Char
  | [] => []
  | c :: cs =>
    let rest := (scan.next c).shown cs
    if scan.shows c then c :: rest else rest

/-- The first character of the text itself, read on from `scan`. -/
def firstShown? (scan : Scan) : List Char → Option Char
  | [] => none
  | c :: cs => if scan.shows c then some c else (scan.next c).firstShown? cs

end Scan

/-- The columns of a text. -/
def width (text : List Char) : Nat :=
  Scan.plain.width text

/-! ### Wrapping

A line is cut into segments: words, the parts of words after inner hyphens, and pieces of parts that
are too wide for a line. Segments fill lines from the first on, each going to the current line if it
fits. The spaces that follow a segment stay with it and are dropped at the end of a line; nothing
else is lost. -/

namespace Wrap

/-- A hyphen, or the invisible one of a word that may be broken there. -/
def isHyphen (c : Char) : Bool :=
  c = '-' || c = '\u00AD'

/-- The words of a line that is read on from `scan`, after what `context` tells of it, the spaces
after each word included. None ends right after a hyphen. -/
def wordsFrom (scan : Scan) (context : BreakContext) : List Char → List (List Char)
  | [] => []
  | c :: cs =>
    let context := if scan.shows c then context.next (.ofChar c) else context
    let ends := scan.shows c && !isHyphen c &&
      (Scan.plain.firstShown? cs).any fun d => context.mayBreak (.ofChar d)
    match ends, wordsFrom (scan.next c) context cs with
    | false, word :: later => (c :: word) :: later
    | _, later => [c] :: later

/-- The words of a line, one after another, are the line. -/
theorem flatten_wordsFrom (scan : Scan) (context : BreakContext) (line : List Char) :
    (wordsFrom scan context line).flatten = line := by
  induction line generalizing scan context with
  | nil => rfl
  | cons c cs ih =>
    have h := ih (scan.next c) (if scan.shows c then context.next (.ofChar c) else context)
    rw [wordsFrom]
    split
    · next heq => rw [heq] at h; simp [← h]
    · simp [h]

/-- The words with the last two of them made one. -/
def joinLast : List (List Char) → List (List Char)
  | [word, last] => [word ++ last]
  | word :: words => word :: joinLast words
  | [] => []

/-- Joining words loses nothing. -/
theorem flatten_joinLast (words : List (List Char)) : (joinLast words).flatten = words.flatten := by
  fun_induction joinLast words with
  | case1 => simp
  | case2 _ _ _ ih => simp [ih]
  | case3 => rfl

/-- The words of a line. A hyphen at its end makes the last two of them one. -/
def words (line : List Char) : List (List Char) :=
  let found := wordsFrom .plain .start line
  if (Scan.plain.shown line).getLast?.any isHyphen then joinLast found else found

/-- The words of a line, one after another, are the line. -/
theorem flatten_words (line : List Char) : (words line).flatten = line := by
  unfold words
  split <;> simp [flatten_joinLast, flatten_wordsFrom]

/-- A text without the spaces at its end. -/
def trimEnd : List Char → List Char
  | [] => []
  | c :: cs =>
    let rest := trimEnd cs
    if c = ' ' ∧ rest = [] then [] else c :: rest

/-- Only spaces are trimmed. -/
theorem trimEnd_append_replicate (text : List Char) :
    trimEnd text ++ List.replicate (text.length - (trimEnd text).length) ' ' = text := by
  induction text with
  | nil => rfl
  | cons c cs ih =>
    by_cases h : c = ' ' ∧ trimEnd cs = []
    · obtain ⟨rfl, hr⟩ := h
      simp only [hr, List.nil_append, List.length_nil, Nat.sub_zero] at ih
      simp [trimEnd, hr, List.replicate_succ, ih]
    · simp [trimEnd, h, ih]

/-- A stretch of text that stays on one line, and the number of spaces that follow it. -/
structure Segment where
  text : List Char
  spaces : Nat
deriving DecidableEq

/-- The text of a segment with the spaces that follow it. -/
def Segment.full (segment : Segment) : List Char :=
  segment.text ++ List.replicate segment.spaces ' '

/-- The segments with the given texts, the last of them followed by `spaces` spaces. -/
def Segment.ofParts (spaces : Nat) : List (List Char) → List Segment
  | [] => []
  | [part] => [⟨part, spaces⟩]
  | part :: parts => ⟨part, 0⟩ :: ofParts spaces parts

/-- The parts of a word, each but the last ending in a hyphen between two letters or digits;
`joined` says that a letter or digit came before. -/
def hyphenParts (joined : Bool) : List Char → List (List Char)
  | [] => [[]]
  | c :: cs =>
    let ends := joined && c = '-' && cs.head?.any isAlphanumeric
    match ends, hyphenParts (isAlphanumeric c) cs with
    | false, part :: parts => (c :: part) :: parts
    | _, parts => [c] :: parts

/-- The parts of a word, one after another, are the word. -/
theorem flatten_hyphenParts (joined : Bool) (word : List Char) :
    (hyphenParts joined word).flatten = word := by
  induction word generalizing joined with
  | nil => rfl
  | cons c cs ih =>
    have h := ih (isAlphanumeric c)
    rw [hyphenParts]
    split
    · next heq => rw [heq] at h; simp [← h]
    · simp [h]

/-- The rest of the piece that has `used` columns, and the pieces after it, none of them wider than
`limit` unless a single character is. -/
def breakFrom (limit : Nat) (scan : Scan) (used : Nat) :
    List Char → List Char × List (List Char)
  | [] => ([], [])
  | c :: cs =>
    let wide := scan.columns c
    if scan.shows c ∧ 0 < used ∧ limit < used + wide then
      let (piece, pieces) := breakFrom limit (scan.next c) wide cs
      ([], (c :: piece) :: pieces)
    else
      let (piece, pieces) := breakFrom limit (scan.next c) (used + wide) cs
      (c :: piece, pieces)

/-- The pieces of a text, one after another, are the text. -/
theorem flatten_breakFrom (limit : Nat) (scan : Scan) (used : Nat) (text : List Char) :
    (breakFrom limit scan used text).1 ++ (breakFrom limit scan used text).2.flatten = text := by
  induction text generalizing scan used with
  | nil => rfl
  | cons c cs ih =>
    simp only [breakFrom]
    split
    · simp [ih]
    · simp [ih]

/-- A segment cut into pieces no wider than `limit`. -/
def Segment.cut (limit : Nat) (segment : Segment) : List Segment :=
  if limit < width segment.text then
    let (piece, pieces) := breakFrom limit .plain 0 segment.text
    ofParts segment.spaces (piece :: pieces)
  else [segment]

/-- The segments of one word. -/
def wordSegments (limit : Nat) (word : List Char) : List Segment :=
  let text := trimEnd word
  (Segment.ofParts (word.length - text.length) (hyphenParts false text)).flatMap
    (Segment.cut limit)

/-- The segments of a line. -/
def segments (limit : Nat) (line : List Char) : List Segment :=
  (words line).flatMap (wordSegments limit)

/-- Fills lines of `limit` columns: the rest of the line of which `used` columns are taken, and the
lines after it. -/
def fill (limit used : Nat) : List Segment → List Segment × List (List Segment)
  | [] => ([], [])
  | segment :: segments =>
    let wide := width segment.text
    if limit < used + wide then
      let (line, lines) := fill limit (wide + segment.spaces) segments
      ([], (segment :: line) :: lines)
    else
      let (line, lines) := fill limit (used + wide + segment.spaces) segments
      (segment :: line, lines)

/-- The lines that are filled hold the segments, each once and in order. -/
theorem flatten_fill (limit used : Nat) (segments : List Segment) :
    (fill limit used segments).1 ++ (fill limit used segments).2.flatten = segments := by
  induction segments generalizing used with
  | nil => rfl
  | cons segment segments ih =>
    simp only [fill]
    split
    · simp [ih]
    · simp [ih]

/-- The text of a filled line, without the spaces at its end. -/
def lineText : List Segment → List Char
  | [] => []
  | [segment] => segment.text
  | segment :: segments => segment.full ++ lineText segments

/-- One line wrapped to `limit` columns. -/
def wrapLine (limit : Nat) (line : List Char) : List (List Char) :=
  let (first, others) := fill limit 0 (segments limit line)
  (first :: others).map lineText

/-- A text wrapped to `limit` columns, line by line. -/
def wrap (limit : Nat) (text : List Char) : List (List Char) :=
  (fields '\n' text).flatMap (wrapLine limit)

/-! ### What is kept

The segments of a line with the spaces that follow them are the line (`flatMap_full_segments`). -/

theorem flatMap_full_ofParts (spaces : Nat) {parts : List (List Char)} (some : parts ≠ []) :
    (Segment.ofParts spaces parts).flatMap Segment.full =
      parts.flatten ++ List.replicate spaces ' ' := by
  fun_induction Segment.ofParts spaces parts with
  | case1 => exact absurd rfl some
  | case2 part => simp [Segment.full]
  | case3 part parts more ih =>
    have later : parts ≠ [] := fun none => more none
    simp [Segment.full, ih later]

theorem flatMap_full_cut (limit : Nat) (segment : Segment) :
    (segment.cut limit).flatMap Segment.full = segment.full := by
  unfold Segment.cut
  split
  · show (Segment.ofParts _ _).flatMap Segment.full = _
    rw [flatMap_full_ofParts _ (List.cons_ne_nil _ _), List.flatten_cons, flatten_breakFrom]
    rfl
  · exact List.flatMap_singleton ..

theorem hyphenParts_ne_nil (joined : Bool) (word : List Char) : hyphenParts joined word ≠ [] := by
  cases word with
  | nil => simp [hyphenParts]
  | cons c cs =>
    rw [hyphenParts]
    split <;> simp

theorem flatMap_full_wordSegments (limit : Nat) (word : List Char) :
    (wordSegments limit word).flatMap Segment.full = word := by
  rw [wordSegments, List.flatMap_assoc]
  simp only [flatMap_full_cut]
  rw [flatMap_full_ofParts _ (hyphenParts_ne_nil _ _), flatten_hyphenParts]
  exact trimEnd_append_replicate word

/-- The segments of a line, each with its spaces, are the line. -/
theorem flatMap_full_segments (limit : Nat) (line : List Char) :
    (segments limit line).flatMap Segment.full = line := by
  rw [segments, List.flatMap_assoc]
  simp only [flatMap_full_wordSegments]
  rw [List.flatMap_id', flatten_words]

theorem lineText_subset (segments : List Segment) :
    lineText segments ⊆ segments.flatMap Segment.full := by
  fun_induction lineText segments with
  | case1 => simp
  | case2 segment => simp [Segment.full]
  | case3 segment segments more ih =>
    rw [List.flatMap_cons]
    exact List.append_subset.mpr
      ⟨List.subset_append_left _ _, List.subset_append_of_subset_right _ ih⟩

theorem mem_of_mem_wrapLine {limit : Nat} {line text : List Char} {c : Char}
    (hline : line ∈ wrapLine limit text) (hc : c ∈ line) : c ∈ text := by
  obtain ⟨filled, hfilled, rfl⟩ := List.mem_map.mp hline
  obtain ⟨segment, hsegment, hc⟩ := List.mem_flatMap.mp (lineText_subset filled hc)
  have hsegments : segment ∈ segments limit text := by
    have flat := flatten_fill limit 0 (segments limit text)
    rw [← List.flatten_cons] at flat
    exact flat ▸ List.mem_flatten.mpr ⟨filled, hfilled, hsegment⟩
  rw [← flatMap_full_segments limit text]
  exact List.mem_flatMap.mpr ⟨segment, hsegments, hc⟩

/-- What is on a wrapped line was in the text, and is no newline. -/
theorem mem_of_mem_wrap {limit : Nat} {line text : List Char} {c : Char}
    (hline : line ∈ wrap limit text) (hc : c ∈ line) : c ∈ text ∧ c ≠ '\n' := by
  obtain ⟨source, hsource, hline⟩ := List.mem_flatMap.mp hline
  have hmem : c ∈ source := mem_of_mem_wrapLine hline hc
  have hne : c ≠ '\n' := by
    rintro rfl
    exact not_mem_of_mem_fields hsource hmem
  exact ⟨(exists_mem_fields hne text).mp ⟨source, hsource, hmem⟩, hne⟩

end Wrap

end InterpreterHost
