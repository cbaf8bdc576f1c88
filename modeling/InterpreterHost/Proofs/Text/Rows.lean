import InterpreterHost.Text.Wrap
import Mathlib.Data.List.Chain

/-! The rows of a wrapped line, each with the spaces that are dropped after it. One after another
they are the line (`flatMap_full_rows`). A row ends in a space only where a part of a word that is
too wide for a row was broken off (`spread_rows`): such a part may hold spaces, and then the last
character that fits may be one of them. -/

namespace InterpreterHost.Wrap

/-- The last character is a space. -/
def EndsInSpace (text : List Char) : Prop :=
  ' ' ∈ text.getLast?

theorem endsInSpace_append (front : List Char) {text : List Char} (some : text ≠ []) :
    EndsInSpace (front ++ text) ↔ EndsInSpace text := by
  unfold EndsInSpace
  rw [List.getLast?_append_of_ne_nil front some]

theorem EndsInSpace.ne_nil {text : List Char} (h : EndsInSpace text) : text ≠ [] := by
  rintro rfl
  simp [EndsInSpace] at h

theorem EndsInSpace.append_left {text : List Char} (h : EndsInSpace text) (front : List Char) :
    EndsInSpace (front ++ text) :=
  (endsInSpace_append front h.ne_nil).mpr h

/-- A trimmed text does not end in a space. -/
theorem not_endsInSpace_trimEnd (text : List Char) : ¬EndsInSpace (trimEnd text) := by
  induction text with
  | nil => simp [trimEnd, EndsInSpace]
  | cons c cs ih =>
    by_cases hc : c = ' ' ∧ trimEnd cs = []
    · simp [trimEnd, hc, EndsInSpace]
    · rw [trimEnd, if_neg hc]
      by_cases hcs : trimEnd cs = []
      · have : c ≠ ' ' := fun h => hc ⟨h, hcs⟩
        simp [hcs, EndsInSpace, this]
      · rw [← List.singleton_append, endsInSpace_append [c] hcs]
        exact ih

/-! ### Words -/

theorem ne_nil_of_mem_wordsFrom {scan : Scan} {context : BreakContext} {line word : List Char}
    (h : word ∈ wordsFrom scan context line) : word ≠ [] := by
  induction line generalizing scan context word with
  | nil => simp [wordsFrom] at h
  | cons c cs ih =>
    rw [wordsFrom] at h
    split at h
    · next heq =>
      obtain rfl | h := List.mem_cons.mp h
      · simp
      · exact ih (heq ▸ List.mem_cons_of_mem _ h)
    · obtain rfl | h := List.mem_cons.mp h
      · simp
      · exact ih h

theorem head?_wordsFrom {scan : Scan} {context : BreakContext} {line word : List Char}
    (h : word ∈ (wordsFrom scan context line).head?) : word.head? = line.head? := by
  cases line with
  | nil => simp [wordsFrom] at h
  | cons c cs =>
    rw [wordsFrom] at h
    split at h
    · obtain rfl := Option.mem_some.mp h
      rfl
    · obtain rfl := Option.mem_some.mp h
      rfl

/-- Where the second of two words starts with a space, the first one does not end in one. -/
def Parted (word next : List Char) : Prop :=
  ' ' ∈ next.head? → ¬EndsInSpace word

/-- No line may break between two spaces. -/
theorem mayBreak_space_space (context : BreakContext) :
    (context.next (.ofChar ' ')).mayBreak (.ofChar ' ') = false := by
  have space : BreakClass.ofChar ' ' = .space := by decide
  simp [space, BreakContext.next, BreakContext.mayBreak]

/-- No word ends in a space where the next one starts with one: between two spaces no break is
found. -/
theorem isChain_wordsFrom (scan : Scan) (context : BreakContext) (line : List Char) :
    (wordsFrom scan context line).IsChain Parted := by
  induction line generalizing scan context with
  | nil => simp [wordsFrom]
  | cons c cs ih =>
    rw [wordsFrom]
    split
    · next word later _ heq =>
      have chain := heq ▸ ih (scan.next c) _
      have hword : word ≠ [] := ne_nil_of_mem_wordsFrom (heq ▸ List.mem_cons_self)
      rw [List.isChain_cons] at chain ⊢
      refine ⟨?_, chain.2⟩
      intro next hnext hspace hends
      rw [← List.singleton_append, endsInSpace_append [c] hword] at hends
      exact chain.1 next hnext hspace hends
    · next unjoined =>
      refine List.isChain_cons.mpr ⟨?_, ih _ _⟩
      intro next hnext hspace hends
      obtain rfl : c = ' ' := by simpa [EndsInSpace] using hends
      obtain ⟨later, hlater⟩ := List.head?_eq_some_iff.mp hnext
      rw [head?_wordsFrom hnext] at hspace
      obtain ⟨rest, rfl⟩ := List.head?_eq_some_iff.mp hspace
      refine unjoined next later ?_ hlater
      have first : Scan.plain.firstShown? (' ' :: rest) = some ' ' := rfl
      rw [first, Option.any_some]
      by_cases shows : scan.shows ' '
      · rw [if_pos shows, mayBreak_space_space, Bool.and_false]
      · simp [shows]

theorem ne_nil_of_mem_joinLast {words : List (List Char)} (some : ∀ word ∈ words, word ≠ [])
    {word : List Char} (h : word ∈ joinLast words) : word ≠ [] := by
  fun_induction joinLast words with
  | case1 first last =>
    obtain rfl := List.mem_singleton.mp h
    simpa using fun none => absurd none (some first (.head _))
  | case2 first words _ ih =>
    rw [List.forall_mem_cons] at some
    obtain rfl | h := List.mem_cons.mp h
    · exact some.1
    · exact ih some.2 h
  | case3 => simp at h

theorem head?_joinLast {words : List (List Char)} (some : ∀ word ∈ words, word ≠ [])
    {word : List Char} (h : word ∈ (joinLast words).head?) :
    ∃ first ∈ words.head?, word.head? = first.head? := by
  fun_induction joinLast words with
  | case1 first last =>
    obtain rfl := Option.mem_some.mp h
    refine ⟨first, rfl, ?_⟩
    rw [List.head?_append_of_ne_nil _ (some first (.head _))]
  | case2 first words _ _ =>
    obtain rfl := Option.mem_some.mp h
    exact ⟨_, rfl, rfl⟩
  | case3 => simp at h

theorem isChain_joinLast {words : List (List Char)} (some : ∀ word ∈ words, word ≠ [])
    (chain : words.IsChain Parted) : (joinLast words).IsChain Parted := by
  fun_induction joinLast words with
  | case1 => exact List.isChain_singleton _
  | case2 first words _ ih =>
    rw [List.forall_mem_cons] at some
    rw [List.isChain_cons] at chain ⊢
    refine ⟨?_, ih some.2 chain.2⟩
    intro next hnext hspace
    obtain ⟨second, hsecond, same⟩ := head?_joinLast some.2 hnext
    exact chain.1 second hsecond (same ▸ hspace)
  | case3 => exact List.isChain_nil

theorem ne_nil_of_mem_words {line word : List Char} (h : word ∈ words line) : word ≠ [] := by
  unfold words at h
  split at h
  · exact ne_nil_of_mem_joinLast (fun _ => ne_nil_of_mem_wordsFrom) h
  · exact ne_nil_of_mem_wordsFrom h

theorem isChain_words (line : List Char) : (words line).IsChain Parted := by
  unfold words
  split
  · exact isChain_joinLast (fun _ => ne_nil_of_mem_wordsFrom) (isChain_wordsFrom ..)
  · exact isChain_wordsFrom ..

/-! ### Parts and pieces -/

/-- The parts of a line's words, of which none has to be broken unless it is too wide for a row. -/
def parts (line : List Char) : List (List Char) :=
  (words line).flatMap fun word => hyphenParts false (trimEnd word)

theorem nil_notMem_hyphenParts (joined : Bool) (c : Char) (cs : List Char) :
    [] ∉ hyphenParts joined (c :: cs) := by
  induction cs generalizing joined c with
  | nil => simp [hyphenParts]
  | cons d ds ih =>
    rw [hyphenParts]
    split
    · next heq =>
      have later := heq ▸ ih (isAlphanumeric c) d
      rw [List.mem_cons, not_or] at later ⊢
      exact ⟨by simp, later.2⟩
    · rw [List.mem_cons, not_or]
      exact ⟨by simp, ih _ _⟩

/-- The parts of a word that does not end in a space do not either: all but the last end in a
hyphen. -/
theorem not_endsInSpace_hyphenParts {joined : Bool} {word part : List Char}
    (trimmed : ¬EndsInSpace word) (h : part ∈ hyphenParts joined word) : ¬EndsInSpace part := by
  induction word generalizing joined part with
  | nil =>
    obtain rfl := List.mem_singleton.mp h
    exact trimmed
  | cons c cs ih =>
    cases cs with
    | nil =>
      obtain rfl : part = [c] := by simpa [hyphenParts] using h
      exact trimmed
    | cons d ds =>
      rw [← List.singleton_append, endsInSpace_append [c] (List.cons_ne_nil d ds)] at trimmed
      rw [hyphenParts] at h
      split at h
      · next first later _ heq =>
        obtain rfl | h := List.mem_cons.mp h
        · have some : first ≠ [] := by
            rintro rfl
            exact nil_notMem_hyphenParts _ d ds (heq ▸ List.mem_cons_self)
          rw [← List.singleton_append, endsInSpace_append [c] some]
          exact ih trimmed (heq ▸ List.mem_cons_self)
        · exact ih trimmed (heq ▸ List.mem_cons_of_mem _ h)
      · next unjoined =>
        obtain rfl | h := List.mem_cons.mp h
        · intro space
          obtain rfl : c = ' ' := by simpa [EndsInSpace] using space
          obtain ⟨first, later, heq⟩ := List.exists_cons_of_ne_nil
            (hyphenParts_ne_nil (isAlphanumeric ' ') (d :: ds))
          exact unjoined first later (by simp) heq
        · exact ih trimmed h

/-- The pieces of a text, none wider than `limit` unless a single character is. -/
def pieces (limit : Nat) (text : List Char) : List (List Char) :=
  let (piece, pieces) := breakFrom limit .plain 0 text
  piece :: pieces

theorem flatten_pieces (limit : Nat) (text : List Char) : (pieces limit text).flatten = text := by
  rw [pieces, List.flatten_cons, flatten_breakFrom]

/-- The next character after `piece`, with which `next` starts, does not fit. -/
def Full (limit : Nat) (piece next : List Char) : Prop :=
  ∃ c ∈ next.head?, limit < width piece + columns c

/-- Every piece but the last is full: with the first character of the next one it would be too
wide. -/
theorem full_breakFrom (limit : Nat) (scan : Scan) (used : Nat) (text : List Char) :
    (∀ next ∈ (breakFrom limit scan used text).2.head?, ∃ c ∈ next.head?,
      limit < used + scan.width (breakFrom limit scan used text).1 + columns c) ∧
    (breakFrom limit scan used text).2.IsChain (Full limit) := by
  induction text generalizing scan used with
  | nil => simp [breakFrom]
  | cons c cs ih =>
    simp only [breakFrom]
    split
    · next h =>
      obtain ⟨first, later⟩ := ih (scan.next c) (scan.columns c)
      have plain : scan = .plain := by
        have := h.1
        simp only [Scan.shows, Bool.and_eq_true, decide_eq_true_eq] at this
        exact this.1
      have wide : scan.columns c = columns c := by
        simp [Scan.columns, h.1]
      refine ⟨?_, List.isChain_cons.mpr ⟨?_, later⟩⟩
      · intro next hnext
        obtain rfl := Option.mem_some.mp hnext
        refine ⟨c, rfl, ?_⟩
        simpa [Scan.width, wide] using h.2.2
      · intro next hnext
        obtain ⟨d, hd, full⟩ := first next hnext
        refine ⟨d, hd, ?_⟩
        subst plain
        simpa [width, Scan.width] using full
    · obtain ⟨first, later⟩ := ih (scan.next c) (used + scan.columns c)
      refine ⟨?_, later⟩
      intro next hnext
      obtain ⟨d, hd, full⟩ := first next hnext
      refine ⟨d, hd, ?_⟩
      rw [Scan.width]
      omega

theorem nil_notMem_pieces {limit : Nat} {text : List Char} (some : text ≠ []) :
    [] ∉ pieces limit text := by
  have later (scan : Scan) (used : Nat) (text : List Char) :
      [] ∉ (breakFrom limit scan used text).2 := by
    induction text generalizing scan used with
    | nil => simp [breakFrom]
    | cons c cs ih =>
      simp only [breakFrom]
      split
      · simp [ih]
      · exact ih _ _
  obtain ⟨c, cs, rfl⟩ := List.exists_cons_of_ne_nil some
  have first : (breakFrom limit .plain 0 (c :: cs)).1 ≠ [] := by simp [breakFrom]
  show [] ∉ (breakFrom limit .plain 0 (c :: cs)).1 :: (breakFrom limit .plain 0 (c :: cs)).2
  rw [List.mem_cons, not_or]
  exact ⟨first.symm, later _ _ _⟩

theorem isChain_pieces (limit : Nat) (text : List Char) :
    (pieces limit text).IsChain (Full limit) := by
  obtain ⟨first, later⟩ := full_breakFrom limit .plain 0 text
  refine List.isChain_cons.mpr ⟨?_, later⟩
  intro next hnext
  obtain ⟨c, hc, full⟩ := first next hnext
  exact ⟨c, hc, by simpa [width] using full⟩

/-! ### Segments -/

/-- `piece` was broken off a part that is too wide for a row, and no more of the part fitted. -/
def BrokenOff (limit : Nat) (part piece : List Char) : Prop :=
  limit < width part ∧ ∃ before c after, part = before ++ piece ++ c :: after ∧
    limit < width piece + columns c

theorem mem_ofParts {spaces : Nat} {parts : List (List Char)} {segment : Segment}
    (h : segment ∈ Segment.ofParts spaces parts) :
    (∃ before, parts = before ++ [segment.text]) ∨
      segment.spaces = 0 ∧
        ∃ before next after, parts = before ++ segment.text :: next :: after := by
  fun_induction Segment.ofParts spaces parts with
  | case1 => simp at h
  | case2 part =>
    obtain rfl := List.mem_singleton.mp h
    exact .inl ⟨[], rfl⟩
  | case3 part parts more ih =>
    obtain rfl | h := List.mem_cons.mp h
    · obtain ⟨next, after, rfl⟩ := List.exists_cons_of_ne_nil fun none => more none
      exact .inr ⟨rfl, [], next, after, rfl⟩
    · obtain ⟨before, heq⟩ | ⟨none, before, next, after, heq⟩ := ih h
      · exact .inl ⟨part :: before, congrArg (part :: ·) heq⟩
      · exact .inr ⟨none, part :: before, next, after, congrArg (part :: ·) heq⟩

theorem text_mem_of_mem_ofParts {spaces : Nat} {parts : List (List Char)} {segment : Segment}
    (h : segment ∈ Segment.ofParts spaces parts) : segment.text ∈ parts := by
  obtain ⟨before, heq⟩ | ⟨-, before, next, after, heq⟩ := mem_ofParts h
  · simp [heq]
  · simp [heq]

/-- A segment that ends in a space was broken off one that does not. -/
theorem brokenOff_of_mem_cut {limit : Nat} {segment piece : Segment}
    (trimmed : ¬EndsInSpace segment.text) (h : piece ∈ segment.cut limit)
    (hends : EndsInSpace piece.text) :
    piece.spaces = 0 ∧ BrokenOff limit segment.text piece.text := by
  unfold Segment.cut at h
  split at h
  · next wide =>
    have whole := flatten_pieces limit segment.text
    have chain := isChain_pieces limit segment.text
    obtain ⟨before, heq⟩ | ⟨none, before, next, after, heq⟩ := mem_ofParts h
    · change pieces limit segment.text = _ at heq
      rw [heq, List.flatten_append, List.flatten_singleton] at whole
      exact absurd (whole ▸ hends.append_left before.flatten) trimmed
    · change pieces limit segment.text = _ at heq
      rw [heq] at whole chain
      obtain ⟨c, hc, full⟩ := chain.right_of_append.rel
      obtain ⟨cs, rfl⟩ := List.head?_eq_some_iff.mp hc
      refine ⟨none, wide, before.flatten, c, cs ++ after.flatten, ?_, full⟩
      simp [← whole]
  · obtain rfl := List.mem_singleton.mp h
    exact absurd hends trimmed

/-- A segment that ends in a space was broken off a part that is too wide, and no space is dropped
after it. -/
theorem brokenOff_of_mem_segments {limit : Nat} {line : List Char} {segment : Segment}
    (h : segment ∈ segments limit line) (hends : EndsInSpace segment.text) :
    segment.spaces = 0 ∧ ∃ part ∈ parts line, BrokenOff limit part segment.text := by
  obtain ⟨word, hword, h⟩ := List.mem_flatMap.mp h
  obtain ⟨part, hpart, h⟩ := List.mem_flatMap.mp h
  have htext := text_mem_of_mem_ofParts hpart
  have trimmed := not_endsInSpace_hyphenParts (not_endsInSpace_trimEnd word) htext
  obtain ⟨none, broken⟩ := brokenOff_of_mem_cut trimmed h hends
  exact ⟨none, part.text, List.mem_flatMap.mpr ⟨word, hword, htext⟩, broken⟩

/-- A segment without text, so of spaces alone, does not follow one that ends in a space. -/
def Apart (segment next : Segment) : Prop :=
  next.text = [] → ¬EndsInSpace segment.full

theorem text_ne_nil_of_mem_cut {limit : Nat} {segment piece : Segment} (some : segment.text ≠ [])
    (h : piece ∈ segment.cut limit) : piece.text ≠ [] := by
  unfold Segment.cut at h
  split at h
  · intro none
    exact nil_notMem_pieces some (none ▸ text_mem_of_mem_ofParts h)
  · obtain rfl := List.mem_singleton.mp h
    exact some

/-- A word of spaces alone is one segment without text. -/
theorem wordSegments_of_spaces {limit : Nat} {word : List Char} (h : trimEnd word = []) :
    wordSegments limit word = [⟨[], word.length⟩] := by
  have none : ¬limit < width [] := Nat.not_lt_zero limit
  simp [wordSegments, h, hyphenParts, Segment.ofParts, Segment.cut, none]

theorem text_ne_nil_of_mem_wordSegments {limit : Nat} {word : List Char} {segment : Segment}
    (some : trimEnd word ≠ []) (h : segment ∈ wordSegments limit word) : segment.text ≠ [] := by
  obtain ⟨part, hpart, h⟩ := List.mem_flatMap.mp h
  refine text_ne_nil_of_mem_cut ?_ h
  intro none
  obtain ⟨c, cs, hword⟩ := List.exists_cons_of_ne_nil some
  exact nil_notMem_hyphenParts false c cs (hword ▸ none ▸ text_mem_of_mem_ofParts hpart)

theorem isChain_segments (limit : Nat) (line : List Char) :
    (segments limit line).IsChain Apart := by
  have some : [] ∉ (words line).map (wordSegments limit) := by
    intro h
    obtain ⟨word, hword, none⟩ := List.mem_map.mp h
    have whole := flatMap_full_wordSegments limit word
    rw [none] at whole
    exact ne_nil_of_mem_words hword whole.symm
  rw [segments, List.flatMap_def, List.isChain_flatten some, List.isChain_map]
  constructor
  · intro part hpart
    obtain ⟨word, -, rfl⟩ := List.mem_map.mp hpart
    by_cases blank : trimEnd word = []
    · rw [wordSegments_of_spaces blank]
      exact List.isChain_singleton _
    · refine (List.pairwise_of_forall_mem_list ?_).isChain
      intro segment _ next hnext none
      exact absurd none (text_ne_nil_of_mem_wordSegments blank hnext)
  · refine (isChain_words line).imp_of_mem_imp ?_
    intro word next _ hnext parted segment hsegment following hfollowing none hends
    have blank : trimEnd next = [] := by
      by_contra h
      exact text_ne_nil_of_mem_wordSegments h (List.mem_of_mem_head? hfollowing) none
    have hspace : ' ' ∈ next.head? := by
      obtain ⟨c, cs, rfl⟩ := List.exists_cons_of_ne_nil (ne_nil_of_mem_words hnext)
      rw [trimEnd] at blank
      split at blank
      · next h => simp [h.1]
      · simp at blank
    have whole := flatMap_full_wordSegments limit word
    rw [← List.dropLast_append_getLast? segment hsegment, List.flatMap_append,
      List.flatMap_singleton] at whole
    exact parted hspace (whole ▸ hends.append_left _)

/-! ### Rows -/

/-- The row that some segments fill; its spaces are those after the last segment. -/
def row : List Segment → Segment
  | [] => ⟨[], 0⟩
  | [segment] => segment
  | segment :: segments => ⟨segment.full ++ (row segments).text, (row segments).spaces⟩

/-- The rows of a line wrapped to `limit` columns. -/
def rows (limit : Nat) (line : List Char) : List Segment :=
  let (first, others) := fill limit 0 (segments limit line)
  (first :: others).map row

theorem text_row (segments : List Segment) : (row segments).text = lineText segments := by
  fun_induction row segments with
  | case1 => rfl
  | case2 => rfl
  | case3 segment segments more ih =>
    rw [lineText, ih]
    exact more

theorem full_row (segments : List Segment) :
    (row segments).full = segments.flatMap Segment.full := by
  fun_induction row segments with
  | case1 => rfl
  | case2 segment => simp
  | case3 segment segments more ih =>
    rw [List.flatMap_cons, ← ih]
    simp [Segment.full]

theorem map_text_rows (limit : Nat) (line : List Char) :
    (rows limit line).map Segment.text = wrapLine limit line := by
  simp only [rows, wrapLine, List.map_map]
  refine List.map_congr_left fun filled _ => ?_
  exact text_row filled

/-- The wrapped lines of a text are the texts of the rows of its lines. -/
theorem wrap_eq (limit : Nat) (text : List Char) :
    wrap limit text = ((fields '\n' text).map (rows limit)).flatten.map Segment.text := by
  rw [wrap, ← List.flatMap_def, List.map_flatMap]
  simp only [map_text_rows]

theorem rows_ne_nil (limit : Nat) (line : List Char) : rows limit line ≠ [] :=
  List.cons_ne_nil _ _

theorem wrap_ne_nil (limit : Nat) (text : List Char) : wrap limit text ≠ [] := by
  obtain ⟨line, lines, hlines⟩ := List.exists_cons_of_ne_nil (fields_ne_nil '\n' text)
  rw [wrap_eq, hlines]
  simp [rows_ne_nil]

/-- The rows of a line with the spaces dropped after each of them are the line. -/
theorem flatMap_full_rows (limit : Nat) (line : List Char) :
    (rows limit line).flatMap Segment.full = line := by
  simp only [rows, List.flatMap_map, full_row]
  rw [← List.flatMap_assoc, List.flatMap_id', List.flatten_cons, flatten_fill,
    flatMap_full_segments]

/-- The segments of one row follow one another in the line. -/
theorem exists_of_mem_rows {limit : Nat} {line : List Char} {filled : Segment}
    (h : filled ∈ rows limit line) :
    ∃ some before after, before ++ some ++ after = segments limit line ∧ row some = filled := by
  obtain ⟨some, hsome, rfl⟩ := List.mem_map.mp h
  have whole := flatten_fill limit 0 (segments limit line)
  rw [← List.flatten_cons] at whole
  obtain ⟨before, after, heq⟩ := List.infix_of_mem_flatten hsome
  exact ⟨some, before, after, heq.trans whole, rfl⟩

/-- A row ends in a space only if its last segment does. -/
theorem endsInSpace_row {segments : List Segment} (apart : segments.IsChain Apart)
    (h : EndsInSpace (row segments).text) :
    ∃ segment ∈ segments, EndsInSpace segment.text ∧ segment.spaces = (row segments).spaces ∧
      segment.text <:+ (row segments).text := by
  fun_induction row segments with
  | case1 => exact absurd rfl h.ne_nil
  | case2 segment => exact ⟨segment, .head _, h, rfl, List.suffix_refl _⟩
  | case3 segment segments more ih =>
    rw [List.isChain_cons] at apart
    by_cases none : (row segments).text = []
    · obtain ⟨next, others, rfl⟩ := List.exists_cons_of_ne_nil fun none => more none
      have blank : next.text = [] := by
        cases others with
        | nil => exact none
        | cons _ _ => exact (List.append_eq_nil_iff.mp (List.append_eq_nil_iff.mp none).1).1
      rw [none, List.append_nil] at h
      exact absurd h (apart.1 next rfl blank)
    · rw [endsInSpace_append _ none] at h
      obtain ⟨last, hlast, hends, spaces, suffix⟩ := ih apart.2 h
      exact ⟨last, .tail _ hlast, hends, spaces, suffix.trans (List.suffix_append _ _)⟩

/-- The rows show a line: with the spaces dropped after each of them they are the line, and one that
ends in a space is followed by no dropped space and ends in a piece broken off a part. -/
structure Spread (limit : Nat) (line : List Char) (rows : List Segment) : Prop where
  ne_nil : rows ≠ []
  whole : rows.flatMap Segment.full = line
  trimmed : ∀ row ∈ rows, EndsInSpace row.text → row.spaces = 0 ∧
    ∃ part ∈ parts line, ∃ piece,
      BrokenOff limit part piece ∧ EndsInSpace piece ∧ piece <:+ row.text

theorem spread_rows (limit : Nat) (line : List Char) : Spread limit line (rows limit line) where
  ne_nil := rows_ne_nil limit line
  whole := flatMap_full_rows limit line
  trimmed := by
    intro filled hfilled hends
    obtain ⟨some, before, after, hsome, rfl⟩ := exists_of_mem_rows hfilled
    have apart := hsome ▸ isChain_segments limit line
    obtain ⟨segment, hsegment, hspace, spaces, suffix⟩ :=
      endsInSpace_row apart.left_of_append.right_of_append hends
    have hmem : segment ∈ segments limit line := by
      rw [← hsome]
      exact List.mem_append_left _ (List.mem_append_right _ hsegment)
    obtain ⟨none, part, hpart, broken⟩ := brokenOff_of_mem_segments hmem hspace
    exact ⟨spaces ▸ none, part, hpart, segment.text, broken, hspace, suffix⟩

end InterpreterHost.Wrap
