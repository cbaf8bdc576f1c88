import InterpreterHost.Proofs.Report.Fitting

/-! The characters of a report. Wrapping drops only spaces and newlines (`Wrap.filter_wrap`), so of
characters that draw no decoration a report has, below its header, just those of its texts, in
their order and as often (`Report.filter_below`). Two kinds of characters are of that sort: those
beyond ASCII where the decoration is drawn in ASCII, which gives `Report.bytes_ascii_iff`, and
escapes where there are no colours, which gives `Report.uncolored_escapes`. -/

namespace InterpreterHost

variable {p : Char → Bool}

theorem flatMap_filter_fields {separator : Char} (h : p separator = false) (text : List Char) :
    (fields separator text).flatMap (List.filter p) = text.filter p := by
  have whole := congrArg (List.filter p) (flatMap_fields separator text)
  simpa [List.filter_flatMap, h] using whole

namespace Wrap

theorem filter_full (space : p ' ' = false) (segment : Segment) :
    segment.full.filter p = segment.text.filter p := by
  simp [Segment.full, space]

/-- The lines to which a line is wrapped lack spaces of it and nothing else. -/
theorem filter_wrapLine (space : p ' ' = false) (limit : Nat) (line : List Char) :
    (wrapLine limit line).flatten.filter p = line.filter p := by
  have whole := congrArg (List.filter p) (flatMap_full_rows limit line)
  rw [List.filter_flatMap] at whole
  simp only [filter_full space] at whole
  rw [← map_text_rows, ← List.flatMap_def, List.filter_flatMap, whole]

/-- The lines to which a text is wrapped lack spaces and newlines of it and nothing else. -/
theorem filter_wrap (space : p ' ' = false) (newline : p '\n' = false) (limit : Nat)
    (text : List Char) : (wrap limit text).flatten.filter p = text.filter p := by
  rw [wrap, ← List.flatMap_id, List.flatMap_assoc, List.filter_flatMap]
  simp only [List.flatMap_id, filter_wrapLine space]
  exact flatMap_filter_fields newline text

end Wrap

/-- The texts in the order in which a report shows them. -/
theorem Diagnostic.mem_texts_iff (d : Diagnostic) (text : String) :
    text ∈ d.texts ↔
      text ∈ d.url.toList ++ d.code.toList ++ (d.message :: d.causes ++ d.help.toList) := by
  simp only [texts, List.mem_append, List.mem_cons]
  grind

namespace Report

/-- The characters that `p` picks draw no decoration: they are in no lead, and spaces and newlines
are not among them. -/
structure Undrawn (p : Char → Bool) (appearance : Appearance) : Prop where
  space : p ' ' = false
  newline : p '\n' = false
  lead : ∀ severity (lead : Lead), (lead.drawn appearance severity).filter p = []

variable {appearance : Appearance}

theorem filter_renderLine (undrawn : Undrawn p appearance) (severity : Option Severity)
    (line : ReportLine) :
    (renderLine appearance severity line).filter p = line.content.filter p := by
  have lead : (renderSpans appearance.color
      (line.lead.spans appearance.glyphSet.glyphs severity)).filter p = [] :=
    undrawn.lead severity line.lead
  simp [renderLine, lead, undrawn.newline]

theorem Section.filter_lines (undrawn : Undrawn p appearance) (severity : Option Severity)
    (part : Section) :
    (part.lines.flatMap (renderLine appearance severity)).filter p =
      part.text.toList.filter p := by
  rw [List.filter_flatMap]
  simp only [filter_renderLine undrawn]
  rw [← Wrap.filter_wrap undrawn.space undrawn.newline part.limit, ← part.map_content_lines,
    ← List.flatMap_def, List.filter_flatMap]

/-- Below its header a report has the undrawn characters of its texts and no others. -/
theorem filter_below (undrawn : Undrawn p appearance) (d : Diagnostic) :
    ((lines d).flatMap (renderLine appearance d.severity)).filter p =
      ((d.message :: d.causes ++ d.help.toList).flatMap String.toList).filter p := by
  rw [← flatMap_lines_sections, ← map_text_sections, List.flatMap_assoc, List.filter_flatMap,
    List.flatMap_map, List.filter_flatMap]
  simp only [Section.filter_lines undrawn]

end Report

/-! ### Characters beyond ASCII -/

/-- The character is not in ASCII. -/
def isBeyondAscii (c : Char) : Bool :=
  0x80 ≤ c.toNat

namespace Utf8

/-- The bytes of a character are all below 128 if it is in ASCII, and only then: the first of
several bytes never is. -/
theorem forall_mem_encodeChar_lt_iff (c : Char) :
    (∀ b ∈ String.utf8EncodeChar c, b < 0x80) ↔ isBeyondAscii c = false := by
  have leading (b : UInt8) (bs : List UInt8) (h : 0x80 ≤ b.toNat) : ¬∀ b' ∈ b :: bs, b' < 0x80 := by
    intro all
    have below : b.toNat < 0x80 := UInt8.lt_iff_toNat_lt.mp (all b (.head _))
    omega
  rw [isBeyondAscii, decide_eq_false_iff_not, Nat.not_le]
  show _ ↔ c.val.toNat < 0x80
  unfold String.utf8EncodeChar
  dsimp only
  split
  · next small =>
    have byte : (UInt8.ofNat c.val.toNat).toNat = c.val.toNat :=
      UInt8.toNat_ofNat_of_lt' (Nat.lt_of_le_of_lt small (by decide))
    rw [List.forall_mem_singleton, UInt8.lt_iff_toNat_lt, byte]
    exact Iff.rfl
  · refine iff_of_false ?_ (by omega)
    split
    · apply leading
      simp
      omega
    · split
      · apply leading
        simp
        omega
      · apply leading
        simp
        omega

/-- The bytes of a text are below 128 if its characters are in ASCII, and only then. -/
theorem forall_mem_encode_lt_iff (text : String) :
    (∀ b ∈ encode text, b < 0x80) ↔ text.toList.filter isBeyondAscii = [] := by
  rw [encode_eq_flatMap, List.forall_mem_flatMap, List.filter_eq_nil_iff]
  simp only [forall_mem_encodeChar_lt_iff, Bool.not_eq_true]

end Utf8

theorem isBeyondAscii_of_isParameter {c : Char} (h : isParameter c) : isBeyondAscii c = false := by
  simp only [isParameter, Char.isDigit, Bool.or_eq_true, Bool.and_eq_true, decide_eq_true_eq] at h
  rcases h with ⟨-, digit⟩ | rfl
  · have bound : c.toNat ≤ '9'.toNat := UInt32.le_iff_toNat_le.mp digit
    have nine : '9'.toNat = 57 := rfl
    simp [isBeyondAscii]
    omega
  · decide

theorem IsColor.filter_beyondAscii {sequence : List Char} (h : IsColor sequence) :
    sequence.filter isBeyondAscii = [] := by
  obtain ⟨parameters, hall, rfl⟩ := h
  have none : parameters.filter isBeyondAscii = [] := by
    rw [List.filter_eq_nil_iff]
    intro c hc
    simp [isBeyondAscii_of_isParameter (hall c hc)]
  rw [List.filter_append, List.filter_cons_of_neg (by decide), List.filter_cons_of_neg (by decide),
    none]
  rfl

theorem Span.filter_beyondAscii (span : Span) (color : Bool) :
    (span.render color).toList.filter isBeyondAscii = span.text.toList.filter isBeyondAscii := by
  obtain plain | ⟨start, reset, hstart, hreset, colored⟩ := span.render_cases color
  · rw [plain]
  · simp [colored, hstart.filter_beyondAscii, hreset.filter_beyondAscii]

theorem GlyphSet.filter_icon_ascii (severity : Option Severity) :
    (ascii.glyphs.icon severity).toList.filter isBeyondAscii = [] := by
  rcases severity with _ | (_ | _ | _) <;> decide +kernel

theorem Lead.filter_spans_ascii (severity : Option Severity) (lead : Lead) :
    (lead.spans GlyphSet.ascii.glyphs severity).flatMap
      (fun span => span.text.toList.filter isBeyondAscii) = [] := by
  rcases lead with (_ | _) | ⟨_ | _, _ | _⟩ | (_ | _)
  case message.true => simp [spans, GlyphSet.filter_icon_ascii, isBeyondAscii]
  all_goals simp [spans, GlyphSet.glyphs, isBeyondAscii]

namespace Report

theorem filter_beyondAscii_renderSpans (color : Bool) (spans : List Span) :
    (renderSpans color spans).filter isBeyondAscii =
      spans.flatMap fun span => span.text.toList.filter isBeyondAscii := by
  rw [renderSpans, List.filter_flatMap]
  simp only [Span.filter_beyondAscii]

theorem undrawn_beyondAscii (color : Bool) : Undrawn isBeyondAscii ⟨color, .ascii⟩ where
  space := by decide
  newline := by decide
  lead severity lead := by
    rw [Lead.drawn, filter_beyondAscii_renderSpans]
    exact lead.filter_spans_ascii severity

theorem filter_beyondAscii_header (color : Bool) (d : Diagnostic) :
    (renderSpans color (header d)).filter isBeyondAscii =
      ((d.url.toList ++ d.code.toList).flatMap String.toList).filter isBeyondAscii := by
  rw [filter_beyondAscii_renderSpans, header]
  cases d.url <;> cases d.code <;> simp [linkTo, isBeyondAscii]

theorem filter_render_ascii (color : Bool) (d : Diagnostic) :
    (render ⟨color, .ascii⟩ d).filter isBeyondAscii =
      ((d.url.toList ++ d.code.toList ++ (d.message :: d.causes ++ d.help.toList)).flatMap
        String.toList).filter isBeyondAscii := by
  rw [render, List.filter_append, filter_beyondAscii_header,
    filter_below (undrawn_beyondAscii color), ← List.filter_append, ← List.flatMap_append]

/-- In ASCII and in either colour setting, a report is all ASCII if the texts of the diagnostic are,
and only then. -/
theorem bytes_ascii_iff (color : Bool) (d : Diagnostic) :
    (∀ b ∈ bytes ⟨color, .ascii⟩ d, b < 0x80) ↔
      ∀ text ∈ d.texts, ∀ b ∈ Utf8.encode text, b < 0x80 := by
  simp only [bytes, Utf8.forall_mem_encode_lt_iff, String.toList_ofList, filter_render_ascii,
    Diagnostic.mem_texts_iff, List.filter_flatMap, List.flatMap_eq_nil_iff]

/-! ### Escapes -/

theorem undrawn_escape (set : GlyphSet) : Undrawn (· == escape) ⟨false, set⟩ where
  space := by decide
  newline := by decide
  lead severity lead := by
    have plain := escape_not_mem_renderSpans (lead.spans_drawing set severity)
    rw [Lead.drawn, List.filter_eq_nil_iff]
    intro c hc
    rw [beq_iff_eq]
    rintro rfl
    exact plain hc

theorem count_escape_below (set : GlyphSet) (d : Diagnostic) :
    ((lines d).flatMap (renderLine ⟨false, set⟩ d.severity)).count escape =
      ((d.message :: d.causes ++ d.help.toList).flatMap String.toList).count escape := by
  rw [List.count_eq_length_filter, filter_below (undrawn_escape set), List.count_eq_length_filter]

theorem escape_not_mem_flatMap {d : Diagnostic} (plain : ∀ text ∈ d.texts, escape ∉ text.toList)
    {texts : List String} (some : ∀ text ∈ texts, text ∈ d.texts) :
    escape ∉ texts.flatMap String.toList := by
  rw [List.mem_flatMap]
  rintro ⟨text, htext, hm⟩
  exact plain text (some text htext) hm

/-- No escape stands in front of a bracket. -/
def Unopened (text : List Char) : Prop :=
  text.IsChain fun c d => c = escape → d ≠ '['

theorem unopened_of_not_mem {text : List Char} (plain : escape ∉ text) : Unopened text := by
  refine (List.pairwise_of_forall_mem_list ?_).isChain
  rintro c hc - - rfl
  exact absurd hc plain

theorem Unopened.append {text rest : List Char} (h : Unopened text) (h' : Unopened rest)
    (closed : escape ∉ text.getLast?) : Unopened (text ++ rest) := by
  refine List.IsChain.append h h' ?_
  rintro c hc - - rfl
  exact absurd hc closed

theorem Unopened.after {text rest : List Char} (h : Unopened rest) (plain : escape ∉ text) :
    Unopened (text ++ rest) :=
  (unopened_of_not_mem plain).append h fun last => plain (List.mem_of_mem_getLast? last)

theorem Unopened.excludes {text : List Char} (h : Unopened text) : ¬[escape, '['] <:+: text := by
  intro opened
  have pair : Unopened [escape, '['] := List.IsChain.infix h opened
  exact List.isChain_pair.mp pair rfl rfl

/-- A text as a link to `url`. -/
def hyperlink (url : String) (text : List Char) : List Char :=
  (linkTo url).text.toList ++ text ++ (linkTo "").text.toList

/-- The two ends of a link's address have an escape each, and no bracket opens behind one. -/
theorem Unopened.after_linkTo {url : String} {rest : List Char} (h : Unopened rest)
    (plain : escape ∉ url.toList) : Unopened ((linkTo url).text.toList ++ rest) := by
  have address : escape ∉ "8;;".toList ++ url.toList := by
    rw [List.mem_append]
    exact not_or.mpr ⟨by decide +kernel, plain⟩
  have start : Unopened [escape, ']'] := List.isChain_pair.mpr fun _ => by decide
  have ends : Unopened [escape, '\\'] := List.isChain_pair.mpr fun _ => by decide
  rw [toList_linkTo, List.append_assoc [escape, ']'], List.append_assoc, List.append_assoc]
  exact start.append ((ends.append h (by decide)).after address) (by decide)

theorem Unopened.after_hyperlink {url : String} {text rest : List Char} (h : Unopened rest)
    (plain : escape ∉ url.toList) (plain' : escape ∉ text) :
    Unopened (hyperlink url text ++ rest) := by
  rw [hyperlink, List.append_assoc, List.append_assoc]
  exact ((h.after_linkTo (by decide)).after plain').after_linkTo plain

theorem count_escape_linkTo {url : String} (plain : escape ∉ url.toList) :
    (linkTo url).text.toList.count escape = 2 := by
  rw [toList_linkTo, List.count_append, List.count_append, List.count_eq_zero.mpr plain]
  decide +kernel

theorem count_escape_hyperlink {url : String} {text : List Char} (plain : escape ∉ url.toList)
    (plain' : escape ∉ text) : (hyperlink url text).count escape = 4 := by
  rw [hyperlink, List.count_append, List.count_append, count_escape_linkTo plain,
    count_escape_linkTo (by decide), List.count_eq_zero.mpr plain']

/-- The header of a report with a link: the code, if there is one, and the words of the link stand
between the two ends of the link. -/
theorem exists_header_linked {d : Diagnostic} {url : String} (linked : d.url = some url)
    (plain : ∀ text ∈ d.texts, escape ∉ text.toList) :
    ∃ label, escape ∉ label ∧
      renderSpans false (header d) = hyperlink url label ++ ['\n', '\n'] := by
  refine ⟨((d.code.map (· ++ " ")).getD "").toList ++ "(link)".toList, ?_, ?_⟩
  · rw [List.mem_append]
    exact not_or.mpr ⟨escape_not_mem_code plain, by decide +kernel⟩
  · rw [header, linked]
    simp [renderSpans, Span.render_false, hyperlink]

theorem renderSpans_header_unlinked {d : Diagnostic} (unlinked : d.url = none) :
    renderSpans false (header d) =
      d.code.toList.flatMap fun code => code.toList ++ ['\n', '\n'] := by
  rw [header, unlinked]
  cases d.code <;> simp [renderSpans, Span.render_false]

theorem count_escape_unlinked (set : GlyphSet) {d : Diagnostic} (unlinked : d.url = none) :
    (render ⟨false, set⟩ d).count escape =
      ((d.code.toList ++ (d.message :: d.causes ++ d.help.toList)).flatMap
        String.toList).count escape := by
  have code : (renderSpans false (header d)).count escape =
      (d.code.toList.flatMap String.toList).count escape := by
    rw [renderSpans_header_unlinked unlinked]
    cases d.code <;> simp [escape]
  rw [render, List.count_append, count_escape_below, code, ← List.count_append,
    ← List.flatMap_append]

theorem escape_not_mem_below (set : GlyphSet) {d : Diagnostic}
    (plain : ∀ text ∈ d.texts, escape ∉ text.toList) :
    escape ∉ (lines d).flatMap (renderLine ⟨false, set⟩ d.severity) := by
  rw [← List.count_eq_zero, count_escape_below, List.count_eq_zero]
  refine escape_not_mem_flatMap plain fun text htext => ?_
  rw [Diagnostic.mem_texts_iff]
  exact List.mem_append_right _ htext

theorem escape_not_mem_unlinked (set : GlyphSet) {d : Diagnostic} (unlinked : d.url = none)
    (plain : ∀ text ∈ d.texts, escape ∉ text.toList) : escape ∉ render ⟨false, set⟩ d := by
  rw [← List.count_eq_zero, count_escape_unlinked set unlinked, List.count_eq_zero]
  refine escape_not_mem_flatMap plain fun text htext => ?_
  rw [Diagnostic.mem_texts_iff, List.append_assoc]
  exact List.mem_append_right _ htext

/-- Reports without colours have no escapes of their own but those of a link. If no text of a
diagnostic has an escape, its report has none in front of a bracket, and none at all if there is no
address; if there is one, the report has four, those of the link in its header. The report of a
diagnostic without an address has as many escapes as its texts, whatever these are. -/
theorem uncolored_escapes (set : GlyphSet) (d : Diagnostic) :
    ((∀ text ∈ d.texts, escape ∉ text.toList) →
      ¬[escape, '['] <:+: render ⟨false, set⟩ d ∧
      (d.url = none → escape ∉ render ⟨false, set⟩ d) ∧
      ∀ url, d.url = some url → ∃ label, escape ∉ label ∧
        renderSpans false (header d) = hyperlink url label ++ ['\n', '\n'] ∧
        (hyperlink url label).count escape = 4 ∧ (render ⟨false, set⟩ d).count escape = 4) ∧
    (d.url = none → (render ⟨false, set⟩ d).count escape =
      ((d.code.toList ++ (d.message :: d.causes ++ d.help.toList)).flatMap
        String.toList).count escape) := by
  refine ⟨fun plain => ?_, count_escape_unlinked set⟩
  cases hurl : d.url with
  | none =>
    have absent := escape_not_mem_unlinked set hurl plain
    refine ⟨(unopened_of_not_mem absent).excludes, fun _ => absent, ?_⟩
    rintro url ⟨⟩
  | some url =>
    have address : escape ∉ url.toList := plain url (by simp [Diagnostic.texts, hurl])
    obtain ⟨label, hlabel, head⟩ := exists_header_linked hurl plain
    have rest :
        escape ∉ ['\n', '\n'] ++ (lines d).flatMap (renderLine ⟨false, set⟩ d.severity) := by
      rw [List.mem_append]
      exact not_or.mpr ⟨by decide, escape_not_mem_below set plain⟩
    have report : render ⟨false, set⟩ d = hyperlink url label ++
        (['\n', '\n'] ++ (lines d).flatMap (renderLine ⟨false, set⟩ d.severity)) := by
      rw [render, head, List.append_assoc]
    have four := count_escape_hyperlink address hlabel
    refine ⟨?_, ?_, ?_⟩
    · rw [report]
      exact ((unopened_of_not_mem rest).after_hyperlink address hlabel).excludes
    · rintro ⟨⟩
    · rintro _ ⟨⟩
      refine ⟨label, hlabel, head, four, ?_⟩
      rw [report, List.count_append, four, List.count_eq_zero.mpr rest]

/-- An address in brackets does not make the escapes of a link look like colours, and texts bring
as many escapes as they have. -/
theorem escapes_of_link_and_of_texts :
    let linked : Diagnostic :=
      { message := "m", code := some "c", url := some "[u]", causes := ["x y"] }
    let escaped : Diagnostic :=
      { message := "a \x1b b", code := some "\x1b[31m", help := some "\x1b" }
    ¬[escape, '['] <:+: render ⟨false, .unicode⟩ linked ∧
      (render ⟨false, .unicode⟩ linked).count escape = 4 ∧
      (render ⟨false, .ascii⟩ escaped).count escape = 3 := by
  intro linked escaped
  obtain ⟨own, -⟩ := uncolored_escapes .unicode linked
  obtain ⟨-, total⟩ := uncolored_escapes .ascii escaped
  have plain : ∀ text ∈ linked.texts, escape ∉ text.toList := by
    show ∀ text ∈ ["m", "c", "[u]", "x y"], escape ∉ text.toList
    decide +kernel
  obtain ⟨unopened, -, link⟩ := own plain
  obtain ⟨-, -, -, -, four⟩ := link "[u]" rfl
  refine ⟨unopened, four, ?_⟩
  rw [total rfl]
  decide +kernel

end Report

end InterpreterHost
