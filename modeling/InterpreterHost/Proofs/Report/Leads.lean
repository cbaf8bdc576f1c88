import InterpreterHost.Proofs.Report.Colors
import Mathlib.Data.List.Forall2

/-! Leads as they are drawn. They take as many columns in every appearance (`Lead.width_drawn`): a
colour takes none (`Span.width_render`), and both sets of characters draw in the same columns. The
characters of one set replace those of the other one for one (`Lead.drawn_ascii`). -/

namespace InterpreterHost

/-- What turns a style on is a colour sequence. -/
theorem Style.isColor_start (style : Style) : IsColor style.start.toList := by
  have parameters : style.number.toList.all isParameter := by
    rcases style with (_ | _ | _ | _) | _ | _ <;> decide +kernel
  exact ⟨style.number.toList, List.all_eq_true.mp parameters, by simp [Style.start, escape]⟩

theorem Style.isColor_reset : IsColor Style.reset.toList :=
  ⟨['0'], by simp [isParameter], by decide +kernel⟩

/-- The text is drawn on one line, in some columns. -/
structure Drawing (columns : Nat) (text : String) : Prop where
  plain : escape ∉ text.toList
  oneLine : '\n' ∉ text.toList
  width : width text.toList = columns

instance (columns : Nat) (text : String) : Decidable (Drawing columns text) :=
  decidable_of_iff
    (escape ∉ text.toList ∧ '\n' ∉ text.toList ∧ width text.toList = columns)
    ⟨fun h => ⟨h.1, h.2.1, h.2.2⟩, fun h => ⟨h.plain, h.oneLine, h.width⟩⟩

/-- The ASCII character that stands for a character of the other set. -/
def asciiGlyph : Char → Char
  | '×' => 'x'
  | '⚠' => '!'
  | '☞' => '>'
  | '│' => '|'
  | '├' => '|'
  | '╰' => '\x60'
  | '─' => '-'
  | '▶' => '>'
  | c => c

/-- The second text draws with ASCII characters what the first one draws. -/
def Redrawn (text other : String) : Prop :=
  other.toList = text.toList.map asciiGlyph

instance (text other : String) : Decidable (Redrawn text other) :=
  inferInstanceAs (Decidable (_ = _))

namespace Span

variable {span : Span}

theorem render_false (span : Span) : span.render false = span.text := by
  obtain ⟨_ | style, text⟩ := span <;> rfl

/-- A span is written as its text, or as its text between two colour sequences. -/
theorem render_cases (span : Span) (color : Bool) :
    span.render color = span.text ∨ ∃ start reset, IsColor start ∧ IsColor reset ∧
      (span.render color).toList = start ++ span.text.toList ++ reset := by
  obtain ⟨_ | style, text⟩ := span
  · exact .inl rfl
  · cases color with
    | false => exact .inl rfl
    | true =>
      refine .inr ⟨style.start.toList, Style.reset.toList, style.isColor_start,
        Style.isColor_reset, ?_⟩
      simp [render]

/-- A span without escapes fades to its text. -/
theorem fades (h : escape ∉ span.text.toList) :
    Fades (span.render true).toList (span.render false).toList := by
  rw [render_false]
  obtain plain | ⟨start, reset, hstart, hreset, colored⟩ := span.render_cases true
  · rw [plain]
    exact .refl h
  · rw [colored]
    simpa using (hstart.fades.append (.refl h)).append hreset.fades

theorem newline_not_mem_render (h : '\n' ∉ span.text.toList) (color : Bool) :
    '\n' ∉ (span.render color).toList := by
  obtain plain | ⟨start, reset, hstart, hreset, colored⟩ := span.render_cases color
  · rwa [plain]
  · rw [colored]
    simp [hstart.newline_not_mem, hreset.newline_not_mem, h]

/-- Only the text of a span takes columns. -/
theorem width_render (h : escape ∉ span.text.toList) (color : Bool) (rest : List Char) :
    width ((span.render color).toList ++ rest) = width span.text.toList + width rest := by
  obtain plain | ⟨start, reset, hstart, hreset, colored⟩ := span.render_cases color
  · rw [plain, width_append h]
  · rw [colored, List.append_assoc, List.append_assoc, hstart.width_append, width_append h,
      hreset.width_append]

/-- A span in the same style that is drawn with the other characters is written with them and with
the same colours. -/
theorem render_redrawn {other : Span} (style : other.style = span.style)
    (redrawn : Redrawn span.text other.text) (color : Bool) :
    (other.render color).toList = (span.render color).toList.map asciiGlyph := by
  obtain ⟨drawn, text⟩ := span
  obtain ⟨drawn', text'⟩ := other
  obtain rfl : drawn' = drawn := style
  cases drawn' with
  | none => exact redrawn
  | some style =>
    cases color with
    | false => exact redrawn
    | true =>
      have start : style.start.toList.map asciiGlyph = style.start.toList := by
        rcases style with (_ | _ | _ | _) | _ | _ <;> decide +kernel
      have reset : Style.reset.toList.map asciiGlyph = Style.reset.toList := by decide +kernel
      have text : text'.toList = text.toList.map asciiGlyph := redrawn
      simp only [render, if_true, String.toList_append, List.map_append, start, reset, text]

end Span

/-! ### Rows of spans -/

namespace Report

variable {spans others : List Span} {columns : List Nat}

theorem newline_not_mem_renderSpans
    (drawn : List.Forall₂ (fun span n => Drawing n span.text) spans columns) (color : Bool) :
    '\n' ∉ renderSpans color spans := by
  unfold renderSpans
  induction drawn with
  | nil => simp
  | cons span _ ih =>
    rw [List.flatMap_cons, List.mem_append]
    exact not_or.mpr ⟨Span.newline_not_mem_render span.oneLine color, ih⟩

/-- A row of spans takes the columns of its texts, in colour or without. -/
theorem width_renderSpans
    (drawn : List.Forall₂ (fun span n => Drawing n span.text) spans columns) (color : Bool) :
    width (renderSpans color spans) = columns.foldr (· + ·) 0 := by
  unfold renderSpans
  induction drawn with
  | nil => rfl
  | cons span _ ih =>
    rw [List.flatMap_cons, Span.width_render span.plain, span.width, ih, List.foldr_cons]

theorem fades_renderSpans
    (drawn : List.Forall₂ (fun span n => Drawing n span.text) spans columns) :
    Fades (renderSpans true spans) (renderSpans false spans) := by
  unfold renderSpans
  induction drawn with
  | nil => exact .nil
  | cons span _ ih =>
    rw [List.flatMap_cons, List.flatMap_cons]
    exact (Span.fades span.plain).append ih

/-- A row of spans is redrawn one by one. -/
theorem renderSpans_redrawn
    (redrawn : List.Forall₂ (fun span other => other.style = span.style ∧
      Redrawn span.text other.text) spans others) (color : Bool) :
    renderSpans color others = (renderSpans color spans).map asciiGlyph := by
  unfold renderSpans
  induction redrawn with
  | nil => rfl
  | cons span _ ih =>
    rw [List.flatMap_cons, List.flatMap_cons, List.map_append,
      Span.render_redrawn span.1 span.2, ih]

end Report

/-! ### Leads -/

namespace GlyphSet

theorem icon_drawing (set : GlyphSet) (severity : Option Severity) :
    Drawing 1 (set.glyphs.icon severity) := by
  cases set <;> rcases severity with _ | (_ | _ | _) <;> decide +kernel

theorem bar_drawing (set : GlyphSet) : Drawing 1 set.glyphs.bar := by
  cases set <;> decide +kernel

theorem cause_drawings (set : GlyphSet) :
    Drawing 6 set.glyphs.branch ∧ Drawing 6 set.glyphs.trunk ∧ Drawing 6 set.glyphs.corner ∧
      Drawing 6 set.glyphs.gap := by
  cases set <;> decide +kernel

theorem icon_redrawn (severity : Option Severity) :
    Redrawn (unicode.glyphs.icon severity) (ascii.glyphs.icon severity) := by
  rcases severity with _ | (_ | _ | _) <;> decide +kernel

theorem bar_redrawn : Redrawn unicode.glyphs.bar ascii.glyphs.bar := by decide +kernel

theorem cause_redrawn :
    Redrawn unicode.glyphs.branch ascii.glyphs.branch ∧
      Redrawn unicode.glyphs.trunk ascii.glyphs.trunk ∧
      Redrawn unicode.glyphs.corner ascii.glyphs.corner ∧
      Redrawn unicode.glyphs.gap ascii.glyphs.gap := by
  decide +kernel

end GlyphSet

/-- The columns of a report's line. -/
def Report.columns : Nat := 198

namespace Lead

/-- The lead as it is written. -/
def drawn (appearance : Appearance) (severity : Option Severity) (lead : Lead) : List Char :=
  Report.renderSpans appearance.color (lead.spans appearance.glyphSet.glyphs severity)

/-- The columns that each span of the lead takes. -/
def spanColumns : Lead → List Nat
  | message _ => [2, 1, 1]
  | cause _ _ => [6]
  | help _ => [8]

/-- The columns to which a text with the lead is wrapped. -/
def limit : Lead → Nat
  | message _ => Report.messageLimit
  | cause _ _ => Report.causeLimit
  | help _ => Report.helpLimit

variable (appearance : Appearance) (set : GlyphSet) (severity : Option Severity) (lead : Lead)

/-- The spans of a lead take the same columns in both sets. -/
theorem spans_drawing :
    List.Forall₂ (fun span n => Drawing n span.text) (lead.spans set.glyphs severity)
      lead.spanColumns := by
  have margin : Drawing 2 "  " := by decide +kernel
  have space : Drawing 1 " " := by decide +kernel
  obtain ⟨branch, trunk, corner, gap⟩ := set.cause_drawings
  rcases lead with (_ | _) | ⟨_ | _, _ | _⟩ | (_ | _)
  · exact .cons margin (.cons set.bar_drawing (.cons space .nil))
  · exact .cons margin (.cons (set.icon_drawing severity) (.cons space .nil))
  · exact .cons trunk .nil
  · exact .cons branch .nil
  · exact .cons gap .nil
  · exact .cons corner .nil
  · exact .cons (by decide +kernel) .nil
  · exact .cons (by decide +kernel) .nil

theorem spans_redrawn :
    List.Forall₂ (fun span other => other.style = span.style ∧ Redrawn span.text other.text)
      (lead.spans GlyphSet.unicode.glyphs severity)
      (lead.spans GlyphSet.ascii.glyphs severity) := by
  have margin : Redrawn "  " "  " := by decide +kernel
  have space : Redrawn " " " " := by decide +kernel
  obtain ⟨branch, trunk, corner, gap⟩ := GlyphSet.cause_redrawn
  rcases lead with (_ | _) | ⟨_ | _, _ | _⟩ | (_ | _)
  · exact .cons ⟨rfl, margin⟩ (.cons ⟨rfl, GlyphSet.bar_redrawn⟩ (.cons ⟨rfl, space⟩ .nil))
  · exact .cons ⟨rfl, margin⟩
      (.cons ⟨rfl, GlyphSet.icon_redrawn severity⟩ (.cons ⟨rfl, space⟩ .nil))
  · exact .cons ⟨rfl, trunk⟩ .nil
  · exact .cons ⟨rfl, branch⟩ .nil
  · exact .cons ⟨rfl, gap⟩ .nil
  · exact .cons ⟨rfl, corner⟩ .nil
  · exact .cons ⟨rfl, by decide +kernel⟩ .nil
  · exact .cons ⟨rfl, by decide +kernel⟩ .nil

theorem newline_not_mem_drawn : '\n' ∉ lead.drawn appearance severity :=
  Report.newline_not_mem_renderSpans (lead.spans_drawing _ severity) _

/-- A lead leaves the same columns in every appearance. -/
theorem width_drawn : width (lead.drawn appearance severity) + lead.limit = Report.columns := by
  rw [drawn, Report.width_renderSpans (lead.spans_drawing _ severity)]
  cases lead <;> rfl

/-- The columns that a lead leaves as it is drawn. -/
def room : Nat :=
  Report.columns - width (lead.drawn appearance severity)

/-- Texts are wrapped to just the columns that their leads leave. -/
theorem room_eq_limit : lead.room appearance severity = lead.limit := by
  have hwidth := lead.width_drawn appearance severity
  unfold room
  omega

/-- In ASCII a lead has other characters, one for one. -/
theorem drawn_ascii (color : Bool) :
    lead.drawn ⟨color, .ascii⟩ severity =
      (lead.drawn ⟨color, .unicode⟩ severity).map asciiGlyph :=
  Report.renderSpans_redrawn (lead.spans_redrawn severity) color

/-- A lead in colour fades to the lead without. -/
theorem fades_drawn :
    Fades (lead.drawn ⟨true, set⟩ severity) (lead.drawn ⟨false, set⟩ severity) :=
  Report.fades_renderSpans (lead.spans_drawing set severity)

end Lead

end InterpreterHost
