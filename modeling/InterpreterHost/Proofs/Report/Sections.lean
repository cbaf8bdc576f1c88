import InterpreterHost.Proofs.Report.Decoration
import InterpreterHost.Proofs.Text.Rows

/-! The sections of a report: the message, each cause and the help text. The lines below the header
are those of the sections in order (`Report.flatMap_lines_sections`), and in each section they show
the lines of its text (`Report.Section.shownBy_lines`), so no text is lost, altered, repeated or
moved. -/

namespace InterpreterHost.Report

/-- A text of a report, and the leads of the lines that show it. -/
structure Section where
  lead : Bool → Lead
  text : String

namespace Section

/-- The columns of the lines. -/
def limit (part : Section) : Nat :=
  (part.lead true).limit

/-- The lines that show the text. -/
def lines (part : Section) : List ReportLine :=
  block part.lead part.limit part.text

end Section

/-- The sections of a chain of causes: all but the last are branches, and the last is the corner. -/
def causeSections (causes : List String) : List Section :=
  causes.dropLast.map (⟨.cause false, ·⟩) ++ causes.getLast?.toList.map (⟨.cause true, ·⟩)

/-- The sections of a report. -/
def sections (d : Diagnostic) : List Section :=
  ⟨.message, d.message⟩ :: causeSections d.causes ++ d.help.toList.map (⟨.help, ·⟩)

theorem causeSections_cons (cause : String) {causes : List String} (more : causes ≠ []) :
    causeSections (cause :: causes) = ⟨.cause false, cause⟩ :: causeSections causes := by
  obtain ⟨next, others, rfl⟩ := List.exists_cons_of_ne_nil more
  rfl

theorem map_text_causeSections (causes : List String) :
    (causeSections causes).map Section.text = causes := by
  induction causes with
  | nil => rfl
  | cons cause causes ih =>
    by_cases more : causes = []
    · subst more
      rfl
    · rw [causeSections_cons cause more, List.map_cons, ih]

/-- The texts of the sections are the message, the causes and the help text, in this order. -/
theorem map_text_sections (d : Diagnostic) :
    (sections d).map Section.text = d.message :: d.causes ++ d.help.toList := by
  rw [sections, List.map_append, List.map_cons, map_text_causeSections, List.map_map]
  exact congrArg _ (List.map_id' _)

theorem flatMap_lines_causeSections (causes : List String) :
    (causeSections causes).flatMap Section.lines = causeLines causes := by
  fun_induction causeLines causes with
  | case1 => rfl
  | case2 cause => exact List.flatMap_singleton ..
  | case3 cause causes more ih =>
    rw [causeSections_cons cause more, List.flatMap_cons, ih]
    rfl

/-- The lines of a report are those of its sections. -/
theorem flatMap_lines_sections (d : Diagnostic) : (sections d).flatMap Section.lines = lines d := by
  rw [sections, lines, List.cons_append, List.flatMap_cons, List.flatMap_append,
    flatMap_lines_causeSections, List.append_assoc]
  cases d.help <;> simp <;> rfl

/-! ### What the lines of a section show -/

namespace Section

/-- A section has the lead of a first line once, at its start. -/
theorem exists_map_lead_lines (part : Section) :
    ∃ count, part.lines.map ReportLine.lead =
      part.lead true :: List.replicate count (part.lead false) := by
  obtain ⟨first, others, wrapped⟩ := List.exists_cons_of_ne_nil
    (Wrap.wrap_ne_nil part.limit part.text.toList)
  refine ⟨others.length, ?_⟩
  rw [← List.map_const', lines, block, wrapped, List.map_cons, List.map_map]
  rfl

theorem map_content_lines (part : Section) :
    part.lines.map ReportLine.content = Wrap.wrap part.limit part.text.toList := by
  unfold lines block
  split
  · next none => exact none.symm
  · next wrapped => simp [wrapped, Function.comp_def]

/-- The lines show the text of the section: only the first one is led in as such, and each line of
the text is spread over some of them. -/
structure ShownBy (part : Section) (lines : List ReportLine) : Prop where
  leads : ∃ count, lines.map ReportLine.lead =
    part.lead true :: List.replicate count (part.lead false)
  contents : ∃ blocks : List (List Wrap.Segment),
    List.Forall₂ (Wrap.Spread part.limit) (fields '\n' part.text.toList) blocks ∧
      lines.map ReportLine.content = blocks.flatten.map Wrap.Segment.text

theorem shownBy_lines (part : Section) : part.ShownBy part.lines where
  leads := part.exists_map_lead_lines
  contents := by
    refine ⟨(fields '\n' part.text.toList).map (Wrap.rows part.limit), ?_, ?_⟩
    · rw [List.forall₂_map_right_iff, List.forall₂_same]
      intro line _
      exact Wrap.spread_rows part.limit line
    · rw [map_content_lines, Wrap.wrap_eq]

end Section

/-! ### Headers without a link -/

/-- The lines of the header of a report without a link: the code, if there is one, and an empty
line. -/
def codeLines (color : Bool) (d : Diagnostic) : List (List Char) :=
  d.code.elim [] fun code => [(Span.render color ⟨some (.severity d.severity), code⟩).toList, []]

theorem fields_render_unlinked (appearance : Appearance) {d : Diagnostic} (unlinked : d.url = none)
    (oneLine : ∀ code ∈ d.code, '\n' ∉ code.toList) :
    fields '\n' (render appearance d) = codeLines appearance.color d ++
      (lines d).map (ReportLine.drawn appearance d.severity) ++ [[]] := by
  refine fields_render appearance ?_ ?_
  · unfold codeLines
    cases hcode : d.code with
    | none => simp
    | some code =>
      have written : '\n' ∉ (Span.render appearance.color
          ⟨some (.severity d.severity), code⟩).toList :=
        Span.newline_not_mem_render (oneLine code hcode) appearance.color
      simpa using written
  · have newlines : (Span.render appearance.color ⟨none, "\n\n"⟩).toList = ['\n', '\n'] := by
      simp [Span.render]
    unfold codeLines header
    rw [unlinked]
    cases d.code with
    | none => rfl
    | some code => simp [renderSpans, newlines]

/-- For every diagnostic and every appearance: below its header a report consists of the sections of
the message, of the causes in order and of the help text, each shown by at least one line. The first
line of a section is led in as such and the others as what continues it. Each line of a text is
spread over the contents of consecutive lines: it is these contents with the spaces between them
that were dropped. A content ends in a space only where a part of a word, too wide for a line, was
broken off after as much as fits; then nothing is dropped. -/
theorem render_shows_texts (appearance : Appearance) (d : Diagnostic) :
    ∃ (head : List (List Char)) (groups : List (List ReportLine)),
      renderSpans appearance.color (header d) = head.flatMap (· ++ ['\n']) ∧
      fields '\n' (render appearance d) =
        head ++ groups.flatten.map (ReportLine.drawn appearance d.severity) ++ [[]] ∧
      List.Forall₂ Section.ShownBy (sections d) groups := by
  obtain ⟨head, whole, hhead⟩ := exists_header_lines appearance.color d
  refine ⟨head, (sections d).map Section.lines, hhead, ?_, ?_⟩
  · rw [← List.flatMap_def, flatMap_lines_sections]
    exact fields_render appearance whole hhead
  · rw [List.forall₂_map_right_iff, List.forall₂_same]
    intro part _
    exact part.shownBy_lines

/-- A line of a report may end in a space: the last two words are one part of 198 characters, and
the space between them is the last character of the part that fits. -/
theorem line_ends_in_space :
    let d : Diagnostic := { message := "s " ++ String.ofList (List.replicate 193 'x') ++ " zzz-" }
    lines d = [⟨.message true, ['s']⟩, ⟨.message false, List.replicate 193 'x' ++ [' ']⟩,
        ⟨.message false, "zzz-".toList⟩] ∧
      ¬∀ line ∈ lines d, ¬Wrap.EndsInSpace line.content := by
  intro d
  have spelled : d.message.toList = "s ".toList ++ List.replicate 193 'x' ++ " zzz-".toList := by
    simp only [d, String.toList_append, String.toList_ofList]
  have wrapped : Wrap.wrap messageLimit d.message.toList =
      [['s'], List.replicate 193 'x' ++ [' '], "zzz-".toList] := by
    rw [spelled]
    decide +kernel
  have shown : lines d = [⟨.message true, ['s']⟩,
      ⟨.message false, List.replicate 193 'x' ++ [' ']⟩, ⟨.message false, "zzz-".toList⟩] := by
    rw [lines, block, wrapped]
    rfl
  refine ⟨shown, ?_⟩
  rw [shown]
  intro trimmed
  refine trimmed ⟨.message false, List.replicate 193 'x' ++ [' ']⟩ (.tail _ (.head _)) ?_
  exact List.mem_getLast?_append_of_mem_getLast? rfl

end InterpreterHost.Report
