import InterpreterHost.Proofs.Report.Leads

/-! What an appearance changes in a report. The limits of a layout are numbers, and no appearance is
asked for them; that they are what leads leave as they are drawn is shown by laying out reports
within any limits (`Report.linesWithin_room`). So the lines are the same in every appearance, and
what differs are the leads (`Report.fields_render`) and the colours, which may be taken out again
(`Report.withoutColors_render`). -/

namespace InterpreterHost

namespace Report

/-- The lines of a chain of causes within some limits. -/
def causeLinesWithin (limit : Lead → Nat) : List String → List ReportLine
  | [] => []
  | [cause] => block (.cause true) (limit (.cause true true)) cause
  | cause :: causes =>
    block (.cause false) (limit (.cause false true)) cause ++ causeLinesWithin limit causes

/-- The lines of a report below its header within some limits. -/
def linesWithin (limit : Lead → Nat) (d : Diagnostic) : List ReportLine :=
  block .message (limit (.message true)) d.message ++ causeLinesWithin limit d.causes ++
    (d.help.map (block .help (limit (.help true)))).getD []

theorem causeLinesWithin_limit (causes : List String) :
    causeLinesWithin Lead.limit causes = causeLines causes := by
  fun_induction causeLines causes with
  | case1 => rfl
  | case2 cause => rfl
  | case3 cause causes more ih =>
    rw [causeLinesWithin, ih]
    · rfl
    · exact more

/-- Reports are laid out within what leads leave, whatever their appearance. -/
theorem linesWithin_room (appearance : Appearance) (d : Diagnostic) :
    linesWithin (Lead.room appearance d.severity) d = lines d := by
  have rooms : Lead.room appearance d.severity = Lead.limit :=
    funext fun lead => lead.room_eq_limit appearance d.severity
  rw [rooms, linesWithin, causeLinesWithin_limit]
  rfl

end Report

/-! ### Reports -/

/-- The texts of a diagnostic. -/
def Diagnostic.texts (d : Diagnostic) : List String :=
  d.message :: d.code.toList ++ d.url.toList ++ d.help.toList ++ d.causes

/-- The line as it is written, without the newline after it. -/
def ReportLine.drawn (appearance : Appearance) (severity : Option Severity) (line : ReportLine) :
    List Char :=
  line.lead.drawn appearance severity ++ line.content

namespace Report

theorem mem_block {lead : Bool → Lead} {limit : Nat} {text : String} {line : ReportLine}
    (h : line ∈ block lead limit text) (fits : ∀ first, (lead first).limit = limit) :
    line.content ∈ Wrap.wrap line.lead.limit text.toList := by
  unfold block at h
  split at h
  · simp at h
  · next content contents wrapped =>
    obtain rfl | h := List.mem_cons.mp h
    · rw [fits, wrapped]
      exact .head _
    · obtain ⟨other, hother, rfl⟩ := List.mem_map.mp h
      rw [fits, wrapped]
      exact .tail _ hother

theorem mem_causeLines {causes : List String} {line : ReportLine} (h : line ∈ causeLines causes) :
    ∃ cause ∈ causes, line.content ∈ Wrap.wrap line.lead.limit cause.toList := by
  fun_induction causeLines causes with
  | case1 => simp at h
  | case2 cause => exact ⟨cause, .head _, mem_block h fun _ => rfl⟩
  | case3 cause causes more ih =>
    obtain h | h := List.mem_append.mp h
    · exact ⟨cause, .head _, mem_block h fun _ => rfl⟩
    · obtain ⟨other, hother, wrapped⟩ := ih h
      exact ⟨other, .tail _ hother, wrapped⟩

/-- Every line of a report is a line of one of the texts, wrapped to what its lead leaves. -/
theorem mem_lines {d : Diagnostic} {line : ReportLine} (h : line ∈ lines d) :
    ∃ text ∈ d.texts, line.content ∈ Wrap.wrap line.lead.limit text.toList := by
  unfold lines at h
  obtain h | h := List.mem_append.mp h
  · obtain h | h := List.mem_append.mp h
    · exact ⟨d.message, .head _, mem_block h fun _ => rfl⟩
    · obtain ⟨cause, hcause, wrapped⟩ := mem_causeLines h
      exact ⟨cause, List.mem_append_right _ hcause, wrapped⟩
  · cases hhelp : d.help with
    | none => simp [hhelp] at h
    | some help =>
      rw [hhelp] at h
      exact ⟨help, by simp [Diagnostic.texts, hhelp], mem_block h fun _ => rfl⟩

theorem newline_not_mem_drawn {d : Diagnostic} {line : ReportLine} (h : line ∈ lines d)
    (appearance : Appearance) : '\n' ∉ line.drawn appearance d.severity := by
  obtain ⟨text, -, wrapped⟩ := mem_lines h
  intro hm
  obtain hm | hm := List.mem_append.mp hm
  · exact Lead.newline_not_mem_drawn _ _ _ hm
  · exact (Wrap.mem_of_mem_wrap wrapped hm).2 rfl

theorem fades_line {d : Diagnostic} {line : ReportLine} (h : line ∈ lines d)
    (plain : ∀ text ∈ d.texts, escape ∉ text.toList) (set : GlyphSet) :
    Fades (renderLine ⟨true, set⟩ d.severity line) (renderLine ⟨false, set⟩ d.severity line) := by
  obtain ⟨text, htext, wrapped⟩ := mem_lines h
  have content : escape ∉ line.content := by
    intro hm
    exact plain text htext (Wrap.mem_of_mem_wrap wrapped hm).1
  exact ((line.lead.fades_drawn set d.severity).append (.refl content)).append (.refl (by decide))

theorem toList_linkTo (url : String) :
    (linkTo url).text.toList =
      [escape, ']'] ++ "8;;".toList ++ url.toList ++ [escape, '\\'] := by
  simp [linkTo, escape]

/-- Links are no colours and stay. -/
theorem fades_linkTo {url : String} (h : escape ∉ url.toList) :
    Fades ((linkTo url).render true).toList ((linkTo url).render false).toList := by
  have stays : Fades (linkTo url).text.toList (linkTo url).text.toList := by
    rw [toList_linkTo]
    exact (((Fades.escaped (by decide) (by decide)).append (.refl (by decide))).append
      (.refl h)).append (.escaped (by decide) (by decide))
  exact stays

/-- In front of a link the code has no escape if the texts have none. -/
theorem escape_not_mem_code {d : Diagnostic} (plain : ∀ text ∈ d.texts, escape ∉ text.toList) :
    escape ∉ ((d.code.map (· ++ " ")).getD "").toList := by
  cases hcode : d.code with
  | none => decide
  | some code =>
    have absent : escape ∉ code.toList := plain code (by simp [Diagnostic.texts, hcode])
    show escape ∉ (code ++ " ").toList
    rw [String.toList_append, List.mem_append]
    exact not_or.mpr ⟨absent, by decide⟩

theorem fades_header {d : Diagnostic} (plain : ∀ text ∈ d.texts, escape ∉ text.toList) :
    Fades (renderSpans true (header d)) (renderSpans false (header d)) := by
  have newlines : escape ∉ "\n\n".toList := by decide
  refine .flatMap ?_
  unfold header
  cases hurl : d.url with
  | some url =>
    have link : escape ∉ url.toList := plain url (by simp [Diagnostic.texts, hurl])
    simp only [List.forall_mem_cons]
    exact ⟨fades_linkTo link, Span.fades (escape_not_mem_code plain), Span.fades (by decide),
      fades_linkTo (by decide), Span.fades newlines, by simp⟩
  | none =>
    cases hcode : d.code with
    | none => simp
    | some code =>
      have absent : escape ∉ code.toList := plain code (by simp [Diagnostic.texts, hcode])
      simp only [List.forall_mem_cons]
      exact ⟨Span.fades absent, Span.fades newlines, by simp⟩

theorem header_eq (d : Diagnostic) :
    header d = [] ∨ ∃ spans, header d = spans ++ [⟨none, "\n\n"⟩] := by
  unfold header
  split
  · exact .inr ⟨[_, _, _, _], rfl⟩
  · exact .inr ⟨[_], rfl⟩
  · exact .inl rfl

/-- A header consists of whole lines. -/
theorem exists_header_lines (color : Bool) (d : Diagnostic) :
    ∃ head : List (List Char), (∀ line ∈ head, '\n' ∉ line) ∧
      renderSpans color (header d) = head.flatMap (· ++ ['\n']) := by
  obtain none | ⟨spans, ends⟩ := header_eq d
  · exact ⟨[], by simp, by rw [none]; rfl⟩
  · refine ⟨fields '\n' (renderSpans color spans ++ ['\n']), ?_, ?_⟩
    · intro line hline
      exact not_mem_of_mem_fields hline
    · have newlines : renderSpans color [⟨none, "\n\n"⟩] = ['\n'] ++ ['\n'] := by
        simp [renderSpans, Span.render]
      rw [flatMap_fields, ends, renderSpans, List.flatMap_append, List.append_assoc]
      exact congrArg (renderSpans color spans ++ ·) newlines

/-- A report consists of the lines of its header, then those below it. -/
theorem fields_render (appearance : Appearance) {d : Diagnostic} {head : List (List Char)}
    (whole : ∀ line ∈ head, '\n' ∉ line)
    (h : renderSpans appearance.color (header d) = head.flatMap (· ++ ['\n'])) :
    fields '\n' (render appearance d) =
      head ++ (lines d).map (ReportLine.drawn appearance d.severity) ++ [[]] := by
  have below : (lines d).flatMap (renderLine appearance d.severity) =
      ((lines d).map (ReportLine.drawn appearance d.severity)).flatMap (· ++ ['\n']) := by
    rw [List.flatMap_map]
    rfl
  have all : ∀ line ∈ head ++ (lines d).map (ReportLine.drawn appearance d.severity),
      '\n' ∉ line := by
    intro line hline
    obtain hline | hline := List.mem_append.mp hline
    · exact whole line hline
    · obtain ⟨row, hrow, rfl⟩ := List.mem_map.mp hline
      exact newline_not_mem_drawn hrow appearance
  rw [render, h, below, ← List.flatMap_append, ← List.append_nil (List.flatMap ..),
    fields_flatMap_append all]
  rfl

theorem withoutColors_render {d : Diagnostic} (plain : ∀ text ∈ d.texts, escape ∉ text.toList)
    (set : GlyphSet) : withoutColors (render ⟨true, set⟩ d) = render ⟨false, set⟩ d :=
  ((fades_header plain).append (.flatMap fun _ h => fades_line h plain set)).eq

/-- For every diagnostic: in every appearance the lines below the header are the texts wrapped to
the columns that their leads leave as they are drawn, and these are the same lines. With one colour
setting, the reports in the two sets of characters have the same lines in their headers, and below
them the same contents behind leads of which one is the other with characters replaced one for one;
so there are as many lines. If no text has an escape, taking the colours out of the report in colour
leaves the one without. -/
theorem appearance_decorates (d : Diagnostic) :
    (∀ appearance, linesWithin (Lead.room appearance d.severity) d = lines d ∧
      ∀ line ∈ lines d, ∃ text ∈ d.texts,
        line.content ∈ Wrap.wrap (line.lead.room appearance d.severity) text.toList) ∧
    (∀ color, ∃ head : List (List Char),
      renderSpans color (header d) = head.flatMap (· ++ ['\n']) ∧
      fields '\n' (render ⟨color, .unicode⟩ d) = head ++ (lines d).map (fun line =>
        line.lead.drawn ⟨color, .unicode⟩ d.severity ++ line.content) ++ [[]] ∧
      fields '\n' (render ⟨color, .ascii⟩ d) = head ++ (lines d).map (fun line =>
        (line.lead.drawn ⟨color, .unicode⟩ d.severity).map asciiGlyph ++ line.content) ++ [[]] ∧
      (fields '\n' (render ⟨color, .unicode⟩ d)).length =
        (fields '\n' (render ⟨color, .ascii⟩ d)).length) ∧
    ((∀ text ∈ d.texts, escape ∉ text.toList) → ∀ set,
      withoutColors (render ⟨true, set⟩ d) = render ⟨false, set⟩ d) := by
  refine ⟨?_, ?_, fun plain set => withoutColors_render plain set⟩
  · intro appearance
    refine ⟨linesWithin_room appearance d, ?_⟩
    intro line hline
    rw [Lead.room_eq_limit]
    exact mem_lines hline
  · intro color
    obtain ⟨head, whole, hhead⟩ := exists_header_lines color d
    have unicode := fields_render ⟨color, .unicode⟩ whole hhead
    have ascii := fields_render ⟨color, .ascii⟩ whole hhead
    refine ⟨head, hhead, unicode, ?_, ?_⟩
    · rw [ascii]
      unfold ReportLine.drawn
      simp only [Lead.drawn_ascii]
    · rw [unicode, ascii]
      simp

/-- A warning with a link, a message of two lines and two causes has its colours taken out and its
lines counted. -/
theorem colors_of_linked_warning :
    let d : Diagnostic :=
      { message := "a\n", code := some "c", severity := some .warning, help := some "h"
        url := some "u", causes := ["x y", "z"] }
    withoutColors (render ⟨true, .ascii⟩ d) = render ⟨false, .ascii⟩ d ∧
      (lines d).length = 5 ∧
      fields '\n' (render ⟨false, .ascii⟩ d) =
        ["\x1b]8;;u\x1b\\c (link)\x1b]8;;\x1b\\", "", "  ! a", "  | ", "  |-> x y", "  \x60-> z",
          "  help: h", ""].map String.toList := by
  intro d
  obtain ⟨-, -, fades⟩ := appearance_decorates d
  refine ⟨fades ?_ .ascii, ?_, ?_⟩
  · decide +kernel
  · decide +kernel
  · decide +kernel

end Report

end InterpreterHost
