import InterpreterHost.Proofs.Report.Sections
import Mathlib.Data.List.Nodup
import Mathlib.Data.List.SplitBy

/-! Reading a report that has no colours. Leads that may come after the same one differ in their
first characters (`Lead.nodup_marks`), whatever text follows them, so of two reports that are alike
the lines have the same leads and contents (`Report.eq_of_map_drawn`). The lines of each section
start where a lead is that of a first line (`Report.splitBy_lines`). -/

namespace InterpreterHost

namespace Utf8

theorem encode_injective : Function.Injective encode := by
  intro s t h
  have bytes : s.toUTF8 = t.toUTF8 := ByteArray.ext (Array.toList_inj.mp h)
  exact String.toByteArray_inj.mp bytes

end Utf8

namespace Lead

/-- The lead of the first line of a text. -/
def isFirst : Lead → Bool
  | message first => first
  | cause _ first => first
  | help first => first

/-- The kinds of text in a report. -/
inductive Kind where
  | message
  | cause
  | help
deriving DecidableEq

/-- The kind of text that a lead is for. -/
def kind : Lead → Kind
  | message _ => .message
  | cause _ _ => .cause
  | help _ => .help

/-- The leads that may come right after a lead. -/
def successors : Lead → List Lead
  | message _ => [message false, cause false true, cause true true, help true]
  | cause false _ => [cause false false, cause false true, cause true true]
  | cause true _ => [cause true false, help true]
  | help _ => [help false]

/-- The lead as it is drawn without colours, for a severity that matters to the first line of a
message only. -/
def uncolored (set : GlyphSet) (lead : Lead) : List Char :=
  lead.drawn ⟨false, set⟩ none

/-- What tells a lead from the others that may stand in its place. -/
def mark (set : GlyphSet) (lead : Lead) : List Char :=
  (lead.uncolored set).take 4

/-- Leads that may come after the same one differ in their first four characters. -/
theorem nodup_marks (set : GlyphSet) (before : Lead) :
    (before.successors.map (mark set)).Nodup := by
  cases set <;> rcases before with (_ | _) | ⟨_ | _, _ | _⟩ | (_ | _) <;> decide +kernel

theorem four_le_length_uncolored (set : GlyphSet) (lead : Lead) :
    4 ≤ (lead.uncolored set).length := by
  cases set <;> rcases lead with (_ | _) | ⟨_ | _, _ | _⟩ | (_ | _) <;> decide +kernel

/-- Without colours a severity shows in the first line of a message only. -/
theorem drawn_of_ne {lead : Lead} (h : lead ≠ message true) (set : GlyphSet)
    (severity : Option Severity) : lead.drawn ⟨false, set⟩ severity = lead.uncolored set := by
  rcases lead with (_ | _) | ⟨_ | _, _ | _⟩ | (_ | _)
  · rfl
  · exact absurd rfl h
  all_goals rfl

theorem ne_of_mem_successors {before lead : Lead} (h : lead ∈ before.successors) :
    lead ≠ message true := by
  rintro rfl
  rcases before with _ | ⟨_ | _, _⟩ | _ <;> simp [successors] at h

variable {set : GlyphSet} {severity severity' : Option Severity}

/-- Two leads that may come after the same one are told apart as they are drawn, whatever stands
behind them. -/
theorem eq_of_drawn_append {before lead lead' : Lead} (h : lead ∈ before.successors)
    (h' : lead' ∈ before.successors) {text text' : List Char}
    (same : lead.drawn ⟨false, set⟩ severity ++ text =
      lead'.drawn ⟨false, set⟩ severity' ++ text') : lead = lead' ∧ text = text' := by
  rw [drawn_of_ne (ne_of_mem_successors h), drawn_of_ne (ne_of_mem_successors h')] at same
  have marks : lead.mark set = lead'.mark set := by
    have first := congrArg (List.take 4) same
    rwa [List.take_append_of_le_length (four_le_length_uncolored set lead),
      List.take_append_of_le_length (four_le_length_uncolored set lead')] at first
  obtain rfl := List.inj_on_of_nodup_map (nodup_marks set before) h h' marks
  exact ⟨rfl, List.append_cancel_left same⟩

/-- A message starts with its icon. -/
theorem exists_drawn_message (set : GlyphSet) (severity : Option Severity) :
    ∃ icon, set.glyphs.icon severity = String.ofList [icon] ∧
      (message true).drawn ⟨false, set⟩ severity = [' ', ' ', icon, ' '] := by
  cases set <;> rcases severity with _ | (_ | _ | _) <;> exact ⟨_, rfl, by decide +kernel⟩

end Lead

namespace Report

variable {set : GlyphSet} {severity severity' : Option Severity}

/-- A line led in by the second lead may come after one led in by the first. -/
def Follows (before lead : Lead) : Prop :=
  lead ∈ before.successors

/-- Where two sections are drawn alike they have the same rows: lines that come after the same lead
have leads that cannot make up for their texts. -/
theorem eq_of_map_drawn {before : Lead} {rows rows' : List ReportLine}
    (chain : (before :: rows.map ReportLine.lead).IsChain Follows)
    (chain' : (before :: rows'.map ReportLine.lead).IsChain Follows)
    (same : rows.map (ReportLine.drawn ⟨false, set⟩ severity) =
      rows'.map (ReportLine.drawn ⟨false, set⟩ severity')) : rows = rows' := by
  induction rows generalizing before rows' with
  | nil => exact (List.map_eq_nil_iff.mp same.symm).symm
  | cons row rows ih =>
    obtain ⟨row', others, rfl, drawn, later⟩ := List.map_eq_cons_iff.mp same.symm
    rw [List.map_cons, List.isChain_cons_cons] at chain chain'
    obtain ⟨lead, content⟩ := row
    obtain ⟨lead', content'⟩ := row'
    obtain ⟨rfl, rfl⟩ := Lead.eq_of_drawn_append chain.1 chain'.1 drawn.symm
    rw [ih chain.2 chain'.2 later.symm]

/-! ### The order of lines -/

namespace Section

/-- Each line of the section may come after the one before it. -/
def Regular (part : Section) : Prop :=
  ∀ first, Follows (part.lead first) (part.lead false)

/-- The second section may come after the first one. -/
def Precedes (part next : Section) : Prop :=
  ∀ first, Follows (part.lead first) (next.lead true)

theorem isChain_leads {part : Section} {R : Lead → Lead → Prop}
    (h : ∀ first, R (part.lead first) (part.lead false)) :
    (part.lines.map ReportLine.lead).IsChain R := by
  obtain ⟨count, leads⟩ := part.exists_map_lead_lines
  rw [leads]
  refine .cons (List.isChain_replicate_of_rel count (h false)) ?_
  intro lead hlead
  obtain rfl := (List.mem_replicate.mp (List.mem_of_mem_head? hlead)).2
  exact h true

theorem lead_of_mem_head? {part : Section} {lead : Lead}
    (h : lead ∈ (part.lines.map ReportLine.lead).head?) : lead = part.lead true := by
  obtain ⟨count, leads⟩ := part.exists_map_lead_lines
  rw [leads] at h
  exact (Option.mem_some.mp h).symm

theorem exists_lead_of_mem {part : Section} {lead : Lead}
    (h : lead ∈ part.lines.map ReportLine.lead) : ∃ first, lead = part.lead first := by
  obtain ⟨count, leads⟩ := part.exists_map_lead_lines
  rw [leads] at h
  obtain rfl | h := List.mem_cons.mp h
  · exact ⟨true, rfl⟩
  · exact ⟨false, (List.mem_replicate.mp h).2⟩

theorem lines_ne_nil (part : Section) : part.lines ≠ [] := by
  obtain ⟨count, leads⟩ := part.exists_map_lead_lines
  intro none
  simp [none] at leads

end Section

theorem exists_causeSections {causes : List String} (some : causes ≠ []) :
    ∃ last cause later, causeSections causes = ⟨.cause last, cause⟩ :: later := by
  obtain ⟨cause, others, rfl⟩ := List.exists_cons_of_ne_nil some
  cases others with
  | nil => exact ⟨true, cause, [], rfl⟩
  | cons next others => exact ⟨false, cause, causeSections (next :: others), rfl⟩

/-- Causes follow one another, and the help text follows the last of them. -/
theorem isChain_causeSections (causes : List String) (help : Option String) :
    (causeSections causes ++ help.toList.map (Section.mk .help)).IsChain Section.Precedes := by
  induction causes with
  | nil => cases help <;> simp [causeSections]
  | cons cause causes ih =>
    by_cases more : causes = []
    · subst more
      cases help <;> simp [causeSections, Section.Precedes, Follows, Lead.successors]
    · rw [causeSections_cons cause more, List.cons_append]
      refine ih.cons ?_
      obtain ⟨last, next, later, found⟩ := exists_causeSections more
      rw [found]
      intro part hpart
      obtain rfl := Option.mem_some.mp hpart
      cases last <;> simp [Section.Precedes, Follows, Lead.successors]

theorem isChain_sections (d : Diagnostic) : (sections d).IsChain Section.Precedes := by
  rw [sections, List.cons_append]
  refine (isChain_causeSections d.causes d.help).cons ?_
  intro part hpart
  by_cases none : d.causes = []
  · cases hhelp : d.help with
    | none => simp [none, hhelp, causeSections] at hpart
    | some help =>
      obtain rfl : ⟨.help, help⟩ = part := by simpa [none, hhelp, causeSections] using hpart
      simp [Section.Precedes, Follows, Lead.successors]
  · obtain ⟨last, cause, later, found⟩ := exists_causeSections none
    obtain rfl : ⟨.cause last, cause⟩ = part := by simpa [found] using hpart
    cases last <;> simp [Section.Precedes, Follows, Lead.successors]

theorem lead_of_mem_causeSections {causes : List String} {part : Section}
    (h : part ∈ causeSections causes) : ∃ last, part.lead = .cause last := by
  simp only [causeSections, List.mem_append, List.mem_map] at h
  rcases h with ⟨-, -, rfl⟩ | ⟨-, -, rfl⟩
  · exact ⟨false, rfl⟩
  · exact ⟨true, rfl⟩

theorem lead_of_mem_sections {d : Diagnostic} {part : Section} (h : part ∈ sections d) :
    part.lead = .message ∨ (∃ last, part.lead = .cause last) ∨ part.lead = .help := by
  simp only [sections, List.mem_append, List.mem_cons, List.mem_map] at h
  obtain (rfl | h) | ⟨-, -, rfl⟩ := h
  · exact .inl rfl
  · exact .inr (.inl (lead_of_mem_causeSections h))
  · exact .inr (.inr rfl)

/-- A first line of a section may be followed by further ones, and these by each other. -/
theorem regular_of_mem_sections {d : Diagnostic} {part : Section} (h : part ∈ sections d) :
    part.Regular := by
  obtain lead | ⟨last, lead⟩ | lead := lead_of_mem_sections h
  · simp [Section.Regular, Follows, Lead.successors, lead]
  · cases last <;> simp [Section.Regular, Follows, Lead.successors, lead]
  · simp [Section.Regular, Follows, Lead.successors, lead]

theorem isFirst_of_mem_sections {d : Diagnostic} {part : Section} (h : part ∈ sections d)
    (first : Bool) : (part.lead first).isFirst = first := by
  obtain lead | ⟨last, lead⟩ | lead := lead_of_mem_sections h <;> rw [lead] <;> rfl

theorem isChain_leads (d : Diagnostic) : ((lines d).map ReportLine.lead).IsChain Follows := by
  rw [← flatMap_lines_sections, List.map_flatMap, List.flatMap_def]
  refine (List.isChain_flatten ?_).mpr ⟨?_, ?_⟩
  · simp [Section.lines_ne_nil]
  · intro leads hleads
    obtain ⟨part, hpart, rfl⟩ := List.mem_map.mp hleads
    exact Section.isChain_leads (regular_of_mem_sections hpart)
  · refine (List.isChain_map _).mpr ((isChain_sections d).imp ?_)
    intro part next precedes lead hlead lead' hlead'
    obtain ⟨first, rfl⟩ := Section.exists_lead_of_mem (List.mem_of_mem_getLast? hlead)
    rw [Section.lead_of_mem_head? hlead']
    exact precedes first

/-- The lines of a report, cut where a text starts, are those of its sections. -/
theorem splitBy_lines (d : Diagnostic) :
    (lines d).splitBy (fun _ line => !line.lead.isFirst) = (sections d).map Section.lines := by
  rw [← flatMap_lines_sections, List.flatMap_def]
  refine List.splitBy_flatten ?_ ?_ ?_
  · simp [Section.lines_ne_nil]
  · intro rows hrows
    obtain ⟨part, hpart, rfl⟩ := List.mem_map.mp hrows
    refine (List.isChain_map ReportLine.lead).mp
      (Section.isChain_leads (R := fun _ lead => !lead.isFirst) ?_)
    intro first
    simp [isFirst_of_mem_sections hpart]
  · refine (List.pairwise_of_forall_mem_list ?_).isChain
    intro rows hrows rows' hrows'
    obtain ⟨part, -, rfl⟩ := List.mem_map.mp hrows
    obtain ⟨next, hnext, rfl⟩ := List.mem_map.mp hrows'
    refine ⟨part.lines_ne_nil, next.lines_ne_nil, ?_⟩
    have lead : (next.lines.head next.lines_ne_nil).lead = next.lead true := by
      apply Section.lead_of_mem_head?
      rw [List.head?_map, List.head?_eq_some_head next.lines_ne_nil]
      rfl
    rw [lead, isFirst_of_mem_sections hnext]
    rfl

/-! ### What can be read -/

/-- The wrapped texts of one kind that some lines show. -/
def textsOf (kind : Lead.Kind) (rows : List ReportLine) : List (List (List Char)) :=
  ((rows.splitBy fun _ line => !line.lead.isFirst).filter fun rows =>
    (rows.map ReportLine.lead).head?.any (·.kind = kind)).map (List.map ReportLine.content)

/-- What the lines of a report show of a kind are its sections of that kind, wrapped. -/
theorem textsOf_lines (kind : Lead.Kind) (d : Diagnostic) :
    textsOf kind (lines d) = ((sections d).filter fun part => (part.lead true).kind = kind).map
      fun part => Wrap.wrap part.limit part.text.toList := by
  have first (part : Section) : (part.lines.map ReportLine.lead).head?.any (·.kind = kind) =
      decide ((part.lead true).kind = kind) := by
    obtain ⟨count, leads⟩ := part.exists_map_lead_lines
    rw [leads]
    rfl
  rw [textsOf, splitBy_lines, List.filter_map, List.map_map]
  simp only [Function.comp_def, first, Section.map_content_lines]

theorem filter_causeSections (kind : Lead.Kind) (causes : List String) :
    (causeSections causes).filter (fun part => (part.lead true).kind = kind) =
      if kind = .cause then causeSections causes else [] := by
  have cause (part : Section) (h : part ∈ causeSections causes) :
      (part.lead true).kind = .cause := by
    obtain ⟨last, lead⟩ := lead_of_mem_causeSections h
    rw [lead]
    rfl
  split
  · next h =>
    refine List.filter_eq_self.mpr fun part hpart => ?_
    rw [cause part hpart, h]
    rfl
  · next h =>
    refine List.filter_eq_nil_iff.mpr fun part hpart => ?_
    rw [cause part hpart, decide_eq_true_eq]
    exact Ne.symm h

theorem textsOf_message (d : Diagnostic) :
    textsOf .message (lines d) = [Wrap.wrap messageLimit d.message.toList] := by
  rw [textsOf_lines, sections, List.filter_append, List.filter_cons_of_pos rfl,
    filter_causeSections]
  cases d.help <;> rfl

theorem textsOf_cause (d : Diagnostic) :
    textsOf .cause (lines d) = d.causes.map fun cause => Wrap.wrap causeLimit cause.toList := by
  have help : (d.help.toList.map (Section.mk .help)).filter
      (fun part => (part.lead true).kind = .cause) = [] := by
    cases d.help <;> rfl
  rw [textsOf_lines, sections, List.filter_append, help, List.append_nil,
    List.filter_cons_of_neg Bool.false_ne_true, filter_causeSections, if_pos rfl]
  conv => rhs; rw [← map_text_causeSections d.causes, List.map_map]
  refine List.map_congr_left fun part hpart => ?_
  obtain ⟨last, lead⟩ := lead_of_mem_causeSections hpart
  simp [Section.limit, lead, Lead.limit]

theorem textsOf_help (d : Diagnostic) :
    textsOf .help (lines d) =
      (d.help.map fun help => Wrap.wrap helpLimit help.toList).toList := by
  rw [textsOf_lines, sections, List.filter_append, List.filter_cons_of_neg Bool.false_ne_true,
    filter_causeSections]
  cases d.help <;> rfl

/-! ### Unambiguity -/

/-- A report starts with the first line of its message. -/
theorem exists_lines (d : Diagnostic) :
    ∃ content others, lines d = ⟨.message true, content⟩ :: others := by
  obtain ⟨⟨lead, content⟩, rows, hrows⟩ := List.exists_cons_of_ne_nil
    (Section.lines_ne_nil ⟨.message, d.message⟩)
  have hlead : lead ∈ ((Section.mk .message d.message).lines.map ReportLine.lead).head? := by
    rw [hrows]
    rfl
  obtain rfl := Section.lead_of_mem_head? hlead
  refine ⟨content, rows ++ (causeSections d.causes ++
    d.help.toList.map (Section.mk .help)).flatMap Section.lines, ?_⟩
  rw [← flatMap_lines_sections, sections, List.cons_append, List.flatMap_cons, hrows]
  rfl

theorem drawn_ne_nil (row : ReportLine) : row.drawn ⟨false, set⟩ severity ≠ [] := by
  obtain ⟨lead, content⟩ := row
  refine List.append_ne_nil_of_left_ne_nil ?_ _
  by_cases h : lead = .message true
  · obtain ⟨icon, -, drawn⟩ := Lead.exists_drawn_message set severity
    rw [h, drawn]
    simp
  · rw [Lead.drawn_of_ne h]
    intro none
    have := lead.four_le_length_uncolored set
    simp [none] at this

/-- Reports whose lines are drawn alike have the same icon and the same lines. -/
theorem lines_eq_of_drawn {d d' : Diagnostic}
    (same : (lines d).map (ReportLine.drawn ⟨false, set⟩ d.severity) =
      (lines d').map (ReportLine.drawn ⟨false, set⟩ d'.severity)) :
    set.glyphs.icon d.severity = set.glyphs.icon d'.severity ∧ lines d = lines d' := by
  obtain ⟨content, others, hlines⟩ := exists_lines d
  obtain ⟨content', others', hlines'⟩ := exists_lines d'
  have chain := isChain_leads d
  have chain' := isChain_leads d'
  obtain ⟨icon, hicon, drawn⟩ := Lead.exists_drawn_message set d.severity
  obtain ⟨icon', hicon', drawn'⟩ := Lead.exists_drawn_message set d'.severity
  rw [hlines] at same chain
  rw [hlines'] at same chain'
  simp only [List.map_cons, List.cons.injEq, ReportLine.drawn, drawn, drawn', List.cons_append,
    true_and] at same
  obtain ⟨⟨rfl, -, rfl⟩, later⟩ := same
  refine ⟨hicon.trans hicon'.symm, ?_⟩
  rw [hlines, hlines', eq_of_map_drawn chain chain' later]

/-- Reports that are drawn alike agree in their codes and their lines: only a code has an empty line
behind it, so there are two codes or none. -/
theorem eq_of_render {d d' : Diagnostic} (unlinked : d.url = none) (unlinked' : d'.url = none)
    (oneLine : ∀ code ∈ d.code, '\n' ∉ code.toList)
    (oneLine' : ∀ code ∈ d'.code, '\n' ∉ code.toList)
    (same : render ⟨false, set⟩ d = render ⟨false, set⟩ d') :
    d.code = d'.code ∧ (lines d).map (ReportLine.drawn ⟨false, set⟩ d.severity) =
      (lines d').map (ReportLine.drawn ⟨false, set⟩ d'.severity) := by
  have shown := congrArg (fields '\n') same
  rw [fields_render_unlinked _ unlinked oneLine, fields_render_unlinked _ unlinked' oneLine',
    List.append_cancel_right_eq] at shown
  have solid (e : Diagnostic) :
      [] ∉ (lines e).map (ReportLine.drawn ⟨false, set⟩ e.severity) := by
    simp [drawn_ne_nil]
  unfold codeLines Span.render at shown
  cases hcode : d.code with
  | none =>
    cases hcode' : d'.code with
    | none =>
      rw [hcode, hcode'] at shown
      exact ⟨rfl, shown⟩
    | some code' =>
      simp only [hcode, hcode', Option.elim_none, Option.elim_some, List.nil_append,
        List.cons_append] at shown
      exact absurd (shown ▸ .tail _ (.head _)) (solid d)
  | some code =>
    cases hcode' : d'.code with
    | none =>
      simp only [hcode, hcode', Option.elim_none, Option.elim_some, List.nil_append,
        List.cons_append] at shown
      exact absurd (shown ▸ .tail _ (.head _)) (solid d')
    | some code' =>
      simp only [hcode, hcode', Option.elim_some, List.cons_append, List.nil_append,
        List.cons.injEq, true_and] at shown
      exact ⟨congrArg some (String.toList_inj.mp shown.1), shown.2⟩

/-- Reports without colours are unambiguous. If those of two diagnostics without a link, whose codes
are of one line, are the same in one set of characters, then so are the codes, missing ones
included, the icons, the wrapped lines of the messages, those of each of the causes and those of the
help texts, missing ones included. -/
theorem reports_unambiguous (set : GlyphSet) (d d' : Diagnostic) (unlinked : d.url = none)
    (unlinked' : d'.url = none) (oneLine : ∀ code ∈ d.code, '\n' ∉ code.toList)
    (oneLine' : ∀ code ∈ d'.code, '\n' ∉ code.toList)
    (same : bytes ⟨false, set⟩ d = bytes ⟨false, set⟩ d') :
    d.code = d'.code ∧ set.glyphs.icon d.severity = set.glyphs.icon d'.severity ∧
      Wrap.wrap messageLimit d.message.toList = Wrap.wrap messageLimit d'.message.toList ∧
      List.Forall₂ (fun cause cause' =>
        Wrap.wrap causeLimit cause.toList = Wrap.wrap causeLimit cause'.toList) d.causes d'.causes ∧
      Option.Rel (fun help help' =>
        Wrap.wrap helpLimit help.toList = Wrap.wrap helpLimit help'.toList) d.help d'.help := by
  have rendered : render ⟨false, set⟩ d = render ⟨false, set⟩ d' :=
    String.ofList_injective (Utf8.encode_injective same)
  obtain ⟨codes, drawn⟩ := eq_of_render unlinked unlinked' oneLine oneLine' rendered
  obtain ⟨icons, rows⟩ := lines_eq_of_drawn drawn
  have message := textsOf_message d
  have causes := textsOf_cause d
  have help := textsOf_help d
  rw [rows] at message causes help
  rw [textsOf_message] at message
  rw [textsOf_cause] at causes
  rw [textsOf_help] at help
  refine ⟨codes, icons, (List.singleton_inj.mp message).symm, ?_, ?_⟩
  · have paired : List.Forall₂ Eq
        (d.causes.map fun cause => Wrap.wrap causeLimit cause.toList)
        (d'.causes.map fun cause => Wrap.wrap causeLimit cause.toList) := by
      rw [causes, List.forall₂_eq_eq_eq]
    rwa [List.forall₂_map_left_iff, List.forall₂_map_right_iff] at paired
  · cases hhelp : d.help with
    | none =>
      cases hhelp' : d'.help with
      | none => exact .none
      | some text' => simp [hhelp, hhelp'] at help
    | some text =>
      cases hhelp' : d'.help with
      | none => simp [hhelp, hhelp'] at help
      | some text' =>
        rw [hhelp, hhelp'] at help
        exact .some (List.singleton_inj.mp help).symm

/-- Texts whose lines start as leads do are not taken for causes, in two diagnostics that differ in
spaces at the ends of lines and in a severity that is drawn like none. -/
theorem unambiguous_beside_imitations :
    let d : Diagnostic :=
      { message := "m\n|-> c ", code := some "k", causes := ["a\n  \x60-> b", "c"]
        help := some "h  " }
    let d' : Diagnostic :=
      { message := "m\n|-> c", code := some "k", severity := some .error
        causes := ["a \n  \x60-> b", "c   "], help := some "h" }
    bytes ⟨false, .ascii⟩ d = bytes ⟨false, .ascii⟩ d' ∧
      Wrap.wrap messageLimit d.message.toList = Wrap.wrap messageLimit d'.message.toList ∧
      List.Forall₂ (fun cause cause' =>
        Wrap.wrap causeLimit cause.toList = Wrap.wrap causeLimit cause'.toList) d.causes d'.causes ∧
      Wrap.wrap helpLimit "h  ".toList = Wrap.wrap helpLimit "h".toList := by
  intro d d'
  have same : bytes ⟨false, .ascii⟩ d = bytes ⟨false, .ascii⟩ d' := by decide +kernel
  have oneLine : ∀ code ∈ some "k", '\n' ∉ code.toList := by simp
  obtain ⟨-, -, message, causes, help⟩ :=
    reports_unambiguous .ascii d d' rfl rfl oneLine oneLine same
  cases help with
  | some help => exact ⟨same, message, causes, help⟩

end Report

end InterpreterHost
