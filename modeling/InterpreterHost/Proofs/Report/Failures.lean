import InterpreterHost.Launch
import InterpreterHost.Proofs.Report.Sections

/-! How a failed launch is reported. Its message and its help text take a line each
(`LaunchFailure.lines_message`, `LaunchFailure.lines_help`), and between them each text of its chain
of causes has an entry of its own. -/

namespace InterpreterHost

namespace LaunchFailure

open Report

/-- What a failed launch advises. -/
def advice : String :=
  "the launcher needs an account entry for the invoking user before it can start"

variable (failure : LaunchFailure)

/-- The text that a failed lookup is reported with is the same for all causes, and one line. -/
theorem lines_message :
    (Section.mk .message failure.text).lines = [⟨.message true, failure.text.toList⟩] := by
  obtain ⟨cause⟩ := failure
  have wrapped : Wrap.wrap messageLimit (nobody cause).text.toList =
      [(nobody cause).text.toList] := by
    rw [text, String.toList_ofList]
    decide +kernel
  show block .message messageLimit (nobody cause).text = _
  rw [block, wrapped]
  rfl

theorem lines_help : (Section.mk .help advice).lines = [⟨.help true, advice.toList⟩] := by
  have wrapped : Wrap.wrap helpLimit advice.toList = [advice.toList] := by
    rw [advice, String.toList_ofList]
    decide +kernel
  show block .help helpLimit advice = _
  rw [block, wrapped]
  rfl

theorem sections_diagnostic :
    sections failure.diagnostic =
      ⟨.message, failure.text⟩ :: causeSections failure.causes ++ [⟨.help, advice⟩] := rfl

theorem lines_diagnostic :
    Report.lines failure.diagnostic = ⟨.message true, failure.text.toList⟩ ::
      ((causeSections failure.causes).map Section.lines).flatten ++
        [⟨.help true, advice.toList⟩] := by
  rw [← flatMap_lines_sections, sections_diagnostic, List.cons_append, List.flatMap_cons,
    List.flatMap_append, List.flatMap_singleton, lines_message, lines_help, ← List.flatMap_def]
  rfl

/-- The report of a failed launch has a header with its code, then its lines. -/
theorem fields_render_diagnostic (appearance : Appearance) :
    fields '\n' (render appearance failure.diagnostic) =
      [(Span.render appearance.color ⟨some (.severity none), "monkey::account"⟩).toList, []] ++
        (Report.lines failure.diagnostic).map (ReportLine.drawn appearance none) ++ [[]] := by
  refine fields_render_unlinked appearance rfl ?_
  intro code hcode
  obtain rfl := Option.mem_some.mp hcode
  decide +kernel

end LaunchFailure

/-- However the lookup fails, with a text `t` above the texts `s₁, …, sₙ`: a launch for which it
does so fails, the texts of the causes are those of the failed lookup, `t` and `s₁, …, sₙ`, and the
kind stays. A report in any appearance is written, and it has the code as its header, the message on
a line, `n + 2` entries that show these texts in order, the last one alone at the corner, and the
help text on a line. -/
theorem lookup_failure_reported (cause : Failure) :
    let failure : LaunchFailure := .nobody ⟨cause⟩
    let chain := "account lookup failed" :: cause.text :: cause.causes
    failure.causes = chain ∧ failure.kind = cause.kind ∧
    (∀ {σ : Type} (host : Host σ) scripts args, host.roster.current = .error ⟨cause⟩ →
      (host.launch scripts args).result = .error failure) ∧
    ∀ appearance, (∀ output, Report.deliver appearance failure.diagnostic output =
        output.send (Report.bytes appearance failure.diagnostic)) ∧
      ∃ (message help : ReportLine) (entries : List (List ReportLine)),
        fields '\n' (Report.render appearance failure.diagnostic) =
          [(Span.render appearance.color ⟨some (.severity none), "monkey::account"⟩).toList, []] ++
          (message :: entries.flatten ++ [help]).map (ReportLine.drawn appearance none) ++ [[]] ∧
        message = ⟨.message true, "could not determine the current user".toList⟩ ∧
        entries.length = cause.causes.length + 2 ∧
        List.Forall₂ Report.Section.ShownBy (Report.causeSections chain) entries ∧
        help = ⟨.help true,
          "the launcher needs an account entry for the invoking user before it can start".toList⟩ := by
  intro failure chain
  refine ⟨rfl, rfl, ?_, ?_⟩
  · intro σ host scripts args lookup
    rw [Host.launch_nobody lookup]
  · intro appearance
    refine ⟨fun output => rfl, ⟨.message true, failure.text.toList⟩,
      ⟨.help true, LaunchFailure.advice.toList⟩, (Report.causeSections chain).map
      Report.Section.lines, ?_, rfl, ?_, ?_, rfl⟩
    · rw [failure.fields_render_diagnostic, failure.lines_diagnostic]
      rfl
    · have texts := congrArg List.length (Report.map_text_causeSections chain)
      rw [List.length_map] at texts ⊢
      exact texts
    · rw [List.forall₂_map_right_iff, List.forall₂_same]
      intro part _
      exact part.shownBy_lines

/-- Causes with one text, which looks like an entry of the report, have an entry each. -/
theorem lookup_failure_with_one_text_twice :
    let cause : Failure := .worded .notFound "no entry" ["`-> gone", "`-> gone"]
    let failure : LaunchFailure := .nobody ⟨cause⟩
    let chain := ["account lookup failed", "no entry", "`-> gone", "`-> gone"]
    let host : Host Unit :=
      ⟨.ofList (.error ⟨cause⟩) [], Repeater.interpreter, (), .exhausted, {}⟩
    (host.launch (fun _ => .ok []) []).result = .error failure ∧ failure.causes = chain ∧
      failure.kind = .notFound ∧
      ∃ (message help : ReportLine) (entries : List (List ReportLine)), entries.length = 4 ∧
        List.Forall₂ Report.Section.ShownBy (Report.causeSections chain) entries ∧
        fields '\n' (Report.render ⟨false, .ascii⟩ failure.diagnostic) =
          ["monkey::account".toList, []] ++
            (message :: entries.flatten ++ [help]).map (ReportLine.drawn ⟨false, .ascii⟩ none) ++
            [[]] := by
  intro cause failure chain host
  obtain ⟨causes, kind, launched, reported⟩ := lookup_failure_reported cause
  obtain ⟨-, message, help, entries, written, -, number, shown, -⟩ := reported ⟨false, .ascii⟩
  exact ⟨launched host _ _ rfl, causes, kind, message, help, entries, number, shown, written⟩

end InterpreterHost
