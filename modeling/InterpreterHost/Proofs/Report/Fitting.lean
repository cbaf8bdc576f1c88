import InterpreterHost.Proofs.Report.Reading
import InterpreterHost.Proofs.Text.Filling

/-! How wide the lines of a report are, and which lines of its texts are broken. A lead and the
columns that it leaves make up 198 (`Lead.length_drawn`), and a text is wrapped to those columns, so
no line is wider. Lines that fit stay whole (`Report.Section.keptBy_lines`). -/

namespace InterpreterHost

namespace Report

theorem escape_not_mem_renderSpans {spans : List Span} {columns : List Nat}
    (drawn : List.Forall₂ (fun span n => Drawing n span.text) spans columns) :
    escape ∉ renderSpans false spans := by
  unfold renderSpans
  induction drawn with
  | nil => simp
  | @cons span n _ _ drawing _ ih =>
    rw [List.flatMap_cons, List.mem_append, Span.render_false]
    exact not_or.mpr ⟨drawing.plain, ih⟩

end Report

end InterpreterHost
