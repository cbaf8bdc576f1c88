import InterpreterHost.Stream
import InterpreterHost.Text.Encoding
import InterpreterHost.Text.Wrap

/-! Reports of what went wrong, as they are drawn for the user and delivered. -/

namespace InterpreterHost

/-! ### Diagnostics -/

/-- How serious a diagnostic is. -/
inductive Severity where
  | error
  | warning
  | advice
deriving DecidableEq

/-- What went wrong, why, and what may help. A part that is there and empty differs from one that
is missing. -/
structure Diagnostic where
  message : String
  /-- The name under which the diagnostic is documented. -/
  code : Option String := none
  severity : Option Severity := none
  /-- What the user may do. -/
  help : Option String := none
  /-- Where the diagnostic is documented. -/
  url : Option String := none
  /-- The texts of the causes, nearest first. -/
  causes : List String := []
  /-- The texts can be had at all. -/
  formattable : Bool := true
deriving DecidableEq

/-! ### Appearance

Which characters draw the decoration and which colours it has. Neither decides what a report says or
where its lines end. -/

/-- The characters that may draw decoration. -/
inductive GlyphSet where
  | unicode
  | ascii
deriving DecidableEq, Inhabited

/-- How reports are decorated. -/
structure Appearance where
  color : Bool := true
  glyphSet : GlyphSet := default
deriving DecidableEq

/-- The name of a set of characters. -/
def GlyphSet.name : GlyphSet → String
  | unicode => "Unicode"
  | ascii => "Ascii"

/-- An appearance as the log shows it. -/
def Appearance.quoted (appearance : Appearance) : String :=
  "RenderConfig \x7b color: " ++ (if appearance.color then "true" else "false") ++ ", charset: " ++
    appearance.glyphSet.name ++ " \x7d"

/-- The strings that draw decoration, all of one width in both sets. -/
structure Glyphs where
  error : String
  warning : String
  advice : String
  /-- Continues a message. -/
  bar : String
  /-- Starts a cause that another one follows. -/
  branch : String
  /-- Continues a cause that another one follows. -/
  trunk : String
  /-- Starts the last cause. -/
  corner : String
  /-- Continues the last cause. -/
  gap : String

/-- The strings drawn with the characters of a set. -/
def GlyphSet.glyphs : GlyphSet → Glyphs
  | unicode => ⟨"×", "⚠", "☞", "│", "  ├─▶ ", "  │   ", "  ╰─▶ ", "      "⟩
  | ascii => ⟨"x", "!", ">", "|", "  |-> ", "  |   ", "  `-> ", "      "⟩

/-- The icon of a severity; without one, that of an error. -/
def Glyphs.icon (glyphs : Glyphs) : Option Severity → String
  | some .warning => glyphs.warning
  | some .advice => glyphs.advice
  | _ => glyphs.error

/-- What a colour stands for. -/
inductive Style where
  | severity (severity : Option Severity)
  | help
  | link
deriving DecidableEq

/-- The terminal's number for a style. -/
def Style.number : Style → String
  | severity (some .warning) => "33"
  | severity (some .advice) => "36"
  | severity _ => "31"
  | help => "36"
  | link => "36;1;4"

/-- A stretch of a report in one style or in none. -/
structure Span where
  style : Option Style := none
  text : String
deriving DecidableEq

/-- The sequence that turns a style on. -/
def Style.start (style : Style) : String :=
  "\x1b[" ++ style.number ++ "m"

/-- The sequence that turns every style off. -/
def Style.reset : String := "\x1b[0m"

/-- A span as it is written, with colour or without. -/
def Span.render (color : Bool) : Span → String
  | ⟨some style, text⟩ => if color then style.start ++ text ++ Style.reset else text
  | ⟨none, text⟩ => text

/-! ### Layout

A header with code and link, and lines of wrapped text, each led in by the place it has in the
report. The layout knows nothing of appearances; they only decide how a lead is drawn. -/

/-- The place of a report's line: the section that it belongs to, and whether it is the first line
of its text. -/
inductive Lead where
  | message (first : Bool)
  | cause (last first : Bool)
  | help (first : Bool)
deriving DecidableEq

/-- A line of a report. -/
structure ReportLine where
  lead : Lead
  content : List Char
deriving DecidableEq

/-- The lead as spans. -/
def Lead.spans (glyphs : Glyphs) (severity : Option Severity) : Lead → List Span
  | message true => [⟨none, "  "⟩, ⟨some (.severity severity), glyphs.icon severity⟩, ⟨none, " "⟩]
  | message false => [⟨none, "  "⟩, ⟨some (.severity severity), glyphs.bar⟩, ⟨none, " "⟩]
  | cause false true => [⟨some (.severity severity), glyphs.branch⟩]
  | cause false false => [⟨some (.severity severity), glyphs.trunk⟩]
  | cause true true => [⟨some (.severity severity), glyphs.corner⟩]
  | cause true false => [⟨some (.severity severity), glyphs.gap⟩]
  | help true => [⟨some .help, "  help: "⟩]
  | help false => [⟨none, "        "⟩]

namespace Report

/-- The columns of a report's message. -/
def messageLimit : Nat := 194

/-- The columns of a cause. -/
def causeLimit : Nat := 192

/-- The columns of the help text. -/
def helpLimit : Nat := 190

/-- The lines of one text. -/
def block (lead : Bool → Lead) (limit : Nat) (text : String) : List ReportLine :=
  match Wrap.wrap limit text.toList with
  | [] => []
  | line :: lines => ⟨lead true, line⟩ :: lines.map (⟨lead false, ·⟩)

/-- The lines of a chain of causes. -/
def causeLines : List String → List ReportLine
  | [] => []
  | [cause] => block (.cause true) causeLimit cause
  | cause :: causes => block (.cause false) causeLimit cause ++ causeLines causes

/-- The lines of a report below its header. -/
def lines (diagnostic : Diagnostic) : List ReportLine :=
  block .message messageLimit diagnostic.message ++ causeLines diagnostic.causes ++
    (diagnostic.help.map (block .help helpLimit)).getD []

/-- The sequence that starts a link to `url`, or ends one if that is empty. -/
def linkTo (url : String) : Span :=
  ⟨none, "\x1b]8;;" ++ url ++ "\x1b\\"⟩

/-- The header of a report: its code, and a link if there is an address. The place of the code in
front of the link is styled even when it is empty. -/
def header (diagnostic : Diagnostic) : List Span :=
  let style := some (Style.severity diagnostic.severity)
  match diagnostic.url, diagnostic.code with
  | some url, code =>
    [linkTo url, ⟨style, (code.map (· ++ " ")).getD ""⟩, ⟨some .link, "(link)"⟩, linkTo "",
      ⟨none, "\n\n"⟩]
  | none, some code => [⟨style, code⟩, ⟨none, "\n\n"⟩]
  | none, none => []

/-- Some spans as they are written. -/
def renderSpans (color : Bool) (spans : List Span) : List Char :=
  spans.flatMap fun span => (span.render color).toList

/-- A line as it is written. -/
def renderLine (appearance : Appearance) (severity : Option Severity) (line : ReportLine) :
    List Char :=
  renderSpans appearance.color (line.lead.spans appearance.glyphSet.glyphs severity) ++
    line.content ++ ['\n']

/-- The report of a diagnostic. -/
def render (appearance : Appearance) (diagnostic : Diagnostic) : List Char :=
  renderSpans appearance.color (header diagnostic) ++
    (lines diagnostic).flatMap (renderLine appearance diagnostic.severity)

/-! ### Delivery

A report is made as a whole before any of it is written. -/

/-- The bytes of a report. -/
def bytes (appearance : Appearance) (diagnostic : Diagnostic) : List UInt8 :=
  Utf8.encode (String.ofList (render appearance diagnostic))

/-- The failure of a diagnostic that cannot be put into words. -/
def unformattable : Failure :=
  .worded .other "failed to format diagnostic" []

/-- Writes the report of a diagnostic and flushes. -/
def deliver (appearance : Appearance) (diagnostic : Diagnostic) (output : Output) : Output.Sent :=
  if diagnostic.formattable then output.send (bytes appearance diagnostic)
  else ⟨.error unformattable, output, []⟩

end Report

end InterpreterHost
