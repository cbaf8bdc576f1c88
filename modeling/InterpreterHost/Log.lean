import InterpreterHost.Text.Encoding
import InterpreterHost.Text.Fields

/-! The log: records, the filter that says which of them are shown, and the lines that they are
shown as. -/

namespace InterpreterHost.Log

/-! ### Records

Which part of the program says what, and how urgently. Whether and how a record is shown is decided
elsewhere. -/

/-- How much a record matters, the most urgent first. -/
inductive Level where
  | error
  | warn
  | info
  | debug
  | trace
deriving DecidableEq

/-- How far a level goes into detail. -/
def Level.detail : Level → Nat
  | error => 1
  | warn => 2
  | info => 3
  | debug => 4
  | trace => 5

/-- One remark of a part of the program. -/
structure Record where
  level : Level
  /-- The part of the program that makes the remark. -/
  target : String
  message : String
  /-- Named values, in order. -/
  fields : List (String × String) := []
deriving DecidableEq

/-! ### Filters

A filter is a list of directives, each with the level up to which it shows the records of the
targets that start with its own. The first directive for a record's target decides, and longer
targets come first. A filter is written as directives between commas; when one of them is not
written as directives are, the standing filter takes the place of all. A directive that would have
to be cut inside a character is another matter: nothing takes its place, and the program that reads
it stops. -/

/-- The name of a level. -/
def Level.name : Level → String
  | error => "error"
  | warn => "warn"
  | info => "info"
  | debug => "debug"
  | trace => "trace"

/-- The most detailed level that is shown, if any is. -/
abbrev Threshold := Option Level

namespace Threshold

/-- The name of a threshold. -/
def name (threshold : Threshold) : String :=
  (threshold.map Level.name).getD "off"

/-- How far a threshold goes into detail. -/
def detail (threshold : Threshold) : Nat :=
  (threshold.map Level.detail).getD 0

/-- The more detailed of two thresholds. -/
def max (s t : Threshold) : Threshold :=
  if s.detail < t.detail then t else s

/-- All thresholds, in the order of detail. -/
def all : List Threshold :=
  [none, some .error, some .warn, some .info, some .debug, some .trace]

/-- The number that some decimal digits stand for. -/
def ofDigits? (digits : List Char) : Option Nat :=
  if digits ≠ [] ∧ digits.all Char.isDigit then
    some (digits.foldl (fun n c => 10 * n + (c.toNat - 48)) 0)
  else none

/-- The threshold that a word gives by number, perhaps with a plus sign. -/
def numbered? (word : List Char) : Option Threshold :=
  let digits := match word with
    | '+' :: digits => digits
    | digits => digits
  (ofDigits? digits).bind (all[·]?)

/-- The threshold that a word gives by name, in capitals or not. -/
def named? (word : List Char) : Option Threshold :=
  all.find? (·.name.toList = word.map Char.toLower)

/-- The threshold that a word gives. -/
def ofWord? (word : List Char) : Option Threshold :=
  (numbered? word).or (named? word)

end Threshold

/-- An end of a part of a text. -/
inductive Edge where
  | start
  | stop
deriving DecidableEq

/-- The name of an end. -/
def Edge.name : Edge → String
  | start => "start"
  | stop => "end"

/-- A place inside a character at which a part of a text was to begin or to end. -/
structure Tear where
  edge : Edge
  /-- The place, counted in bytes. -/
  offset : Nat
  /-- The character around the place. -/
  char : Char
  /-- Where that begins. -/
  start : Nat
deriving DecidableEq

/-- Why a directive is not read. -/
inductive Unread where
  /-- It is not written as directives are. -/
  | malformed
  /-- It would have to be cut inside a character. -/
  | torn (tear : Tear)
deriving DecidableEq

namespace Tear

/-- The text of a tear. -/
def text (tear : Tear) : String :=
  tear.edge.name ++ " byte index " ++ toString tear.offset ++
    " is not a char boundary; it is inside '" ++ String.ofList (Quoted.escapeChar tear.char) ++
    "' (bytes " ++ toString tear.start ++ ".." ++ toString (tear.start + tear.char.utf8Size) ++
    " of string)"

/-- The character that `offset` lies inside, with where it begins, of characters of which the first
begins at `start`. -/
def around? (offset start : Nat) : List Char → Option (Char × Nat)
  | [] => none
  | c :: cs =>
    if offset ≤ start then none
    else if offset < start + c.utf8Size then some (c, start)
    else around? offset (start + c.utf8Size) cs

/-- Makes sure that a part of a text can have an end at `offset`. -/
def check (edge : Edge) (offset : Nat) (text : List Char) : Except Unread Unit :=
  match around? offset 0 text with
  | none => .ok ()
  | some (c, start) => .error (.torn ⟨edge, offset, c, start⟩)

end Tear

/-- A rule of a filter: up to which level the records of some targets are shown. -/
structure Directive where
  /-- The start of the targets meant; without one, all are. -/
  target : Option (List UInt8)
  threshold : Threshold
deriving DecidableEq

namespace Directive

/-- The directive is meant for records of `target`. -/
def covers (target : List UInt8) (directive : Directive) : Bool :=
  match directive.target with
  | none => true
  | some start => start.isPrefixOf target

/-- The directive is looked at before another one: the longer target is, then the greater one, and
all targets last. -/
def precedes (d e : Directive) : Bool :=
  match d.target, e.target with
  | some s, some t => t.length < s.length || (s.length = t.length && t < s)
  | some _, none => true
  | none, _ => false

/-- A directive as it is written. -/
def text (directive : Directive) : List UInt8 :=
  match directive.target with
  | none => Utf8.encode directive.threshold.name
  | some target => target ++ Utf8.encode ("=" ++ directive.threshold.name)

/-- The character may start a target. -/
def startsTarget (c : Char) : Bool :=
  c = '-' || c = ':' || c = '_' || isAlphanumeric c

/-- The character ends a target: a level or a span follows it. -/
def endsTarget (c : Char) : Bool :=
  c = '=' || c = '['

/-- The directive without a sign of equality that `piece` is: a level, or a target shown in full
detail. -/
def ofWord (piece : List Char) : Directive :=
  match Threshold.ofWord? piece with
  | some threshold => ⟨none, threshold⟩
  | none => ⟨some (Utf8.encode (String.ofList piece)), some .trace⟩

/-- The directive of which the first `cut` bytes of `bytes` are the target and those past the next
one are the level; no level means full detail. -/
def ofBytes? (cut : Nat) (bytes : List UInt8) : Option Directive :=
  match bytes.drop (cut + 1) with
  | [] => some ⟨some (bytes.take cut), some .trace⟩
  | level =>
    ((Utf8.decode? level).bind fun word => Threshold.ofWord? word.toList).map
      (⟨some (bytes.take cut), ·⟩)

/-- Reads a directive. Its shape is that of `piece` without the blanks around it, but it is `piece`
itself that is cut where the target ends in that shape. -/
def parse (piece : List Char) : Except Unread Directive := do
  let trimmed := trimBlanks piece
  let target := trimmed.takeWhile (!endsTarget ·)
  let cut := (Utf8.encode (String.ofList target)).length
  if trimmed.head?.any startsTarget then
    match trimmed.drop target.length with
    | [] => return ofWord piece
    | sign :: _ =>
      Tear.check .stop cut piece
      if sign = '=' then
        Tear.check .start (cut + 1) piece
        (ofBytes? cut (Utf8.encode (String.ofList piece))).elim (throw .malformed) pure
      else throw .malformed
  else throw .malformed

end Directive

/-- A filter of log records. -/
structure Filter where
  /-- The directives, in the order in which they are looked at. -/
  directives : List Directive
  /-- The most detailed threshold that any directive had, replaced ones included. -/
  peak : Threshold
deriving DecidableEq

namespace Filter

/-- The filter without directives, which shows nothing. -/
def empty : Filter := ⟨[], none⟩

/-- The directives with one more in its place, where it replaces one for the same target. -/
def place (directive : Directive) : List Directive → List Directive
  | [] => [directive]
  | d :: ds =>
    if directive.target = d.target then directive :: ds
    else if directive.precedes d then directive :: d :: ds
    else d :: place directive ds

/-- The filter with one more directive. -/
def add (filter : Filter) (directive : Directive) : Filter where
  directives := place directive filter.directives
  peak := filter.peak.max directive.threshold

/-- The filter that stands when none is given, or none that can be read. -/
def standing : Filter := empty.add ⟨none, some .warn⟩

/-- Reads the directives between the commas of a text, up to the first that is not read. -/
def parse (text : String) : Except Unread Filter :=
  let pieces := (fields ',' text.toList).filter (· ≠ [])
  (pieces.mapM Directive.parse).map (·.foldl add empty)

/-- Reads the value of an environment variable. One that holds no text asks for nothing. -/
def read (value : Option (List UInt8)) : Except Unread Filter :=
  (value.bind Utf8.decode?).elim (.ok standing) parse

/-- The tear by which a variable stops the program that reads it, if it does. -/
def tear? (value : Option (List UInt8)) : Option Tear :=
  match read value with
  | .error (.torn tear) => some tear
  | _ => none

/-- The filter that an environment variable asks for. -/
def ofVariable (value : Option (List UInt8)) : Filter :=
  (read value).toOption.getD standing

/-- A filter as it is written. -/
def text (filter : Filter) : List UInt8 :=
  (filter.directives.map Directive.text).intersperse [44] |>.flatten

/-- The record is shown. -/
def shows (filter : Filter) (record : Record) : Bool :=
  match filter.directives.find? (·.covers (Utf8.encode record.target)) with
  | some directive => record.level.detail ≤ directive.threshold.detail
  | none => false

end Filter

/-! ### Lines -/

/-- A level as a line shows it, in five columns. -/
def Level.label : Level → String
  | error => "ERROR"
  | warn => " WARN"
  | info => " INFO"
  | debug => "DEBUG"
  | trace => "TRACE"

/-- The terminal's number for the colour of a level. -/
def Level.color : Level → String
  | error => "31"
  | warn => "33"
  | info => "32"
  | debug => "34"
  | trace => "35"

/-- A text in a terminal's style, if there is colour. -/
def paint (color : Bool) (number text : String) : String :=
  if color then "\x1b[" ++ number ++ "m" ++ text ++ "\x1b[0m" else text

/-- A named value: the name in italics and the sign dimmed. -/
def fieldText (color : Bool) (name value : String) : String :=
  " " ++ paint color "3" name ++ paint color "2" "=" ++ value

/-- A record as a line: the level, the message and the named values. -/
def Record.line (color : Bool) (record : Record) : String :=
  paint color record.level.color record.level.label ++ " " ++ record.message ++
    String.join (record.fields.map fun (name, value) => fieldText color name value) ++ "\n"

/-! ### What appears -/

/-- Which records appear, and whether in colour. -/
structure Display where
  filter : Filter
  color : Bool
deriving DecidableEq

namespace Display

/-- The display that two environment variables ask for: the directives of a filter, and whether
there is to be no colour, which any text but the empty one means. A value that is no text counts as
unset. -/
def ofVariables (directives plain : Option (List UInt8)) : Display where
  filter := .ofVariable directives
  color := (plain.bind Utf8.decode?).all String.isEmpty

/-- A record as it appears, if it does. -/
def text (display : Display) (record : Record) : List UInt8 :=
  if display.filter.shows record then Utf8.encode (record.line display.color) else []

/-- Some records as they appear, in order. -/
def log (display : Display) (records : List Record) : List UInt8 :=
  records.flatMap display.text

end Display

end InterpreterHost.Log
