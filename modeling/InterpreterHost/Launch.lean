import InterpreterHost.FileTree
import InterpreterHost.Interpreter
import InterpreterHost.Report

/-! Launches: look up for whom, let the arguments decide the mode, and hand the streams to the
interpreter. Only a failed lookup is an error. A script that cannot be opened ends the launch
quietly, and what the interpreter fails with stays with it and is only noted. -/

namespace InterpreterHost

/-! ### Modes

The arguments decide the mode: exactly one names a script, any other number means a conversation. -/

/-- What a launch is to do. -/
inductive Mode where
  /-- Converse. -/
  | conversation
  /-- Execute the script at `path`. -/
  | script (path : Path)
deriving DecidableEq

namespace Mode

/-- The mode for some arguments, the program's name not among them. -/
def ofArguments : List Path → Mode
  | [path] => script path
  | _ => conversation

/-- Two modes are equal: both are conversations, or both are scripts with paths of one shape. -/
def agrees : Mode → Mode → Bool
  | conversation, conversation => true
  | script p, script q => p.shape = q.shape
  | _, _ => false

/-- A mode as the log shows it. -/
def quoted : Mode → String
  | conversation => "Interactive"
  | script path => "Script(" ++ Quoted.ofBytes path ++ ")"

end Mode

/-! ### Identities -/

/-- Whoever runs the program. Any name will do, the empty one too. -/
structure Identity where
  name : String
deriving DecidableEq

/-- An identity as the log shows it. -/
def Identity.quoted (identity : Identity) : String :=
  "Account \x7b username: " ++ Quoted.ofText identity.name ++ " \x7d"

/-- Why the identity could not be determined: its lookup failed. -/
structure LookupFailure where
  cause : Failure
deriving DecidableEq

/-- The text of a failed lookup. -/
def LookupFailure.text (_ : LookupFailure) : String :=
  "account lookup failed"

/-- The texts of the failures below a failed lookup, nearest first. -/
def LookupFailure.causes (failure : LookupFailure) : List String :=
  failure.cause.text :: failure.cause.causes

/-- A source of identities: the results of its lookups in order, and how many were made. -/
structure Roster where
  results : Nat → Except LookupFailure Identity
  lookups : Nat := 0

namespace Roster

/-- The roster whose lookups give `first` and then the members of `others`, the last one for
ever. -/
def ofList (first : Except LookupFailure Identity)
    (others : List (Except LookupFailure Identity)) : Roster where
  results n := ((first :: others)[n]?).getD ((others.getLast?).getD first)

/-- The result of the next lookup. -/
def current (roster : Roster) : Except LookupFailure Identity :=
  roster.results roster.lookups

/-- The roster after one more lookup. -/
def advance (roster : Roster) : Roster :=
  { roster with lookups := roster.lookups + 1 }

end Roster

/-! ### The greeting -/

namespace Greeting

/-- The pieces in which the greeting is written. -/
def pieces (identity : Identity) : List String :=
  ["Hello ", identity.name, "! This is the Monkey programming language!\n",
    "Feel free to type in commands\n"]

/-- The bytes of the greeting. -/
def bytes (identity : Identity) : List UInt8 :=
  (pieces identity).flatMap Utf8.encode

/-- Writes the greeting piece by piece and flushes. -/
def write (identity : Identity) (output : Output) : Output.Sent :=
  output.sendPieces ((pieces identity).map Utf8.encode)

end Greeting

/-! ### The journal -/

/-- What the host notes in the course of a launch. -/
inductive Note where
  | chosen (mode : Mode)
  | scriptUnavailable (path : Path) (failure : Failure)
  | scriptStarting (path : Path)
  | scriptFailed (failure : Failure)
  | greetingFailed (failure : Failure)
  | conversationStarting
  | conversationFailed (failure : Failure)
deriving DecidableEq

namespace Note

/-- The host's own part of the program. -/
def target : String := "monkey_cli::launcher"

/-- The words of a note. -/
def message : Note → String
  | chosen _ => "selected launch mode"
  | scriptUnavailable _ _ => "script unavailable"
  | scriptStarting _ => "running script"
  | scriptFailed _ => "script session ended with an error"
  | greetingFailed _ => "could not write greeting"
  | conversationStarting => "starting interactive session"
  | conversationFailed _ => "interactive session ended with an error"

/-- The named values of a note. -/
def values : Note → List (String × String)
  | chosen mode => [("mode", mode.quoted)]
  | scriptUnavailable path failure => [("path", Utf8.toText path), ("error", failure.text)]
  | scriptStarting path => [("path", Utf8.toText path)]
  | scriptFailed failure => [("error", failure.text)]
  | greetingFailed failure => [("error", failure.text)]
  | conversationStarting => []
  | conversationFailed failure => [("error", failure.text)]

/-- A note as a log record. -/
def record (note : Note) : Log.Record :=
  ⟨.debug, target, note.message, note.values⟩

end Note

/-- A line of a launch's journal: a note of the host or a remark of the interpreter. -/
inductive JournalLine where
  | host (note : Note)
  | interpreter (remark : Log.Record)
deriving DecidableEq

/-- A line of a journal as a log record. -/
def JournalLine.record : JournalLine → Log.Record
  | host note => note.record
  | interpreter remark => remark

/-! ### What stops a launch -/

/-- What stops a launch. -/
inductive LaunchFailure where
  /-- There is nobody to launch for. -/
  | nobody (cause : LookupFailure)
deriving DecidableEq

namespace LaunchFailure

/-- The text of what stopped a launch. -/
def text : LaunchFailure → String
  | nobody _ => "could not determine the current user"

/-- The texts of the causes, nearest first. -/
def causes : LaunchFailure → List String
  | nobody cause => cause.text :: cause.causes

/-- The kind of the failure at the root. -/
def kind : LaunchFailure → FailureKind
  | nobody cause => cause.cause.kind

/-- The diagnostic by which it is made known. -/
def diagnostic (failure : LaunchFailure) : Diagnostic where
  message := failure.text
  code := some "monkey::account"
  help := some
    "the launcher needs an account entry for the invoking user before it can start"
  causes := failure.causes

end LaunchFailure

/-! ### Launching -/

/-- How a launch ended. -/
inductive Ending where
  /-- The interpreter conversed. -/
  | conversed
  /-- The interpreter executed the script. -/
  | executed
  /-- The script could not be opened and nothing was executed. -/
  | unavailable
deriving DecidableEq

/-- What the log calls an ending. -/
def Ending.name : Ending → String
  | conversed => "Interactive"
  | executed => "Script"
  | unavailable => "ScriptUnavailable"

/-- The two operations of an interpreter. -/
inductive Operation where
  | converse
  | execute
deriving DecidableEq

/-- A call of an interpreter. -/
structure Call where
  operation : Operation
  /-- The bytes that the interpreter took from its input or source. -/
  took : List UInt8
  result : Except Failure Unit

/-- What is kept from launch to launch: the roster, the interpreter with its state, and the
streams. -/
structure Host (σ : Type) where
  roster : Roster
  interpreter : Interpreter σ
  state : σ
  input : Input
  output : Output

/-- What one launch leaves behind. -/
structure Launch (σ : Type) where
  result : Except LaunchFailure Ending
  host : Host σ
  /-- What happened on the host's input and output. -/
  events : List Event
  calls : List Call
  journal : List JournalLine

variable {σ : Type}

/-- The failure of a result, if it is one. -/
def failure? : Except Failure Unit → Option Failure
  | .ok () => none
  | .error failure => some failure

/-- The note about a result, if it is a failure. -/
def notes (result : Except Failure Unit) (failed : Failure → Note) : List JournalLine :=
  ((failure? result).map fun failure => .host (failed failure)).toList

/-- The journal of an interpreter's operation: its remarks, and a note if it failed. -/
def Passage.journal (passage : Passage σ) (failed : Failure → Note) : List JournalLine :=
  passage.remarks.map .interpreter ++ notes passage.result failed

/-- The call that an interpreter's operation was. -/
def Passage.call (passage : Passage σ) (operation : Operation) : Call :=
  ⟨operation, Event.taken passage.events, passage.result⟩

namespace Host

/-- Has the interpreter execute the script with the contents `data`. Its source is no stream of the
host's, so what is read from it is no event. -/
def execute (host : Host σ) (path : Path) (data : List UInt8) : Launch σ :=
  let passage := host.interpreter.execute host.state (.ofBytes data) host.output
  { result := .ok .executed
    host := { host with state := passage.state, output := passage.output }
    events := (passage.events.filterMap Event.output?).map .output
    calls := [passage.call .execute]
    journal := .host (.scriptStarting path) :: passage.journal .scriptFailed }

/-- Writes the greeting and has the interpreter converse, whether or not the greeting arrived. -/
def converse (host : Host σ) (identity : Identity) : Launch σ :=
  let greeted := Greeting.write identity host.output
  let passage := host.interpreter.converse host.state host.input greeted.output
  { result := .ok .conversed
    host :=
      { host with state := passage.state, input := passage.input, output := passage.output }
    events := greeted.trace ++ passage.events
    calls := [passage.call .converse]
    journal :=
      notes greeted.result .greetingFailed ++
        .host .conversationStarting :: passage.journal .conversationFailed }

/-- Ends a launch whose script could not be opened. -/
def forgo (host : Host σ) (path : Path) (failure : Failure) : Launch σ where
  result := .ok .unavailable
  host := host
  events := []
  calls := []
  journal := [.host (.scriptUnavailable path failure)]

/-- Does what `mode` says for `identity`; `scripts` are the contents of the scripts that can be
opened. -/
def perform (host : Host σ) (scripts : Path → Except Failure (List UInt8))
    (identity : Identity) : Mode → Launch σ
  | .conversation => host.converse identity
  | .script path =>
    match scripts path with
    | .error failure => host.forgo path failure
    | .ok data => host.execute path data

/-- One launch with the arguments `args`. The lookup comes first, whatever they are. -/
def launch (host : Host σ) (scripts : Path → Except Failure (List UInt8)) (args : List Path) :
    Launch σ :=
  let later := { host with roster := host.roster.advance }
  match host.roster.current with
  | .error cause => ⟨.error (.nobody cause), later, [], [], []⟩
  | .ok identity =>
    let mode := Mode.ofArguments args
    let performed := later.perform scripts identity mode
    { performed with journal := .host (.chosen mode) :: performed.journal }

/-- Launches with each of the argument lists in turn. -/
def launches (host : Host σ) (scripts : Path → Except Failure (List UInt8)) :
    List (List Path) → List (Launch σ)
  | [] => []
  | args :: others =>
    let launched := host.launch scripts args
    launched :: launched.host.launches scripts others

end Host

/-! ### Courses

One equation for each course of a launch. Who it is for decides first (`launch_nobody`), then how
many arguments there are (`launch_conversed`), then whether the one script opens
(`launch_unavailable`, `launch_executed`). Every launch takes one of these courses
(`Host.launchCourse`). What is said of launches elsewhere is said along the four, and `Host.launch`
is not opened again. -/

theorem Mode.ofArguments_eq_conversation {args : List Path} (many : args.length ≠ 1) :
    Mode.ofArguments args = .conversation := by
  rcases args with _ | ⟨path, _ | ⟨other, others⟩⟩
  · rfl
  · exact absurd rfl many
  · rfl

namespace Host

/-- The host after one more lookup. -/
def asked (host : Host σ) : Host σ :=
  { host with roster := host.roster.advance }

variable {host : Host σ} {scripts : Path → Except Failure (List UInt8)} {args : List Path}
  {cause : LookupFailure} {identity : Identity} {path : Path} {failure : Failure}
  {data : List UInt8}

theorem launch_nobody (lookup : host.roster.current = .error cause) :
    host.launch scripts args = ⟨.error (.nobody cause), host.asked, [], [], []⟩ := by
  rw [launch, lookup, asked]

theorem launch_conversed (lookup : host.roster.current = .ok identity) (many : args.length ≠ 1) :
    host.launch scripts args =
      { host.asked.converse identity with
        journal := .host (.chosen .conversation) :: (host.asked.converse identity).journal } := by
  rw [launch, lookup, ← asked]
  simp only [Mode.ofArguments_eq_conversation many, perform]

theorem launch_unavailable (lookup : host.roster.current = .ok identity)
    (opening : scripts path = .error failure) :
    host.launch scripts [path] =
      { host.asked.forgo path failure with
        journal := .host (.chosen (.script path)) :: (host.asked.forgo path failure).journal } := by
  rw [launch, lookup, ← asked]
  simp only [Mode.ofArguments, perform, opening]

theorem launch_executed (lookup : host.roster.current = .ok identity)
    (opening : scripts path = .ok data) :
    host.launch scripts [path] =
      { host.asked.execute path data with
        journal := .host (.chosen (.script path)) :: (host.asked.execute path data).journal } := by
  rw [launch, lookup, ← asked]
  simp only [Mode.ofArguments, perform, opening]

/-- The course that a launch takes, with what decides on it. -/
inductive LaunchCourse (host : Host σ) (scripts : Path → Except Failure (List UInt8)) :
    List Path → Prop
  | nobody {args : List Path} (cause : LookupFailure)
      (lookup : host.roster.current = .error cause) : LaunchCourse host scripts args
  | conversed {args : List Path} (identity : Identity)
      (lookup : host.roster.current = .ok identity) (many : args.length ≠ 1) :
      LaunchCourse host scripts args
  | unavailable (identity : Identity) (path : Path) (failure : Failure)
      (lookup : host.roster.current = .ok identity) (opening : scripts path = .error failure) :
      LaunchCourse host scripts [path]
  | executed (identity : Identity) (path : Path) (data : List UInt8)
      (lookup : host.roster.current = .ok identity) (opening : scripts path = .ok data) :
      LaunchCourse host scripts [path]

theorem launchCourse (host : Host σ) (scripts : Path → Except Failure (List UInt8))
    (args : List Path) : host.LaunchCourse scripts args := by
  cases lookup : host.roster.current with
  | error cause => exact .nobody cause lookup
  | ok identity =>
    by_cases single : args.length = 1
    · obtain ⟨path, rfl⟩ := List.length_eq_one_iff.mp single
      cases opening : scripts path with
      | error failure => exact .unavailable identity path failure lookup opening
      | ok data => exact .executed identity path data lookup opening
    · exact .conversed identity lookup single

end Host

/-! ### Exchanges

Greetings and operations of the repeater, one after another over one pair of streams. -/

/-- A step of an exchange. -/
inductive Step where
  | converse
  | execute
  | greet (identity : Identity)
deriving DecidableEq

/-- What one step leaves behind. -/
def Step.take : Step → Input → Output → Passage Unit
  | converse, input, output => Repeater.interpreter.converse () input output
  | execute, input, output => Repeater.interpreter.execute () input output
  | greet identity, input, output =>
    let sent := Greeting.write identity output
    ⟨sent.result, (), input, sent.output, sent.trace, []⟩

/-- What each of some steps leaves behind. The streams go from one step to the next, whether or not
it failed. -/
def exchange (input : Input) (output : Output) : List Step → List (Passage Unit)
  | [] => []
  | step :: steps =>
    let passage := step.take input output
    passage :: exchange passage.input passage.output steps

end InterpreterHost
