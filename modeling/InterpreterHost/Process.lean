import InterpreterHost.Launch

/-! The program as a whole: one launch with the repeater, its log and report on the error stream,
and the exit status. The filter of the log is read before anything else, and what stops that stops
the program. -/

namespace InterpreterHost

/-- What the program finds when it starts. -/
structure Surroundings where
  /-- The variable that gives the filter of the log. -/
  filterVariable : Option (List UInt8) := none
  /-- The variable that, if there is anything in it, keeps the log from having colour. -/
  plainVariable : Option (List UInt8) := none
  args : List Path
  /-- The contents of the scripts that can be opened. -/
  scripts : Path → Except Failure (List UInt8)
  identity : Except LookupFailure Identity
  input : Input
  output : Output

/-- What the program leaves behind when it ends. -/
structure Exit where
  status : Nat
  /-- The bytes that the output accepted. -/
  output : List UInt8
  /-- The bytes on the error stream. -/
  errors : List UInt8
  /-- The bytes that were taken of the input. -/
  taken : List UInt8
  /-- What is left of the input. -/
  left : Input
deriving DecidableEq

namespace Surroundings

/-- The launch that the program makes. -/
def launch (surroundings : Surroundings) : Launch Unit :=
  let host : Host Unit :=
    { roster := .ofList surroundings.identity []
      interpreter := Repeater.interpreter
      state := ()
      input := surroundings.input
      output := surroundings.output }
  host.launch surroundings.scripts surroundings.args

/-- How the program shows its log. -/
def display (surroundings : Surroundings) : Log.Display :=
  .ofVariables surroundings.filterVariable surroundings.plainVariable

/-- The remark that the operating system knows for whom the program runs. -/
def identityFound (identity : Identity) : Log.Record :=
  ⟨.trace, "monkey_cli::common::account", "resolved OS account", [("username", identity.name)]⟩

/-- The remark that the launch is over. -/
def launchOver (ending : Ending) : Log.Record :=
  ⟨.debug, "monkey", "launcher finished", [("outcome", ending.name)]⟩

/-- The appearance of the report of a failed launch. -/
def appearance : Appearance := ⟨false, .unicode⟩

/-- The report of a launch, if it failed. -/
def report : Except LaunchFailure Ending → List UInt8
  | .ok _ => []
  | .error failure => Report.bytes appearance failure.diagnostic

/-- The exit status of a launch. -/
def status : Except LaunchFailure Ending → Nat
  | .ok _ => 0
  | .error _ => 1

/-- The exit status of a program that was stopped. -/
def stoppedStatus : Nat := 101

/-- How the program ends after logging `records`, if it launches. -/
def exit (surroundings : Surroundings) (records : List Log.Record) : Exit :=
  let launched := surroundings.launch
  { status := status launched.result
    output := Event.delivered launched.events
    errors := surroundings.display.log records ++ report launched.result
    taken := Event.taken launched.events
    left := launched.host.input }

/-- How the program ends when a tear stops it. Its error stream then also names the place in the
program, which is left out here. -/
def stopped (surroundings : Surroundings) (tear : Log.Tear) : Exit where
  status := stoppedStatus
  output := []
  errors := Utf8.encode (tear.text ++ "\n")
  taken := []
  left := surroundings.input

/-- How the program ends: it launches and logs `records`, unless its filter stops it first. -/
def conclude (surroundings : Surroundings) (records : List Log.Record) : Exit :=
  match Log.Filter.tear? surroundings.filterVariable with
  | none => surroundings.exit records
  | some tear => surroundings.stopped tear

/-- The records of the launch. -/
def launchRecords (surroundings : Surroundings) : List Log.Record :=
  surroundings.launch.journal.map JournalLine.record

/-- The records of the launch between those of the program around it. -/
def programRecords (surroundings : Surroundings) : List Log.Record :=
  let found := match surroundings.identity with
    | .ok identity => [identityFound identity]
    | .error _ => []
  let ended := match surroundings.launch.result with
    | .ok ending => [launchOver ending]
    | .error _ => []
  found ++ surroundings.launchRecords ++ ended

/-- Runs the launch alone, for somebody who was found elsewhere. -/
def runLaunch (surroundings : Surroundings) : Exit :=
  surroundings.conclude surroundings.launchRecords

/-- Runs the whole program. -/
def run (surroundings : Surroundings) : Exit :=
  surroundings.conclude surroundings.programRecords

theorem run_of_tear {surroundings : Surroundings} {tear : Log.Tear}
    (torn : Log.Filter.tear? surroundings.filterVariable = some tear) :
    surroundings.run = surroundings.stopped tear := by
  rw [run, conclude, torn]

theorem run_of_launch {surroundings : Surroundings}
    (whole : Log.Filter.tear? surroundings.filterVariable = none) :
    surroundings.run = surroundings.exit surroundings.programRecords := by
  rw [run, conclude, whole]

theorem status_ne_stoppedStatus (result : Except LaunchFailure Ending) :
    status result ≠ stoppedStatus := by
  intro h
  cases result <;> cases h

end Surroundings

end InterpreterHost
