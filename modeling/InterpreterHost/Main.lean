import InterpreterHost.Process

/-! The command line: gathers what the program finds when it starts and lets `Surroundings.run` say
what becomes of it. Input that has not arrived yet is a read that fails. A run that meets it has
said the start of what the program says (`Surroundings.run_foretells`), which is shown before more
input is asked for. -/

namespace InterpreterHost.CommandLine

/-- The failure that a failed call reports. Its number may come negated, as a 32-bit word. -/
def failureOf (error : IO.Error) : Failure :=
  let code := match error with
    | .alreadyExists _ code _ | .otherError code _ | .resourceBusy code _
    | .resourceVanished code _ | .unsupportedOperation code _ | .hardwareFault code _
    | .unsatisfiedConstraints code _ | .illegalOperation code _ | .protocolError code _
    | .timeExpired code _ | .interrupted _ code _ | .noFileOrDirectory _ code _
    | .invalidArgument _ code _ | .permissionDenied _ code _ | .resourceExhausted _ code _
    | .inappropriateType _ code _ | .noSuchThing _ code _ => code.toNat
    | .unexpectedEof | .userError _ => 0
  match SystemFailure.ofNumber? (if code < 0x80000000 then code else 0x100000000 - code) with
  | some failure => .system failure
  | none => .worded .other (toString error) []

/-- Makes a call and keeps its failure. -/
def attempt {α : Type} (call : IO α) : IO (Except Failure α) := do
  match ← call.toBaseIO with
  | .ok value => return .ok value
  | .error error => return .error (failureOf error)

/-- The account that a process acts for, by number, out of the description of its status. -/
def actsFor? (status : String) : Option (List Char) :=
  (fields '\n' status.toList).findSome? fun line =>
    match fields '\t' line with
    | title :: _ :: number :: _ => if title = "Uid:".toList then some number else none
    | _ => none

/-- The name of an account, given by number, in a database with an account a line. -/
def accountName? (database : String) (number : List Char) : Option String :=
  (fields '\n' database.toList).findSome? fun line =>
    match fields ':' line with
    | name :: _ :: other :: _ => if other = number then some (String.ofList name) else none
    | _ => none

/-- Whoever runs the program, by the operating system's database of accounts. -/
def findIdentity : IO (Except LookupFailure Identity) := do
  let status ← attempt (IO.FS.readFile "/proc/self/status")
  let database ← attempt (IO.FS.readFile "/etc/passwd")
  match status, database with
  | .ok status, .ok database =>
    match (actsFor? status).bind (accountName? database) with
    | some name => return .ok ⟨name⟩
    | none => return .error ⟨.plain .notFound⟩
  | .error failure, _ => return .error ⟨failure⟩
  | _, .error failure => return .error ⟨failure⟩

/-- The contents of the script at `path`. -/
def readScript (path : String) : IO (Except Failure (List UInt8)) := do
  match ← attempt (IO.FS.readBinFile path) with
  | .ok contents => return .ok contents.data.toList
  | .error (.system .isADirectory) => return .error FileTree.directoryFailure
  | .error failure => return .error failure

/-- The value of an environment variable. -/
def readVariable (name : String) : IO (Option (List UInt8)) := do
  return (← IO.getEnv name).map Utf8.encode

/-- What the program finds when it starts, but for its input. -/
def surroundings (args : List String) : IO Surroundings := do
  let script ← match args with
    | [path] => readScript path
    | _ => pure (.error (.plain .notFound))
  return {
    filterVariable := ← readVariable "RUST_LOG"
    plainVariable := ← readVariable "NO_COLOR"
    args := args.map Utf8.encode
    scripts := fun _ => script
    identity := ← findIdentity
    input := .exhausted
    output := {} }

/-- Writes all of `bytes` and flushes, if the stream takes them. How a program ends does not depend
on that. -/
def send (stream : IO.FS.Stream) (bytes : List UInt8) : IO Unit := do
  match ← attempt (stream.write ⟨bytes.toArray⟩ *> stream.flush) with
  | .ok () => return
  | .error _ => return

/-- The read that a run meets where the input has not arrived. -/
def pending : Input := .failing (.plain .wouldBlock) .exhausted

/-- Reads on to the end of a line, a byte at a time, after the bytes in `taken`. -/
partial def takeLine (stream : IO.FS.Stream) (taken : ByteArray) : IO (List UInt8) := do
  let bytes ← stream.read 1
  let taken := taken ++ bytes
  if bytes.isEmpty || bytes.data.contains newline then return taken.data.toList
  else takeLine stream taken

/-- Runs the program on the input of which `arrived` has been read and after which `shown` bytes of
its output have been written, and reads on as long as a run meets the end of what has arrived. -/
partial def serve (found : Surroundings) (arrived : List UInt8) (shown : Nat) : IO Nat := do
  let waiting := { found with input := .push arrived pending }.run
  let output ← IO.getStdout
  if waiting.left = .exhausted then
    send output (waiting.output.drop shown)
    match ← takeLine (← IO.getStdin) .empty with
    | [] => finish { found with input := .ofBytes arrived }.run waiting.output.length
    | line => serve found (arrived ++ line) waiting.output.length
  else finish waiting shown
where
  /-- Writes what is left of the output, and the error stream, and gives the exit status. -/
  finish (exit : Exit) (shown : Nat) : IO Nat := do
    send (← IO.getStdout) (exit.output.drop shown)
    send (← IO.getStderr) exit.errors
    return exit.status

end InterpreterHost.CommandLine

/-- The entry point of the program. -/
def main (args : List String) : IO UInt32 := do
  let found ← InterpreterHost.CommandLine.surroundings args
  return (← InterpreterHost.CommandLine.serve found [] 0).toUInt32
