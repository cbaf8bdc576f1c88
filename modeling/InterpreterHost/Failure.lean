/-! Failures of calls on streams and files and of lookups. A failure is kept as its cause;
`Failure.text` is its wording and `Failure.causes` are the texts of the failures below it. -/

namespace InterpreterHost

/-- The broad reason for a failure. -/
inductive FailureKind where
  | notFound
  | permissionDenied
  | connectionRefused
  | connectionReset
  | notConnected
  | addressInUse
  | brokenPipe
  | alreadyExists
  | wouldBlock
  | notADirectory
  | isADirectory
  | invalidInput
  | invalidData
  | timedOut
  | writeZero
  | storageFull
  | interrupted
  | unsupported
  | unexpectedEnd
  | outOfMemory
  | linkLoop
  | invalidName
  | inputOutput
  | uncategorized
  | other
deriving DecidableEq

/-- The wording of a failure of which only the kind is known. -/
def FailureKind.description : FailureKind → String
  | .notFound => "entity not found"
  | .permissionDenied => "permission denied"
  | .connectionRefused => "connection refused"
  | .connectionReset => "connection reset"
  | .notConnected => "not connected"
  | .addressInUse => "address in use"
  | .brokenPipe => "broken pipe"
  | .alreadyExists => "entity already exists"
  | .wouldBlock => "operation would block"
  | .notADirectory => "not a directory"
  | .isADirectory => "is a directory"
  | .invalidInput => "invalid input parameter"
  | .invalidData => "invalid data"
  | .timedOut => "timed out"
  | .writeZero => "write zero"
  | .storageFull => "no storage space"
  | .interrupted => "operation interrupted"
  | .unsupported => "unsupported"
  | .unexpectedEnd => "unexpected end of file"
  | .outOfMemory => "out of memory"
  | .linkLoop => "filesystem loop or indirection limit (e.g. symlink loop)"
  | .invalidName => "invalid filename"
  | .inputOutput => "input/output error"
  | .uncategorized => "uncategorized error"
  | .other => "other error"

/-- A failure that the operating system reports by number. -/
inductive SystemFailure where
  | notPermitted
  | noEntry
  | inputOutput
  | badDescriptor
  | tryAgain
  | noMemory
  | accessDenied
  | notADirectory
  | isADirectory
  | invalidArgument
  | noSpace
  | brokenPipe
  | nameTooLong
  | tooManyLinks
deriving DecidableEq

namespace SystemFailure

/-- The operating system's number for a failure. -/
def number : SystemFailure → Nat
  | notPermitted => 1
  | noEntry => 2
  | inputOutput => 5
  | badDescriptor => 9
  | tryAgain => 11
  | noMemory => 12
  | accessDenied => 13
  | notADirectory => 20
  | isADirectory => 21
  | invalidArgument => 22
  | noSpace => 28
  | brokenPipe => 32
  | nameTooLong => 36
  | tooManyLinks => 40

/-- The operating system's words for a failure. -/
def words : SystemFailure → String
  | notPermitted => "Operation not permitted"
  | noEntry => "No such file or directory"
  | inputOutput => "Input/output error"
  | badDescriptor => "Bad file descriptor"
  | tryAgain => "Resource temporarily unavailable"
  | noMemory => "Cannot allocate memory"
  | accessDenied => "Permission denied"
  | notADirectory => "Not a directory"
  | isADirectory => "Is a directory"
  | invalidArgument => "Invalid argument"
  | noSpace => "No space left on device"
  | brokenPipe => "Broken pipe"
  | nameTooLong => "File name too long"
  | tooManyLinks => "Too many levels of symbolic links"

/-- The kind under which a numbered failure counts. -/
def kind : SystemFailure → FailureKind
  | notPermitted => .permissionDenied
  | noEntry => .notFound
  | inputOutput => .inputOutput
  | badDescriptor => .uncategorized
  | tryAgain => .wouldBlock
  | noMemory => .outOfMemory
  | accessDenied => .permissionDenied
  | notADirectory => .notADirectory
  | isADirectory => .isADirectory
  | invalidArgument => .invalidInput
  | noSpace => .storageFull
  | brokenPipe => .brokenPipe
  | nameTooLong => .invalidName
  | tooManyLinks => .linkLoop

/-- Every numbered failure, in the order of the numbers. -/
def all : List SystemFailure :=
  [notPermitted, noEntry, inputOutput, badDescriptor, tryAgain, noMemory, accessDenied,
    notADirectory, isADirectory, invalidArgument, noSpace, brokenPipe, nameTooLong, tooManyLinks]

/-- The failure with a given number. -/
def ofNumber? (n : Nat) : Option SystemFailure :=
  all.find? (·.number == n)

end SystemFailure

/-- Why a call failed. -/
inductive Failure where
  /-- Only the kind is known. -/
  | plain (kind : FailureKind)
  /-- A failure in words of its own, above the failures with the texts `sources`, nearest first. -/
  | worded (kind : FailureKind) (words : String) (sources : List String)
  /-- The operating system reported it. -/
  | system (failure : SystemFailure)
deriving DecidableEq

namespace Failure

/-- The kind of a failure. -/
def kind : Failure → FailureKind
  | plain kind => kind
  | worded kind _ _ => kind
  | system failure => failure.kind

/-- The text of a failure; one that has a number names it. -/
def text : Failure → String
  | plain kind => kind.description
  | worded _ words _ => words
  | system failure => s!"{failure.words} (os error {failure.number})"

/-- The texts of the failures below this one, nearest first. -/
def causes : Failure → List String
  | worded _ _ sources => sources
  | _ => []

/-- A write call that accepted nothing of what was still to be written. -/
def nothingAccepted : Failure := worded .writeZero "failed to write whole buffer" []

end Failure

end InterpreterHost
