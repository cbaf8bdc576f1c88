import InterpreterHost.Log
import InterpreterHost.Stream

/-! Interpreters: a pair of operations over a pair of streams, on a state that the interpreter keeps
from one to the next. The repeater is one of them, others run a fixed course. -/

namespace InterpreterHost

/-- What one operation on a pair of streams leaves behind: its result, the states after it, the
events of its calls in order, and what it logged. -/
structure Passage (σ : Type) where
  result : Except Failure Unit
  state : σ
  input : Input
  output : Output
  events : List Event
  remarks : List Log.Record

/-- The same operation with `events` before its own. -/
def Passage.after {σ : Type} (passage : Passage σ) (events : List Event) : Passage σ :=
  { passage with events := events ++ passage.events }

/-- The events of read calls as those of a pair of streams. -/
def Input.Taken.trace (taken : Input.Taken) : List Event :=
  taken.events.map .input

/-- The events of write and flush calls as those of a pair of streams. -/
def Output.Sent.trace (sent : Output.Sent) : List Event :=
  sent.events.map .output

/-- An interpreter with state in `σ`. -/
structure Interpreter (σ : Type) where
  /-- Converses over an input and an output. -/
  converse : σ → Input → Output → Passage σ
  /-- Executes a script, given as its source. -/
  execute : σ → Input → Output → Passage σ

/-! ### The repeater

A stand-in for an interpreter. In conversation it prompts, takes a line and gives it back; a script
it copies. Nothing is read while anything written is still unflushed. -/

namespace Repeater

/-- What invites the next line. -/
def prompt : String := ">> "

/-- A line as it is given back: with a newline at its end. -/
def complete (line : List UInt8) : List UInt8 :=
  if line.getLast? = some newline then line else line ++ [newline]

/-- The most bytes that are copied at a time. -/
def copyLimit : Nat := 8192

/-- The repeater's own part of the program. -/
def target : String := "monkey_core::echo"

/-- The remark that a conversation of `lines` lines is over. -/
def conversationOver (lines : Nat) : Log.Record :=
  ⟨.trace, target, "interactive session reached end of input", [("lines", toString lines)]⟩

/-- The remark that a script of `bytes` bytes was copied. -/
def scriptOver (bytes : Nat) : Log.Record :=
  ⟨.trace, target, "script finished", [("bytes", toString bytes)]⟩

/-- The conversation from `input` on, after `lines` lines. The end of the input is answered by an
empty line. -/
def converse (lines : Nat) (input : Input) (output : Output) : Passage Unit :=
  let asked := output.send (Utf8.encode prompt)
  match asked.result with
  | .error failure => ⟨.error failure, (), input, asked.output, asked.trace, []⟩
  | .ok () =>
    let taken := input.readLine
    match _read : taken.result with
    | .error failure =>
      ⟨.error failure, (), taken.input, asked.output, asked.trace ++ taken.trace, []⟩
    | .ok [] =>
      let closed := asked.output.send [newline]
      ⟨closed.result, (), taken.input, closed.output,
        asked.trace ++ taken.trace ++ closed.trace,
        if closed.result.isOk then [conversationOver lines] else []⟩
    | .ok (b :: bs) =>
      let repeated := asked.output.send (complete (b :: bs))
      match repeated.result with
      | .error failure =>
        ⟨.error failure, (), taken.input, repeated.output,
          asked.trace ++ taken.trace ++ repeated.trace, []⟩
      | .ok () =>
        (converse (lines + 1) taken.input repeated.output).after
          (asked.trace ++ taken.trace ++ repeated.trace)
termination_by input.left
decreasing_by
  have := Input.left_readLine _read
  simp only [List.length_cons] at this
  omega

/-- Copies `source` from here on, after `copied` bytes, and flushes once at its end. An
interrupted read is made again. -/
def copy (copied : Nat) (source : Input) (output : Output) : Passage Unit :=
  let taken := source.read copyLimit
  match _read : taken.result with
  | .error failure =>
    if failure.kind = .interrupted then
      (copy copied taken.input output).after taken.trace
    else ⟨.error failure, (), taken.input, output, taken.trace, []⟩
  | .ok [] =>
    let flushed := output.flush
    ⟨flushed.result, (), taken.input, flushed.output, taken.trace ++ flushed.trace,
      if flushed.result.isOk then [scriptOver copied] else []⟩
  | .ok (b :: bs) =>
    let written := output.writeAll (b :: bs)
    match written.result with
    | .error failure =>
      ⟨.error failure, (), taken.input, written.output, taken.trace ++ written.trace, []⟩
    | .ok () =>
      (copy (copied + (b :: bs).length) taken.input written.output).after
        (taken.trace ++ written.trace)
termination_by source.size
decreasing_by
  all_goals exact Input.size_read (by decide) fun h => nomatch _read.symm.trans h

/-- The repeater. It keeps nothing from one operation to the next. -/
def interpreter : Interpreter Unit where
  converse _ input output := converse 0 input output
  execute _ source output := copy 0 source output

end Repeater

/-! ### Fixed courses

Interpreters of which each operation takes a fixed number of bytes, writes fixed bytes and ends in a
fixed way. They make no read again, whatever the reason for which it failed, and do not flush. -/

/-- The course of one operation. -/
structure Course where
  /-- How many bytes are taken; without a number, all up to the end. -/
  take : Option Nat := none
  /-- The bytes written. -/
  write : List UInt8 := []
  /-- The failure in which the operation ends if nothing failed before. -/
  failure : Option Failure := none

namespace Course

/-- Reads until as many bytes were taken as are wanted, or to the end. -/
def takeFrom (wanted : Option Nat) (input : Input) : Input.Taken :=
  match wanted, input with
  | some 0, input => ⟨.ok [], input, []⟩
  | _, .exhausted => ⟨.ok [], .exhausted, [.ended]⟩
  | _, .ended later => ⟨.ok [], later, [.ended]⟩
  | _, .failing failure later => ⟨.error failure, later, [.failed failure.kind]⟩
  | none, .chunk first others later => (takeFrom none later).afterBytes (first :: others)
  | some (n + 1), .chunk first others later =>
    if n ≤ others.length then
      ⟨.ok (first :: others.take n), .push (others.drop n) later, [.took (first :: others.take n)]⟩
    else (takeFrom (some (n - others.length)) later).afterBytes (first :: others)

/-- Runs the course over a pair of streams. -/
def run (course : Course) (input : Input) (output : Output) : Passage Unit :=
  let taken := takeFrom course.take input
  match taken.result with
  | .error failure => ⟨.error failure, (), taken.input, output, taken.trace, []⟩
  | .ok _ =>
    let written := output.writeAll course.write
    let result := match written.result, course.failure with
      | .ok (), some failure => .error failure
      | result, _ => result
    ⟨result, (), taken.input, written.output, taken.trace ++ written.trace, []⟩

end Course

/-- The interpreter whose two operations run the given courses. -/
def Interpreter.ofCourses (conversation script : Course) : Interpreter Unit where
  converse _ input output := conversation.run input output
  execute _ source output := script.run source output

end InterpreterHost
