import InterpreterHost.Failure

/-! Inputs and outputs, and the calls on them. Both are data: what is still to come from an input,
and how far an output has come with what lies in its way. Every call says what it did, so whatever
uses a pair of streams leaves a trace of events. -/

namespace InterpreterHost

/-! ### Events

What calls on a pair of streams do, one event a call, in order. Traces are raw; `Event.join`
merges neighbouring reads and neighbouring writes, since how many calls carried a run of bytes is
of no interest to either end. -/

/-- What one read call did. -/
inductive InputEvent where
  | took (bytes : List UInt8)
  | ended
  | failed (kind : FailureKind)
deriving DecidableEq

/-- What one write or flush call did. -/
inductive OutputEvent where
  | accepted (bytes : List UInt8)
  /-- The output accepted nothing of what was offered. -/
  | refused
  | failed (kind : FailureKind)
  | flushed
  | flushFailed (kind : FailureKind)
deriving DecidableEq

/-- What one call on a pair of streams did. -/
inductive Event where
  | input (event : InputEvent)
  | output (event : OutputEvent)
deriving DecidableEq

/-- The bytes that a read call took. -/
def InputEvent.bytes : InputEvent → List UInt8
  | took bytes => bytes
  | _ => []

/-- The bytes that a write call delivered. -/
def OutputEvent.bytes : OutputEvent → List UInt8
  | accepted bytes => bytes
  | _ => []

namespace Event

/-- The output's side of an event. -/
def output? : Event → Option OutputEvent
  | output event => some event
  | input _ => none

/-- The input's side of an event. -/
def input? : Event → Option InputEvent
  | input event => some event
  | output _ => none

/-- The bytes read over a trace. -/
def taken (trace : List Event) : List UInt8 :=
  (trace.filterMap input?).flatMap InputEvent.bytes

/-- The bytes delivered over a trace. -/
def delivered (trace : List Event) : List UInt8 :=
  (trace.filterMap output?).flatMap OutputEvent.bytes

/-- An event in front of a joined trace. -/
def joinCons : Event → List Event → List Event
  | input (.took xs), input (.took ys) :: rest => input (.took (xs ++ ys)) :: rest
  | output (.accepted xs), output (.accepted ys) :: rest => output (.accepted (xs ++ ys)) :: rest
  | event, trace => event :: trace

/-- A trace with neighbouring reads added up and neighbouring writes joined. -/
def join (trace : List Event) : List Event :=
  trace.foldr joinCons []

@[simp] theorem taken_append (xs ys : List Event) : taken (xs ++ ys) = taken xs ++ taken ys := by
  simp [taken]

@[simp] theorem delivered_append (xs ys : List Event) :
    delivered (xs ++ ys) = delivered xs ++ delivered ys := by
  simp [delivered]

theorem delivered_joinCons (event : Event) (trace : List Event) :
    delivered (joinCons event trace) = delivered (event :: trace) := by
  unfold joinCons
  split <;> simp [delivered, output?, List.filterMap_cons, OutputEvent.bytes]

theorem taken_joinCons (event : Event) (trace : List Event) :
    taken (joinCons event trace) = taken (event :: trace) := by
  unfold joinCons
  split <;> simp [taken, input?, List.filterMap_cons, InputEvent.bytes]

theorem delivered_join (trace : List Event) : delivered (join trace) = delivered trace := by
  induction trace with
  | nil => rfl
  | cons event trace ih =>
    rw [join, List.foldr_cons, delivered_joinCons, ← List.singleton_append, delivered_append,
      ← join, ih, ← delivered_append, List.singleton_append]

theorem taken_join (trace : List Event) : taken (join trace) = taken trace := by
  induction trace with
  | nil => rfl
  | cons event trace ih =>
    rw [join, List.foldr_cons, taken_joinCons, ← List.singleton_append, taken_append,
      ← join, ih, ← taken_append, List.singleton_append]

end Event

/-! ### Inputs

What is still to come from an input: bytes in chunks, reports of the end and failing reads, in any
order, and then the end for ever. A read looks no further than one chunk.

`Input.left_readLine` says that taking a line loses no byte, and `Input.size_read` that a read which
does not report the end shortens the input; the loops over an input end by them. -/

/-- What is still to come from a source of bytes. -/
inductive Input where
  /-- Every further read reports the end. -/
  | exhausted
  /-- A chunk, never empty, of which a read may take any part. -/
  | chunk (first : UInt8) (others : List UInt8) (later : Input)
  | ended (later : Input)
  | failing (failure : Failure) (later : Input)
deriving DecidableEq

/-- The byte that ends a line. -/
def newline : UInt8 := 10

/-- A line, its newline included, off the front of `bytes`, with what follows it; nothing if no
newline occurs. -/
def cutLine? : List UInt8 → Option (List UInt8 × List UInt8)
  | [] => none
  | b :: bs => if b = newline then some ([b], bs) else (cutLine? bs).map fun (l, r) => (b :: l, r)

theorem append_of_cutLine? {bytes line rest : List UInt8}
    (h : cutLine? bytes = some (line, rest)) : line ++ rest = bytes := by
  induction bytes generalizing line with
  | nil => simp [cutLine?] at h
  | cons b bs ih =>
    by_cases hb : b = newline
    · simp only [cutLine?, if_pos hb, Option.some.injEq, Prod.mk.injEq] at h
      obtain ⟨rfl, rfl⟩ := h
      rfl
    · simp only [cutLine?, if_neg hb, Option.map_eq_some_iff, Prod.mk.injEq, Prod.exists] at h
      obtain ⟨l, r, hlr, rfl, rfl⟩ := h
      simp [ih hlr]

namespace Input

/-- The bytes `bytes` as one chunk, or no chunk at all, before `later`. -/
def push (bytes : List UInt8) (later : Input) : Input :=
  match bytes with
  | [] => later
  | b :: bs => .chunk b bs later

/-- An input that yields `bytes` and then ends. -/
def ofBytes (bytes : List UInt8) : Input :=
  push bytes .exhausted

/-- How many bytes are still to come. -/
def left : Input → Nat
  | exhausted => 0
  | chunk _ others later => others.length + 1 + later.left
  | ended later => later.left
  | failing _ later => later.left

/-- How many bytes, end reports and failures are still to come. -/
def size : Input → Nat
  | exhausted => 0
  | chunk _ others later => others.length + 1 + later.size
  | ended later => later.size + 1
  | failing _ later => later.size + 1

@[simp] theorem left_push (bytes : List UInt8) (later : Input) :
    (push bytes later).left = bytes.length + later.left := by
  cases bytes <;> simp [push, left]

@[simp] theorem size_push (bytes : List UInt8) (later : Input) :
    (push bytes later).size = bytes.length + later.size := by
  cases bytes <;> simp [push, size]

/-- What a read, or a run of reads, leaves behind: the bytes it was made for, the input after it
and the events of its calls. -/
structure Taken where
  result : Except Failure (List UInt8)
  input : Input
  events : List InputEvent

/-- The same reads with `event` before them. -/
def Taken.after (taken : Taken) (event : InputEvent) : Taken :=
  { taken with events := event :: taken.events }

/-- The same reads with a read of `bytes` before them, which count toward the result. -/
def Taken.afterBytes (taken : Taken) (bytes : List UInt8) : Taken :=
  { taken.after (.took bytes) with result := taken.result.map (bytes ++ ·) }

/-- One read call for at most `limit` bytes; no bytes mean the end. -/
def read (limit : Nat) : Input → Taken
  | exhausted => ⟨.ok [], exhausted, [.ended]⟩
  | ended later => ⟨.ok [], later, [.ended]⟩
  | failing failure later => ⟨.error failure, later, [.failed failure.kind]⟩
  | chunk first others later =>
    let bytes := (first :: others).take limit
    ⟨.ok bytes, push ((first :: others).drop limit) later, [.took bytes]⟩

/-- Takes the bytes up to and including the next newline, or up to the end, chunk by chunk. An
interrupted read is made again; when a read fails otherwise, the bytes already taken are lost. -/
def readLine : Input → Taken
  | exhausted => ⟨.ok [], exhausted, [.ended]⟩
  | ended later => ⟨.ok [], later, [.ended]⟩
  | failing failure later =>
    if failure.kind = .interrupted then later.readLine.after (.failed .interrupted)
    else ⟨.error failure, later, [.failed failure.kind]⟩
  | chunk first others later =>
    match cutLine? (first :: others) with
    | some (line, rest) => ⟨.ok line, push rest later, [.took line]⟩
    | none => later.readLine.afterBytes (first :: others)

/-- Every read that does not report the end shortens the input. -/
theorem size_read {limit : Nat} (hl : 0 < limit) {input : Input}
    (h : (input.read limit).result ≠ .ok []) : (input.read limit).input.size < input.size := by
  cases input with
  | exhausted => exact absurd rfl h
  | chunk first others later => simp [read, size]; omega
  | ended later => simp [read, size]
  | failing failure later => simp [read, size]

/-- The bytes of a line that was read are those that are no longer to come. -/
theorem left_readLine {input : Input} {line : List UInt8} (h : input.readLine.result = .ok line) :
    input.readLine.input.left + line.length = input.left := by
  induction input generalizing line with
  | exhausted =>
    simp only [readLine, Except.ok.injEq] at h
    subst h; rfl
  | ended later _ =>
    simp only [readLine, Except.ok.injEq] at h
    subst h; rfl
  | failing failure later ih =>
    by_cases hk : failure.kind = .interrupted
    · simp only [readLine, if_pos hk, Taken.after] at h ⊢
      exact ih h
    · simp [readLine, if_neg hk] at h
  | chunk first others later ih =>
    cases hc : cutLine? (first :: others) with
    | some p =>
      obtain ⟨l, r⟩ := p
      simp only [readLine, hc, Except.ok.injEq] at h ⊢
      subst h
      have := congrArg List.length (append_of_cutLine? hc)
      simp at this
      simp [left]; omega
    | none =>
      simp only [readLine, hc, Taken.afterBytes, Taken.after] at h ⊢
      cases hr : later.readLine.result with
      | error e => simp [hr, Except.map] at h
      | ok l =>
        simp only [hr, Except.map, Except.ok.injEq] at h
        subst h
        have := ih hr
        simp [left]; omega

end Input

/-! ### Outputs

An output may accept less than it is offered. Faults lie at byte offsets: a write call that starts
there meets the first one that is not used up, and no call runs past one. Flushes fail by their
number. `Output.writeAll` is the one way in which bytes are delivered, and
`Output.interruptions_of_meet?` is why it ends: every interruption uses one up. -/

/-- What happens to a write call that meets a fault. -/
inductive Obstacle where
  /-- The call is interrupted and may be made again. -/
  | interruption
  /-- The call accepts nothing. -/
  | refusal
  /-- The call fails for good. -/
  | failure (failure : Failure) (lasting : failure.kind ≠ .interrupted)
deriving DecidableEq

/-- An obstacle at a byte offset, for a number of write calls or for ever. Only interruptions have
to pass. -/
structure WriteFault where
  offset : Nat
  obstacle : Obstacle
  times : Option Nat
  passing : obstacle = .interruption → times ≠ none
deriving DecidableEq

namespace WriteFault

/-- Some call will still meet the fault. -/
def isReady (fault : WriteFault) : Bool :=
  fault.times != some 0

/-- The fault after one more call met it. -/
def spend (fault : WriteFault) : WriteFault :=
  { fault with
    times := fault.times.map (· - 1)
    passing := fun h => by simpa using fault.passing h }

/-- How many interruptions are still to come from the fault. -/
def interruptions (fault : WriteFault) : Nat :=
  if fault.obstacle = .interruption then fault.times.getD 0 else 0

/-- How many interruptions are still to come from all of `faults`. -/
def allInterruptions : List WriteFault → Nat
  | [] => 0
  | fault :: faults => fault.interruptions + allInterruptions faults

/-- A failure at `offset`; one of the interrupted kind is an interruption, which passes after its
first time if no number is given. -/
def ofFailure (offset : Nat) (failure : Failure) (times : Option Nat) : WriteFault :=
  if h : failure.kind = .interrupted then ⟨offset, .interruption, some (times.getD 1), by simp⟩
  else ⟨offset, .failure failure h, times, by simp⟩

/-- Calls at `offset` accept nothing. -/
def refusing (offset : Nat) (times : Option Nat) : WriteFault :=
  ⟨offset, .refusal, times, by simp⟩

/-- The obstacle that a call at `offset` meets, and the faults after it. -/
def meet? (offset : Nat) : List WriteFault → Option (Obstacle × List WriteFault)
  | [] => none
  | fault :: faults =>
    if fault.offset = offset ∧ fault.isReady then some (fault.obstacle, fault.spend :: faults)
    else (meet? offset faults).map fun (obstacle, rest) => (obstacle, fault :: rest)

/-- How many of `wanted` bytes fit between `offset` and the next later fault. -/
def room (offset : Nat) (faults : List WriteFault) (wanted : Nat) : Nat :=
  faults.foldr
    (fun fault n => if fault.isReady ∧ offset < fault.offset then min (fault.offset - offset) n
      else n)
    wanted

end WriteFault

/-- The state of a sink of bytes. -/
structure Output where
  /-- How many bytes were accepted so far. -/
  accepted : Nat := 0
  /-- The most bytes that one call accepts. -/
  limit : Option Nat := none
  faults : List WriteFault := []
  /-- How many flush calls were made so far. -/
  flushes : Nat := 0
  /-- The flush calls that fail, by number from 1. -/
  flushFaults : List (Nat × Failure) := []
deriving DecidableEq

namespace Output

/-- How many interruptions are still to come. -/
def interruptions (output : Output) : Nat :=
  WriteFault.allInterruptions output.faults

/-- The obstacle that the next write call meets, and the output after it. -/
def meet? (output : Output) : Option (Obstacle × Output) :=
  (WriteFault.meet? output.accepted output.faults).map fun (obstacle, faults) =>
    (obstacle, { output with faults := faults })

/-- How many of `wanted` bytes the next write call accepts if it meets no obstacle. -/
def room (output : Output) (wanted : Nat) : Nat :=
  WriteFault.room output.accepted output.faults (output.limit.elim wanted (min wanted))

/-- The output with `count` more bytes accepted. -/
def accept (output : Output) (count : Nat) : Output :=
  { output with accepted := output.accepted + count }

end Output

theorem WriteFault.interruptions_spend {fault : WriteFault} (h : fault.obstacle = .interruption)
    (hr : fault.isReady) : fault.spend.interruptions + 1 = fault.interruptions := by
  simp only [interruptions, spend, h, if_true]
  cases ht : fault.times with
  | none => exact absurd ht (fault.passing h)
  | some n =>
    have : n ≠ 0 := by rintro rfl; simp [isReady, ht] at hr
    simp; omega

theorem WriteFault.interruptions_of_meet? {offset : Nat} {faults rest : List WriteFault}
    (h : meet? offset faults = some (.interruption, rest)) :
    allInterruptions rest + 1 = allInterruptions faults := by
  induction faults generalizing rest with
  | nil => simp [meet?] at h
  | cons fault faults ih =>
    by_cases hf : fault.offset = offset ∧ fault.isReady
    · simp only [meet?, if_pos hf, Option.some.injEq, Prod.mk.injEq] at h
      obtain ⟨ho, rfl⟩ := h
      have := interruptions_spend ho hf.2
      simp only [allInterruptions]
      omega
    · simp only [meet?, if_neg hf, Option.map_eq_some_iff, Prod.mk.injEq, Prod.exists] at h
      obtain ⟨_, rest', hm, rfl, rfl⟩ := h
      have := ih hm
      simp only [allInterruptions]
      omega

namespace Output

/-- An interruption that is met is one fewer to come. -/
theorem interruptions_of_meet? {output after : Output}
    (h : output.meet? = some (.interruption, after)) :
    after.interruptions + 1 = output.interruptions := by
  simp only [meet?, Option.map_eq_some_iff, Prod.mk.injEq, Prod.exists] at h
  obtain ⟨_, faults, hm, rfl, rfl⟩ := h
  exact WriteFault.interruptions_of_meet? hm

/-- What a run of write and flush calls leaves behind. -/
structure Sent where
  result : Except Failure Unit
  output : Output
  events : List OutputEvent

/-- The same calls with `event` before them. -/
def Sent.after (sent : Sent) (event : OutputEvent) : Sent :=
  { sent with events := event :: sent.events }

/-- These calls, and if none of them failed, those of `next`. -/
def Sent.andThen (sent : Sent) (next : Output → Sent) : Sent :=
  match sent.result with
  | .error failure => { sent with result := .error failure }
  | .ok () =>
    let later := next sent.output
    { later with events := sent.events ++ later.events }

/-- Writes until everything is accepted. An interrupted call is made again, a call that accepts
nothing fails, and any other failure ends the writing. -/
def writeAll (output : Output) (bytes : List UInt8) : Sent :=
  match bytes with
  | [] => ⟨.ok (), output, []⟩
  | b :: bs =>
    match _met : output.meet? with
    | some (.interruption, later) => (later.writeAll (b :: bs)).after (.failed .interrupted)
    | some (.refusal, later) => ⟨.error .nothingAccepted, later, [.refused]⟩
    | some (.failure failure _, later) => ⟨.error failure, later, [.failed failure.kind]⟩
    | none =>
      match output.room (bs.length + 1) with
      | 0 => ⟨.error .nothingAccepted, output, [.refused]⟩
      | n + 1 =>
        ((output.accept (n + 1)).writeAll (bs.drop n)).after (.accepted (b :: bs.take n))
termination_by bytes.length + output.interruptions
decreasing_by
  · have := interruptions_of_meet? _met
    omega
  · simp only [accept, interruptions, List.length_cons, List.length_drop]
    omega

/-- One flush call, never made again. -/
def flush (output : Output) : Sent :=
  let later := { output with flushes := output.flushes + 1 }
  match output.flushFaults.find? (·.1 == later.flushes) with
  | some (_, failure) => ⟨.error failure, later, [.flushFailed failure.kind]⟩
  | none => ⟨.ok (), later, [.flushed]⟩

/-- Writes all of `bytes` and then flushes. -/
def send (output : Output) (bytes : List UInt8) : Sent :=
  (output.writeAll bytes).andThen flush

/-- Writes each of `pieces` in turn and then flushes. -/
def sendPieces (output : Output) : List (List UInt8) → Sent
  | [] => output.flush
  | piece :: pieces => (output.writeAll piece).andThen fun later => later.sendPieces pieces

end Output

end InterpreterHost
