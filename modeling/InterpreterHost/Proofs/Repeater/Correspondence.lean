import InterpreterHost.Launch
import InterpreterHost.Proofs.Stream.Pieces

/-! Two runs of the repeater over streams that correspond. A `Correspondence` says when two inputs
and two outputs do, and which events count. If single writes, flushes and lines keep to it
(`Lawful`), so do whole conversations and greetings; copies do if reads keep to it too
(`LawfulReads`). What a correspondence owes is about single calls, and the inductions over the
loops are made here, once for all of them. -/

namespace InterpreterHost

namespace Repeater

/-! ### The courses of the loops, one equation each -/

variable {lines copied : Nat} {input : Input} {output : Output} {failure : Failure} {b : UInt8}
  {bs : List UInt8}

/-- A prompt that cannot be sent ends the conversation before anything is read. -/
theorem converse_unasked (asked : (output.send (Utf8.encode prompt)).result = .error failure) :
    converse lines input output =
      ⟨.error failure, (), input, (output.send (Utf8.encode prompt)).output,
        (output.send (Utf8.encode prompt)).trace, []⟩ := by
  rw [converse]
  simp only [asked]

/-- A line that cannot be read ends the conversation with the failure of the read. -/
theorem converse_unread (asked : (output.send (Utf8.encode prompt)).result = .ok ())
    (read : input.readLine.result = .error failure) :
    converse lines input output =
      ⟨.error failure, (), input.readLine.input, (output.send (Utf8.encode prompt)).output,
        (output.send (Utf8.encode prompt)).trace ++ input.readLine.trace, []⟩ := by
  rw [converse]
  simp only [asked]
  split <;> simp_all

/-- The end of the input is answered by an empty line, which decides the result. -/
theorem converse_ended (asked : (output.send (Utf8.encode prompt)).result = .ok ())
    (read : input.readLine.result = .ok []) :
    converse lines input output =
      let closed := (output.send (Utf8.encode prompt)).output.send [newline]
      ⟨closed.result, (), input.readLine.input, closed.output,
        (output.send (Utf8.encode prompt)).trace ++ input.readLine.trace ++ closed.trace,
        if closed.result.isOk then [conversationOver lines] else []⟩ := by
  rw [converse]
  simp only [asked]
  split <;> simp_all

/-- A line that cannot be given back ends the conversation, although it was taken. -/
theorem converse_unrepeated (asked : (output.send (Utf8.encode prompt)).result = .ok ())
    (read : input.readLine.result = .ok (b :: bs))
    (repeated : ((output.send (Utf8.encode prompt)).output.send (complete (b :: bs))).result =
      .error failure) :
    converse lines input output =
      let repeated := (output.send (Utf8.encode prompt)).output.send (complete (b :: bs))
      ⟨.error failure, (), input.readLine.input, repeated.output,
        (output.send (Utf8.encode prompt)).trace ++ input.readLine.trace ++ repeated.trace,
        []⟩ := by
  rw [converse]
  simp only [asked]
  split <;> simp_all

/-- A line that was given back is followed by the conversation over what is left of the input. -/
theorem converse_next (asked : (output.send (Utf8.encode prompt)).result = .ok ())
    (read : input.readLine.result = .ok (b :: bs))
    (repeated : ((output.send (Utf8.encode prompt)).output.send (complete (b :: bs))).result =
      .ok ()) :
    converse lines input output =
      let repeated := (output.send (Utf8.encode prompt)).output.send (complete (b :: bs))
      (converse (lines + 1) input.readLine.input repeated.output).after
        ((output.send (Utf8.encode prompt)).trace ++ input.readLine.trace ++ repeated.trace) := by
  rw [converse]
  simp only [asked]
  split <;> simp_all

/-- An interrupted read is made again and leaves nothing but its event. -/
theorem copy_interrupted {source : Input} (read : (source.read copyLimit).result = .error failure)
    (interrupted : failure.kind = .interrupted) :
    copy copied source output =
      (copy copied (source.read copyLimit).input output).after (source.read copyLimit).trace := by
  rw [copy]
  split <;> simp_all

theorem copy_unread {source : Input} (read : (source.read copyLimit).result = .error failure)
    (lasting : failure.kind ≠ .interrupted) :
    copy copied source output =
      ⟨.error failure, (), (source.read copyLimit).input, output,
        (source.read copyLimit).trace, []⟩ := by
  rw [copy]
  split <;> simp_all

theorem copy_ended {source : Input} (read : (source.read copyLimit).result = .ok []) :
    copy copied source output =
      ⟨output.flush.result, (), (source.read copyLimit).input, output.flush.output,
        (source.read copyLimit).trace ++ output.flush.trace,
        if output.flush.result.isOk then [scriptOver copied] else []⟩ := by
  rw [copy]
  split <;> simp_all

theorem copy_unwritten {source : Input} (read : (source.read copyLimit).result = .ok (b :: bs))
    (written : (output.writeAll (b :: bs)).result = .error failure) :
    copy copied source output =
      ⟨.error failure, (), (source.read copyLimit).input, (output.writeAll (b :: bs)).output,
        (source.read copyLimit).trace ++ (output.writeAll (b :: bs)).trace, []⟩ := by
  rw [copy]
  split <;> simp_all

theorem copy_next {source : Input} (read : (source.read copyLimit).result = .ok (b :: bs))
    (written : (output.writeAll (b :: bs)).result = .ok ()) :
    copy copied source output =
      (copy (copied + (b :: bs).length) (source.read copyLimit).input
        (output.writeAll (b :: bs)).output).after
          ((source.read copyLimit).trace ++ (output.writeAll (b :: bs)).trace) := by
  rw [copy]
  split <;> simp_all

end Repeater

/-- A way in which a first pair of streams and a second one can correspond. -/
structure Correspondence where
  inputs : Input → Input → Prop
  outputs : Output → Output → Prop
  /-- The events of the first pair that have their like on the second one. -/
  counts : Event → Bool

namespace Correspondence

variable (link : Correspondence)

/-- What counts of the first trace is the second one, up to how many calls carried it. -/
def Traces (first second : List Event) : Prop :=
  Event.Alike (first.filter link.counts) second

structure Takes (first second : Input.Taken) : Prop where
  result : first.result = second.result
  inputs : link.inputs first.input second.input
  traces : link.Traces first.trace second.trace

structure Sends (first second : Output.Sent) : Prop where
  result : first.result = second.result
  outputs : link.outputs first.output second.output
  traces : link.Traces first.trace second.trace

structure Passages (first second : Passage Unit) : Prop where
  result : first.result = second.result
  inputs : link.inputs first.input second.input
  outputs : link.outputs first.output second.output
  traces : link.Traces first.events second.events

/-- Single calls on streams that correspond do the same. -/
structure Lawful : Prop where
  writeAll : ∀ {first second}, link.outputs first second → ∀ bytes,
    link.Sends (first.writeAll bytes) (second.writeAll bytes)
  flush : ∀ {first second}, link.outputs first second → link.Sends first.flush second.flush
  readLine : ∀ {first second}, link.inputs first second →
    link.Takes first.readLine second.readLine

/-- So do reads, but for those of the first input that are interrupted and do not count. -/
structure LawfulReads : Prop extends link.Lawful where
  read : ∀ {first second}, link.inputs first second →
    link.Takes (first.read Repeater.copyLimit) (second.read Repeater.copyLimit) ∨
    ∃ failure, (first.read Repeater.copyLimit).result = .error failure ∧
      failure.kind = .interrupted ∧
      (first.read Repeater.copyLimit).trace.filter link.counts = [] ∧
      link.inputs (first.read Repeater.copyLimit).input second

variable {link}

theorem Traces.append {xs ys xs' ys' : List Event} (h : link.Traces xs ys)
    (h' : link.Traces xs' ys') : link.Traces (xs ++ xs') (ys ++ ys') := by
  unfold Traces
  rw [List.filter_append]
  exact Event.Alike.append h h'

theorem Traces.nil : link.Traces [] [] := Event.Alike.refl []

theorem Traces.cons {event : Event} {xs ys : List Event} (h : link.Traces xs ys)
    (counts : link.counts event = true) : link.Traces (event :: xs) (event :: ys) := by
  unfold Traces
  rw [List.filter_cons_of_pos counts]
  exact Event.Alike.cons event h

theorem Traces.cons_uncounted {event : Event} {xs ys : List Event} (h : link.Traces xs ys)
    (uncounted : link.counts event = false) :
    link.Traces (event :: xs) ys := by
  unfold Traces
  rw [List.filter_cons_of_neg (by simp [uncounted])]
  exact h

theorem Sends.after {first second : Output.Sent} {event : OutputEvent}
    (h : link.Sends first second) (counts : link.counts (.output event) = true) :
    link.Sends (first.after event) (second.after event) :=
  ⟨h.result, h.outputs, h.traces.cons counts⟩

theorem Sends.after_uncounted {first second : Output.Sent} {event : OutputEvent}
    (h : link.Sends first second) (uncounted : link.counts (.output event) = false) :
    link.Sends (first.after event) second :=
  ⟨h.result, h.outputs, h.traces.cons_uncounted uncounted⟩

theorem Takes.after_uncounted {first second : Input.Taken} {event : InputEvent}
    (h : link.Takes first second) (uncounted : link.counts (.input event) = false) :
    link.Takes (first.after event) second :=
  ⟨h.result, h.inputs, h.traces.cons_uncounted uncounted⟩

theorem Takes.afterBytes {first second : Input.Taken} {bytes : List UInt8}
    (h : link.Takes first second) (counts : link.counts (.input (.took bytes)) = true) :
    link.Takes (first.afterBytes bytes) (second.afterBytes bytes) :=
  ⟨congrArg (Except.map (bytes ++ ·)) h.result, h.inputs, h.traces.cons counts⟩

theorem Passages.after {first second : Passage Unit} {xs ys : List Event}
    (h : link.Passages first second) (traces : link.Traces xs ys) :
    link.Passages (first.after xs) (second.after ys) :=
  ⟨h.result, h.inputs, h.outputs, traces.append h.traces⟩

/-- Calls that correspond may be followed by others that do, whether or not the first ones failed.
-/
theorem Sends.andThen {first second : Output.Sent} {next last : Output → Output.Sent}
    (h : link.Sends first second)
    (hnext : ∀ {a b}, link.outputs a b → link.Sends (next a) (last b)) :
    link.Sends (first.andThen next) (second.andThen last) := by
  have hlater := hnext h.outputs
  unfold Output.Sent.andThen
  rw [← h.result]
  cases hr : first.result with
  | error failure => exact ⟨rfl, h.outputs, h.traces⟩
  | ok _ =>
    refine ⟨hlater.result, hlater.outputs, ?_⟩
    simp only [Output.Sent.trace, List.map_append]
    exact h.traces.append hlater.traces

namespace Lawful

variable {output sink : Output}

theorem send (law : link.Lawful) (ho : link.outputs output sink) (bytes : List UInt8) :
    link.Sends (output.send bytes) (sink.send bytes) :=
  (law.writeAll ho bytes).andThen law.flush

theorem sendPieces (law : link.Lawful) (pieces : List (List UInt8))
    (ho : link.outputs output sink) :
    link.Sends (output.sendPieces pieces) (sink.sendPieces pieces) := by
  induction pieces generalizing output sink with
  | nil => exact law.flush ho
  | cons piece pieces ih => exact (law.writeAll ho piece).andThen ih

open Repeater

/-- Conversations over corresponding streams correspond, course by course: the calls of a turn do,
one after another, and the streams after it correspond again. -/
theorem converse (law : link.Lawful) (lines : Nat) (input other : Input) (output sink : Output)
    (hi : link.inputs input other) (ho : link.outputs output sink) :
    link.Passages (converse lines input output) (converse lines other sink) := by
  fun_induction Repeater.converse lines input output generalizing other sink with
  | case1 lines input output asked failure unsent =>
    have asking := law.send ho (Utf8.encode prompt)
    rw [converse_unasked (asking.result ▸ unsent)]
    exact ⟨rfl, hi, asking.outputs, asking.traces⟩
  | case2 lines input output asked sent taken failure read =>
    have asking := law.send ho (Utf8.encode prompt)
    have reading := law.readLine hi
    rw [converse_unread (asking.result ▸ sent) (reading.result ▸ read)]
    exact ⟨rfl, reading.inputs, asking.outputs, asking.traces.append reading.traces⟩
  | case3 lines input output asked sent taken read closed =>
    have asking := law.send ho (Utf8.encode prompt)
    have reading := law.readLine hi
    have closing := law.send asking.outputs [newline]
    rw [converse_ended (asking.result ▸ sent) (reading.result ▸ read)]
    exact ⟨closing.result, reading.inputs, closing.outputs,
      (asking.traces.append reading.traces).append closing.traces⟩
  | case4 lines input output asked sent taken b bs read repeated failure unsent =>
    have asking := law.send ho (Utf8.encode prompt)
    have reading := law.readLine hi
    have repeating := law.send asking.outputs (complete (b :: bs))
    rw [converse_unrepeated (asking.result ▸ sent) (reading.result ▸ read)
      (repeating.result ▸ unsent)]
    exact ⟨rfl, reading.inputs, repeating.outputs,
      (asking.traces.append reading.traces).append repeating.traces⟩
  | case5 lines input output asked sent taken b bs read repeated resent ih =>
    have asking := law.send ho (Utf8.encode prompt)
    have reading := law.readLine hi
    have repeating := law.send asking.outputs (complete (b :: bs))
    have hsent : (sink.send (Utf8.encode prompt)).result = .ok () := asking.result ▸ sent
    have hread : other.readLine.result = .ok (b :: bs) := reading.result ▸ read
    rw [converse_next hsent hread (repeating.result ▸ resent)]
    exact (ih _ _ reading.inputs repeating.outputs).after
      ((asking.traces.append reading.traces).append repeating.traces)

/-- Greetings to corresponding outputs correspond, as do any pieces that are sent in a row. -/
theorem greet (law : link.Lawful) (identity : Identity) (ho : link.outputs output sink) :
    link.Sends (Greeting.write identity output) (Greeting.write identity sink) :=
  law.sendPieces _ ho

end Lawful

namespace LawfulReads

open Repeater

variable {source other : Input}

/-- A read that was not interrupted has its like on the second input. -/
theorem takes (law : link.LawfulReads) (hi : link.inputs source other)
    (h : ∀ failure, (source.read copyLimit).result = .error failure →
      failure.kind ≠ .interrupted) :
    link.Takes (source.read copyLimit) (other.read copyLimit) := by
  obtain takes | ⟨failure, read, interrupted, -⟩ := law.read hi
  · exact takes
  · exact absurd interrupted (h failure read)

theorem takes_of_ok (law : link.LawfulReads) (hi : link.inputs source other) {bytes : List UInt8}
    (read : (source.read copyLimit).result = .ok bytes) :
    link.Takes (source.read copyLimit) (other.read copyLimit) := by
  refine law.takes hi ?_
  intro failure h
  cases read.symm.trans h

/-- Copies of corresponding sources to corresponding outputs correspond. The second one stands still
while the first repeats an interrupted read. -/
theorem copy (law : link.LawfulReads) (copied : Nat) (source other : Input) (output sink : Output)
    (hi : link.inputs source other) (ho : link.outputs output sink) :
    link.Passages (copy copied source output) (copy copied other sink) := by
  fun_induction Repeater.copy copied source output generalizing other sink with
  | case1 copied source output taken failure read interrupted ih =>
    obtain takes | ⟨-, -, -, uncounted, later⟩ := law.read hi
    · have hread : (other.read copyLimit).result = .error failure := takes.result ▸ read
      rw [copy_interrupted hread interrupted]
      exact (ih _ _ takes.inputs ho).after takes.traces
    · have passages := ih _ _ later ho
      refine ⟨passages.result, passages.inputs, passages.outputs, ?_⟩
      have traces := passages.traces
      unfold Traces at traces ⊢
      rw [Passage.after, List.filter_append, uncounted]
      exact traces
  | case2 copied source output taken failure read lasting =>
    have takes := law.takes hi fun cause hc => by
      obtain rfl : failure = cause := Except.error.inj (read.symm.trans hc)
      exact lasting
    rw [copy_unread (takes.result ▸ read) lasting]
    exact ⟨rfl, takes.inputs, ho, takes.traces⟩
  | case3 copied source output taken read flushed =>
    have takes := law.takes_of_ok hi read
    have flushing := law.flush ho
    rw [copy_ended (takes.result ▸ read)]
    exact ⟨flushing.result, takes.inputs, flushing.outputs, takes.traces.append flushing.traces⟩
  | case4 copied source output taken b bs read written failure unwritten =>
    have takes := law.takes_of_ok hi read
    have writing := law.writeAll ho (b :: bs)
    rw [copy_unwritten (takes.result ▸ read) (writing.result ▸ unwritten)]
    exact ⟨rfl, takes.inputs, writing.outputs, takes.traces.append writing.traces⟩
  | case5 copied source output taken b bs read written written_ok ih =>
    have takes := law.takes_of_ok hi read
    have writing := law.writeAll ho (b :: bs)
    have hread : (other.read copyLimit).result = .ok (b :: bs) := takes.result ▸ read
    rw [copy_next hread (writing.result ▸ written_ok)]
    exact (ih _ _ takes.inputs writing.outputs).after (takes.traces.append writing.traces)

end LawfulReads

end Correspondence

/-! ### Outputs with nothing in the way

What the repeater does there does not depend on the output: two of them correspond however far they
have come (`Correspondence.clear`), since all that is written is accepted
(`Output.Clear.writeAll_alike`) and every flush succeeds. -/

namespace Output.Clear

variable {output : Output}

theorem writeAll_ok (clear : output.Clear) (bytes : List UInt8) :
    (output.writeAll bytes).result = .ok () := by
  cases writing : (output.writeAll bytes).result with
  | ok _ => rfl
  | error failure => exact absurd (writeAll_broken writing).1 clear.not_breaksOff

/-- Writing puts nothing in the way. -/
theorem writeAll_clear (clear : output.Clear) (bytes : List UInt8) :
    (output.writeAll bytes).output.Clear :=
  clear.reaches (writeAll_complete (clear.writeAll_ok bytes)).1

theorem flush_clear (clear : output.Clear) : output.flush.output.Clear :=
  clear.passes (.flushed clear.flush)

/-- What is written is accepted as by a single call. -/
theorem writeAll_alike (clear : output.Clear) (b : UInt8) (bs : List UInt8) :
    Event.Alike (output.writeAll (b :: bs)).trace [.output (.accepted (b :: bs))] := by
  induction hn : bs.length using Nat.strongRecOn generalizing output b bs with
  | ind n ih =>
    obtain ⟨most, room⟩ : ∃ most, output.room (b :: bs).length = most + 1 :=
      ⟨_, (Nat.succ_pred_eq_of_pos (clear.room_pos (Nat.succ_pos bs.length))).symm⟩
    have passes : output.Passes (.accepted (b :: bs.take most)) (output.accept (most + 1)) :=
      passes_of_room clear.meet? room
    have later : (output.accept (most + 1)).Clear := clear.passes passes
    rw [writeAll_room clear.meet? room, Sent.trace_after, List.take_succ_cons, List.drop_succ_cons]
    cases hrest : bs.drop most with
    | nil =>
      have hall : bs.take most = bs := List.take_of_length_le (List.drop_eq_nil_iff.mp hrest)
      rw [writeAll_nil, hall]
      exact .refl _
    | cons c cs =>
      have hlt : cs.length < n := by
        have := congrArg List.length hrest
        rw [List.length_drop, List.length_cons] at this
        omega
      have hsplit : b :: bs.take most ++ c :: cs = b :: bs := by
        rw [← hrest, List.cons_append, List.take_append_drop]
      rw [← hsplit]
      exact ((ih _ hlt later c cs rfl).cons _).trans (.of_accepted _ _ [])

end Output.Clear

namespace Correspondence

/-- The inputs are the same, and nothing is in the way on the outputs. -/
def clear : Correspondence where
  inputs := Eq
  outputs first second := first.Clear ∧ second.Clear
  counts _ := true

theorem clear_traces {first second : List Event} :
    clear.Traces first second ↔ Event.Alike first second := by
  have hall : first.filter clear.counts = first := List.filter_eq_self.mpr fun _ _ => rfl
  rw [Traces, hall]

/-- Outputs with nothing in the way accept the same bytes, in however many calls. -/
theorem clear_writeAll {first second : Output} (outputs : clear.outputs first second)
    (bytes : List UInt8) : clear.Sends (first.writeAll bytes) (second.writeAll bytes) := by
  obtain ⟨hfirst, hsecond⟩ := outputs
  refine ⟨(hfirst.writeAll_ok bytes).trans (hsecond.writeAll_ok bytes).symm,
    ⟨hfirst.writeAll_clear bytes, hsecond.writeAll_clear bytes⟩, clear_traces.mpr ?_⟩
  cases bytes with
  | nil =>
    rw [Output.writeAll_nil, Output.writeAll_nil]
    exact .refl _
  | cons b bs => exact (hfirst.writeAll_alike b bs).trans (hsecond.writeAll_alike b bs).symm

theorem clear_flush {first second : Output} (outputs : clear.outputs first second) :
    clear.Sends first.flush second.flush := by
  obtain ⟨hfirst, hsecond⟩ := outputs
  refine ⟨hfirst.flush.trans hsecond.flush.symm, ⟨hfirst.flush_clear, hsecond.flush_clear⟩,
    clear_traces.mpr ?_⟩
  rw [Output.Sent.trace, Output.Sent.trace, Output.events_flush_of_ok hfirst.flush,
    Output.events_flush_of_ok hsecond.flush]
  exact .refl _

theorem clear_takes (taken : Input.Taken) : clear.Takes taken taken :=
  ⟨rfl, rfl, clear_traces.mpr (.refl _)⟩

/-- On outputs with nothing in the way the repeater does the same. -/
theorem clear_lawful : clear.LawfulReads where
  writeAll := clear_writeAll
  flush := clear_flush
  readLine hi := by
    obtain rfl := hi
    exact clear_takes _
  read hi := by
    obtain rfl := hi
    exact .inl (clear_takes _)

end Correspondence

end InterpreterHost
