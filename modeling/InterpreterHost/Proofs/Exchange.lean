import InterpreterHost.Proofs.Repeater.Copying
import InterpreterHost.Proofs.Repeater.Correspondence
import InterpreterHost.Proofs.Repeater.Curtailment
import InterpreterHost.Proofs.Stream.Interruptions
import Mathlib.Data.List.Forall2

/-! Exchanges on outputs that fail and on streams that interrupt. A flush that fails ends its step
and is not made again; interruptions of reads and writes do not show at all. -/

namespace InterpreterHost

/-! ### Flushes that fail

Whatever step of an exchange it is, either no write or flush call ends the writing, or its last call
does (`Passage.calm_or_brokeOff`). So a flush that fails is not made again, and its failure is what
the step ends with (`Step.endsAtFailedFlush`). -/

open Repeater

/-- If a flush failed, it was the last call, and its failure is the result. -/
def Passage.EndsAtFailedFlush (passage : Passage Unit) : Prop :=
  ∀ kind, .output (.flushFailed kind) ∈ passage.events →
    ∃ before failure, passage.events = before ++ [.output (.flushFailed kind)] ∧
      passage.result = .error failure ∧ failure.kind = kind

namespace Passage

variable {passage : Passage Unit} {output : Output}

theorem endsAtFailedFlush_of_calm (calm : Event.Calm passage.events) :
    passage.EndsAtFailedFlush := by
  intro kind failed
  have := calm _ failed
  simp [Event.isFatal, OutputEvent.isFatal] at this

/-- An operation that an output broke off ends with the flush that failed, if it flushed at all: the
calls before that passed. -/
theorem endsAtFailedFlush_of_brokeOff (broken : passage.BrokeOff output) :
    passage.EndsAtFailedFlush := by
  obtain ⟨before, event, state, failure, hevents, reaches, breaks, result⟩ := broken
  intro kind failed
  rw [hevents, List.mem_append, List.mem_singleton] at failed
  rcases failed with early | last
  · have hcall : .flushFailed kind ∈ Event.calls before :=
      List.mem_filterMap.mpr ⟨_, early, rfl⟩
    have := reaches.not_fatal _ hcall
    simp [OutputEvent.isFatal] at this
  · obtain rfl := Event.output.inj last
    generalize passage.output = later at breaks
    cases breaks with
    | unflushed loud => exact ⟨before, failure, hevents, result, rfl⟩

end Passage

theorem Event.calm_of_calls {trace : List Event} {before after : Output}
    (reaches : before.Reaches (calls trace) after) : Calm trace := by
  intro event hevent
  cases event with
  | input event => rfl
  | output event => exact reaches.not_fatal event (List.mem_filterMap.mpr ⟨_, hevent, rfl⟩)

/-- Calls at the end of an operation end the writing with its last call, or not at all. -/
theorem Passage.calm_or_brokeOff {passage : Passage Unit} {output middle : Output}
    {first : List Event} {sent : Output.Sent} (reaches : output.Reaches (Event.calls first) middle)
    (last : sent.From middle) (hevents : passage.events = first ++ sent.trace)
    (hresult : passage.result = sent.result) (houtput : passage.output = sent.output) :
    Event.Calm passage.events ∨ passage.BrokeOff output := by
  cases last with
  | passed others =>
    rw [hevents, Event.calm_append]
    exact .inl ⟨Event.calm_of_calls reaches, Event.calm_of_reaches others⟩
  | @broke events failure later breaksOff =>
    obtain rfl : later = passage.output := houtput.symm
    exact .inr (brokeOff_of_breaksOff reaches breaksOff hevents hresult)

theorem Repeater.Finished.calm_or_brokeOff {source : Input} {output : Output}
    {passage : Passage Unit} (finished : Finished source output passage) :
    Event.Calm passage.events ∨ passage.BrokeOff output := by
  obtain ⟨before, event, state, hevents, -, -, reaches, hflush⟩ := finished.flush
  have last := Output.Sent.From.flush state
  rw [hflush] at last
  have unflushed : output.Reaches (Event.calls (before ++ [.input .ended])) state := by
    rw [Event.calls_append, show Event.calls [.input .ended] = [] from rfl, List.append_nil]
    exact reaches
  refine Passage.calm_or_brokeOff unflushed last ?_ rfl rfl
  rw [hevents, List.append_assoc]
  rfl

/-- Every step ends at a flush that fails. -/
theorem Step.endsAtFailedFlush (step : Step) (input : Input) (output : Output) :
    (step.take input output).EndsAtFailedFlush := by
  suffices h : Event.Calm (step.take input output).events ∨
      (step.take input output).BrokeOff output from
    h.elim Passage.endsAtFailedFlush_of_calm Passage.endsAtFailedFlush_of_brokeOff
  cases step with
  | converse =>
    have talk := converse_conversation 0 input output
    by_cases calm : Event.Calm (Repeater.converse 0 input output).events
    · exact .inl calm
    · exact .inr (talk.broken calm)
  | execute =>
    rcases copy_outcome 0 input output with finished | unread | unwritten
    · exact finished.calm_or_brokeOff
    · exact .inl (Event.calm_of_calls unread.reaches)
    · exact .inr unwritten.broken
  | greet identity =>
    have greeted := Output.Sent.From.sendPieces output ((Greeting.pieces identity).map Utf8.encode)
    have untouched : output.Reaches (Event.calls []) output := .refl output
    exact Passage.calm_or_brokeOff untouched greeted rfl rfl rfl

/-- What every step leaves behind, on any streams, every step of an exchange does. -/
theorem forall_exchange {P : Passage Unit → Prop}
    (h : ∀ (step : Step) input output, P (step.take input output)) (input : Input)
    (output : Output) (steps : List Step) : ∀ passage ∈ exchange input output steps, P passage := by
  induction steps generalizing input output with
  | nil =>
    intro passage hpassage
    cases hpassage
  | cons step steps ih =>
    rw [exchange, List.forall_mem_cons]
    exact ⟨h step input output, ih _ _⟩

/-! ### Interruptions

Each single call does on the streams what it does without its interruptions
(`Correspondence.interruptions_lawful`), so each step does, and since the streams after a step
correspond as those before it did, so does any row of steps. Interrupted flushes are another matter,
since no flush is made again. -/

namespace Correspondence

/-- The second streams are the first ones without their interruptions. -/
def interruptions : Correspondence where
  inputs first second := first.uninterrupted = second
  outputs first second := first.uninterrupted = second
  counts event := !event.isInterruption

variable {link : Correspondence}

theorem Sends.trans_alike {first second third : Output.Sent} (h : link.Sends first second)
    (alike : second.Alike third) : link.Sends first third :=
  ⟨h.result.trans alike.result, alike.output ▸ h.outputs, h.traces.trans alike.events⟩

theorem interruptions_counts_failed {failure : Failure} (lasting : failure.kind ≠ .interrupted) :
    interruptions.counts (.output (.failed failure.kind)) = true ∧
      interruptions.counts (.input (.failed failure.kind)) = true := by
  simp [interruptions, Event.isInterruption, lasting]

theorem interruptions_counts_flush {event : OutputEvent} (isFlush : event.isFlush = true) :
    interruptions.counts (.output event) = true := by
  cases event with
  | flushed | flushFailed => rfl
  | accepted | refused | failed => simp [OutputEvent.isFlush] at isFlush

/-- Without the interruptions one call may accept more bytes, and does what two calls do in its
place. -/
theorem interruptions_writeAll (output : Output) (bytes : List UInt8) :
    interruptions.Sends (output.writeAll bytes) (output.uninterrupted.writeAll bytes) := by
  fun_induction Output.writeAll output bytes with
  | case1 output =>
    rw [Output.writeAll_nil]
    exact ⟨rfl, rfl, .nil⟩
  | case2 output b bs later met ih =>
    rw [Output.uninterrupted_of_interruption met] at ih
    exact ih.after_uncounted rfl
  | case3 output b bs later met =>
    rw [Output.writeAll_met b bs (Output.meet?_lasting (by simp) met)]
    exact ⟨rfl, rfl, Traces.nil.cons rfl⟩
  | case4 output b bs failure lasting later met =>
    rw [Output.writeAll_met b bs (Output.meet?_lasting (by simp) met)]
    exact ⟨rfl, rfl, Traces.nil.cons (interruptions_counts_failed lasting).1⟩
  | case5 output b bs unmet full =>
    have hlimit := (Output.room_eq_zero_iff (Nat.succ_pos _)).mp full
    have hfull : output.uninterrupted.room (bs.length + 1) = 0 :=
      (Output.room_eq_zero_iff (Nat.succ_pos _)).mpr hlimit
    rw [Output.writeAll_full b bs (Output.meet?_uninterrupted unmet) hfull]
    exact ⟨rfl, rfl, Traces.nil.cons rfl⟩
  | case6 output b bs unmet n room ih =>
    have hroom : n + 1 ≤ output.uninterrupted.room (b :: bs).length :=
      Nat.le_trans (Nat.le_of_eq room.symm) (output.room_le_uninterrupted (bs.length + 1))
    have hsplit : (output.uninterrupted.writeAll (b :: bs)).Alike
        (((output.accept (n + 1)).uninterrupted.writeAll (bs.drop n)).after
          (.accepted (b :: bs.take n))) :=
      Output.writeAll_accept (Output.meet?_uninterrupted unmet) (Nat.succ_pos n) hroom
    exact (ih.after rfl).trans_alike hsplit.symm

theorem interruptions_flush (output : Output) :
    interruptions.Sends output.flush output.uninterrupted.flush := by
  have hflush : output.uninterrupted.flush =
      ⟨output.flush.result, output.flush.output.uninterrupted, output.flush.events⟩ := by
    simp only [Output.flush, Output.uninterrupted]
    split <;> rfl
  obtain ⟨event, hevents, -, isFlush⟩ := output.events_flush
  rw [hflush]
  refine ⟨rfl, rfl, ?_⟩
  rw [Output.Sent.trace, Output.Sent.trace, hevents]
  exact Traces.nil.cons (interruptions_counts_flush isFlush)

theorem interruptions_readLine (input : Input) :
    interruptions.Takes input.readLine input.uninterrupted.readLine := by
  induction input with
  | exhausted | ended => exact ⟨rfl, rfl, Traces.nil.cons rfl⟩
  | failing failure later ih =>
    rw [Input.uninterrupted]
    by_cases hk : failure.kind = .interrupted
    · rw [if_pos hk, Input.readLine, if_pos hk]
      exact ih.after_uncounted rfl
    · rw [if_neg hk, Input.readLine, Input.readLine, if_neg hk, if_neg hk]
      exact ⟨rfl, rfl, Traces.nil.cons (interruptions_counts_failed hk).2⟩
  | chunk first others later ih =>
    rw [Input.uninterrupted, Input.readLine, Input.readLine]
    cases cutLine? (first :: others) with
    | some cutting => exact ⟨rfl, Input.uninterrupted_push _ later, Traces.nil.cons rfl⟩
    | none => exact ih.afterBytes rfl

theorem interruptions_read (input : Input) (limit : Nat) :
    interruptions.Takes (input.read limit) (input.uninterrupted.read limit) ∨
      ∃ failure, (input.read limit).result = .error failure ∧ failure.kind = .interrupted ∧
        (input.read limit).trace.filter interruptions.counts = [] ∧
        interruptions.inputs (input.read limit).input input.uninterrupted := by
  cases input with
  | exhausted | ended => exact .inl ⟨rfl, rfl, Traces.nil.cons rfl⟩
  | chunk first others later =>
    exact .inl ⟨rfl, Input.uninterrupted_push _ later, Traces.nil.cons rfl⟩
  | failing failure later =>
    rw [Input.uninterrupted]
    by_cases hk : failure.kind = .interrupted
    · rw [if_pos hk]
      refine .inr ⟨failure, rfl, hk, ?_, rfl⟩
      rw [Input.Taken.trace, Input.read, hk]
      rfl
    · rw [if_neg hk]
      exact .inl ⟨rfl, rfl, Traces.nil.cons (interruptions_counts_failed hk).2⟩

theorem interruptions_lawful : interruptions.LawfulReads where
  writeAll ho bytes := by
    obtain rfl := ho
    exact interruptions_writeAll _ bytes
  flush ho := by
    obtain rfl := ho
    exact interruptions_flush _
  readLine hi := by
    obtain rfl := hi
    exact interruptions_readLine _
  read hi := by
    obtain rfl := hi
    exact interruptions_read _ copyLimit

end Correspondence

/-- A step goes on streams without their interruptions as it does with them. -/
theorem Step.take_uninterrupted (step : Step) (input : Input) (output : Output) :
    Correspondence.interruptions.Passages (step.take input output)
      (step.take input.uninterrupted output.uninterrupted) := by
  have lawful := Correspondence.interruptions_lawful
  cases step with
  | converse => exact lawful.converse 0 _ _ _ _ rfl rfl
  | execute => exact lawful.copy 0 _ _ _ _ rfl rfl
  | greet identity =>
    have corresponds : Correspondence.interruptions.outputs output output.uninterrupted := rfl
    have greeted := lawful.greet identity corresponds
    exact ⟨greeted.result, rfl, greeted.outputs, greeted.traces⟩

/-- The second operation did what the first one did, but without interruptions. -/
structure Passage.Undisturbed (first second : Passage Unit) : Prop where
  result : first.result = second.result
  events : Event.join (Event.uninterrupted first.events) = Event.join second.events
  delivered : Event.delivered first.events = Event.delivered second.events
  taken : Event.taken first.events = Event.taken second.events
  accepted : first.output.accepted = second.output.accepted
  left : first.input.left = second.input.left
  input : first.input.uninterrupted = second.input
  output : first.output.uninterrupted = second.output

theorem Passage.undisturbed_of_interruptions {first second : Passage Unit}
    (h : Correspondence.interruptions.Passages first second) : first.Undisturbed second := by
  have alike : Event.Alike (Event.uninterrupted first.events) second.events := h.traces
  obtain ⟨delivered, taken⟩ := Event.bytes_uninterrupted first.events
  refine ⟨h.result, alike, delivered ▸ alike.delivered, taken ▸ alike.taken, ?_, ?_, h.inputs,
    h.outputs⟩
  · rw [← h.outputs, Output.uninterrupted]
  · rw [← h.inputs, Input.left_uninterrupted]

/-- For any steps over any input and output, each step goes as it does if no read and no write is
interrupted: the result, the bytes taken, delivered and still left, and the trace but for the
interruptions and for how many calls carried a run of bytes. A flush that fails, interrupted or not,
is the last call of its step and ends it. -/
theorem exchange_undisturbed (input : Input) (output : Output) (steps : List Step) :
    List.Forall₂ Passage.Undisturbed (exchange input output steps)
      (exchange input.uninterrupted output.uninterrupted steps) ∧
    output.uninterrupted.flushFaults = output.flushFaults ∧
    ∀ passage ∈ exchange input output steps, passage.EndsAtFailedFlush := by
  refine ⟨?_, rfl, forall_exchange Step.endsAtFailedFlush input output steps⟩
  induction steps generalizing input output with
  | nil => exact .nil
  | cons step steps ih =>
    have taken := step.take_uninterrupted input output
    have others := ih (step.take input output).input (step.take input output).output
    rw [taken.inputs, taken.outputs] at others
    exact .cons (Passage.undisturbed_of_interruptions taken) others

/-- Interruptions within a prompt, between two steps and within a line; the interrupted flush ends
its step. -/
example :
    let input : Input := .chunk 0x61 [] (.failing (.plain .interrupted) (.chunk 0x0A [] .exhausted))
    let output : Output :=
      ⟨0, none, [⟨1, .interruption, some 2, by decide⟩, ⟨3, .interruption, some 1, by decide⟩,
        WriteFault.refusing 8 none], 0, [(1, .plain .interrupted)]⟩
    (exchange input output [.converse, .converse]).map (fun p => (p.result, p.events)) =
      [(.error (.plain .interrupted),
        [.output (.accepted [0x3E]), .output (.failed .interrupted), .output (.failed .interrupted),
          .output (.accepted [0x3E, 0x20]), .output (.flushFailed .interrupted)]),
       (.error .nothingAccepted,
        [.output (.failed .interrupted), .output (.accepted [0x3E, 0x3E, 0x20]), .output .flushed,
          .input (.took [0x61]), .input (.failed .interrupted), .input (.took [0x0A]),
          .output (.accepted [0x61, 0x0A]), .output .flushed, .output .refused])] := by
  decide +kernel

end InterpreterHost
