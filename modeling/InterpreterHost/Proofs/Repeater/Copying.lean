import InterpreterHost.Proofs.Stream.Trace

/-! Which bytes of a script are copied and which are lost. A copy ends in one of three ways, by the
call that ended it (`Finished`, `Unread`, `Unwritten`). Until then its calls take bytes and deliver
them (`Carries`), and each way of ending stays what it is when such calls come before. So
`copy_outcome` goes by induction on the copy, and `execute_accounts` puts it together. -/

namespace InterpreterHost.Repeater

/-- Calls that took bytes off the front of `source` and delivered all of them to `output`, with the
streams after them. Nothing was flushed, and no end was found. -/
structure Carries (source : Input) (output : Output) (trace : List Event) (rest : Input)
    (later : Output) : Prop where
  body : Event.taken trace ++ rest.body = source.body
  stop : rest.stop = source.stop
  delivered : Event.delivered trace = Event.taken trace
  reaches : output.Reaches (Event.calls trace) later
  unflushed : ∀ event ∈ Event.calls trace, event.isFlush = false
  unended : .input .ended ∉ trace

/-- The copy reached the end of its source. All bytes before it were delivered, and the one flush
call decides the result. -/
structure Finished (source : Input) (output : Output) (passage : Passage Unit) : Prop where
  stop : source.stop = .ended
  taken : Event.taken passage.events = source.body
  delivered : Event.delivered passage.events = source.body
  flush : ∃ before event state, passage.events = before ++ [.input .ended, .output event] ∧
    .input .ended ∉ before ∧ (∀ event ∈ Event.calls before, event.isFlush = false) ∧
    output.Reaches (Event.calls before) state ∧
    state.flush = ⟨passage.result, passage.output, [event]⟩

/-- A read failed. All bytes before it were delivered, and nothing was flushed. -/
structure Unread (source : Input) (output : Output) (passage : Passage Unit) : Prop where
  failure : ∃ before failure, passage.events = before ++ [.input (.failed failure.kind)] ∧
    source.stop = .failed failure ∧ passage.result = .error failure
  taken : Event.taken passage.events = source.body
  delivered : Event.delivered passage.events = source.body
  unflushed : ∀ event ∈ Event.calls passage.events, event.isFlush = false
  reaches : output.Reaches (Event.calls passage.events) passage.output

/-- A write broke off. Bytes that the last read took were lost, one at least and as many as a read
can take at most, and nothing was flushed. -/
structure Unwritten (source : Input) (output : Output) (passage : Passage Unit) : Prop where
  broken : passage.BrokeOff output
  taken : Event.taken passage.events <+: source.body
  lost : ∃ earlier chunk, ∃ writes : List OutputEvent, ∃ lost,
    passage.events = earlier ++ .input (.took chunk) :: writes.map .output ∧
    Event.taken passage.events = Event.delivered passage.events ++ lost ∧ lost <:+ chunk ∧
    0 < lost.length ∧ lost.length ≤ 8192
  unflushed : ∀ event ∈ Event.calls passage.events, event.isFlush = false

theorem trace_took {taken : Input.Taken} {event : InputEvent} (h : taken.events = [event]) :
    taken.trace = [.input event] := by
  rw [Input.Taken.trace, h, List.map_singleton]

namespace Carries

variable {source rest : Input} {output later : Output} {trace : List Event}
  {passage : Passage Unit}

theorem of_interrupted {failure : Failure}
    (reading : (source.read copyLimit).result = .error failure)
    (interrupted : failure.kind = .interrupted) :
    Carries source output (source.read copyLimit).trace (source.read copyLimit).input output := by
  obtain ⟨hevents, hsource⟩ := Input.failed_of_read reading
  rw [trace_took hevents]
  generalize (source.read copyLimit).input = rest at hsource ⊢
  subst hsource
  refine ⟨?_, ?_, rfl, .refl output, by simp [Event.calls, Event.output?], by simp⟩
  · rw [Input.body, if_pos interrupted]
    rfl
  · rw [Input.stop, if_pos interrupted]

theorem of_chunk {chunk : List UInt8} (reading : (source.read copyLimit).result = .ok chunk)
    (some : chunk ≠ []) (writing : (output.writeAll chunk).result = .ok ()) :
    Carries source output ((source.read copyLimit).trace ++ (output.writeAll chunk).trace)
      (source.read copyLimit).input (output.writeAll chunk).output := by
  obtain ⟨hevents, -, body, stop⟩ := Input.took_of_read reading some
  obtain ⟨reaches, delivered⟩ := Output.writeAll_complete writing
  have quiet := output.isFlush_writeAll chunk
  rw [trace_took hevents, Output.Sent.trace]
  have taken : Event.taken [.input (.took chunk)] = chunk := List.append_nil chunk
  refine ⟨?_, stop, ?_, ?_, ?_, by simp⟩
  · rw [Event.taken_append, taken, Event.taken_output, List.append_nil, body]
  · rw [Event.delivered_append, Event.taken_append, taken, Event.delivered_output,
      Event.taken_output, List.append_nil, ← Output.Sent.bytes, delivered]
    rfl
  · rw [Event.calls_append, Event.calls_output]
    exact reaches
  · rw [Event.calls_append, Event.calls_output]
    exact quiet

theorem finished (h : Carries source output trace rest later) (f : Finished rest later passage) :
    Finished source output (passage.after trace) := by
  obtain ⟨before, event, state, hevents, unended, unflushed, reaches, flush⟩ := f.flush
  refine ⟨h.stop ▸ f.stop, ?_, ?_, trace ++ before, event, state, ?_, ?_, ?_, ?_, flush⟩
  · rw [Passage.after, Event.taken_append, f.taken, h.body]
  · rw [Passage.after, Event.delivered_append, f.delivered, h.delivered, h.body]
  · rw [Passage.after, hevents, List.append_assoc]
  · rw [List.mem_append, not_or]
    exact ⟨h.unended, unended⟩
  · rw [Event.calls_append]
    exact List.forall_mem_append.mpr ⟨h.unflushed, unflushed⟩
  · rw [Event.calls_append]
    exact h.reaches.trans reaches

theorem unread (h : Carries source output trace rest later) (u : Unread rest later passage) :
    Unread source output (passage.after trace) := by
  obtain ⟨before, failure, hevents, stop, result⟩ := u.failure
  refine ⟨⟨trace ++ before, failure, ?_, h.stop ▸ stop, result⟩, ?_, ?_, ?_, ?_⟩
  · rw [Passage.after, hevents, List.append_assoc]
  · rw [Passage.after, Event.taken_append, u.taken, h.body]
  · rw [Passage.after, Event.delivered_append, u.delivered, h.delivered, h.body]
  · rw [Passage.after, Event.calls_append]
    exact List.forall_mem_append.mpr ⟨h.unflushed, u.unflushed⟩
  · rw [Passage.after, Event.calls_append]
    exact h.reaches.trans u.reaches

theorem unwritten (h : Carries source output trace rest later)
    (u : Unwritten rest later passage) : Unwritten source output (passage.after trace) := by
  obtain ⟨earlier, chunk, writes, lost, hchunk, hlost, ofChunk, some, most⟩ := u.lost
  refine ⟨u.broken.after h.reaches, ?_,
    ⟨trace ++ earlier, chunk, writes, lost, ?_, ?_, ofChunk, some, most⟩, ?_⟩
  · rw [Passage.after, Event.taken_append, ← h.body]
    exact (List.prefix_append_right_inj _).mpr u.taken
  · rw [Passage.after, hchunk, List.append_assoc]
  · rw [Passage.after, Event.taken_append, Event.delivered_append, hlost, h.delivered,
      List.append_assoc]
  · rw [Passage.after, Event.calls_append]
    exact List.forall_mem_append.mpr ⟨h.unflushed, u.unflushed⟩

end Carries

/-! ### The three ways to end -/

variable {source : Input} {output : Output}

theorem finished_of_read {remarks : List Log.Record}
    (reading : (source.read copyLimit).result = .ok []) :
    Finished source output
      ⟨output.flush.result, (), (source.read copyLimit).input, output.flush.output,
        (source.read copyLimit).trace ++ output.flush.trace, remarks⟩ := by
  obtain ⟨hevents, body, stop⟩ := Input.ended_of_read (by decide) reading
  obtain ⟨event, hflush, silent, -⟩ := output.events_flush
  rw [trace_took hevents, Output.Sent.trace, hflush]
  refine ⟨stop, ?_, ?_, [], event, output, rfl, by simp, by simp [Event.calls], .refl output, ?_⟩
  · rw [body]
    rfl
  · rw [body, Event.delivered_append, Event.delivered_output, List.flatMap_singleton, silent]
    rfl
  · rw [← hflush]

theorem unread_of_read {failure : Failure}
    (reading : (source.read copyLimit).result = .error failure)
    (lasting : failure.kind ≠ .interrupted) :
    Unread source output
      ⟨.error failure, (), (source.read copyLimit).input, output,
        (source.read copyLimit).trace, []⟩ := by
  obtain ⟨hevents, hsource⟩ := Input.failed_of_read reading
  rw [trace_took hevents]
  generalize (source.read copyLimit).input = rest at hsource ⊢
  subst hsource
  refine ⟨⟨[], failure, rfl, ?_, rfl⟩, ?_, ?_, by simp [Event.calls, Event.output?], .refl output⟩
  · rw [Input.stop, if_neg lasting]
  · rw [Input.body, if_neg lasting]
    rfl
  · rw [Input.body, if_neg lasting]
    rfl

theorem unwritten_of_read {chunk : List UInt8} {failure : Failure}
    (reading : (source.read copyLimit).result = .ok chunk) (some : chunk ≠ [])
    (writing : (output.writeAll chunk).result = .error failure) :
    Unwritten source output
      ⟨.error failure, (), (source.read copyLimit).input, (output.writeAll chunk).output,
        (source.read copyLimit).trace ++ (output.writeAll chunk).trace, []⟩ := by
  obtain ⟨hevents, most, body, -⟩ := Input.took_of_read reading some
  obtain ⟨breaksOff, lost, hlost, delivered⟩ := Output.writeAll_broken writing
  have quiet := output.isFlush_writeAll chunk
  rw [trace_took hevents, Output.Sent.trace]
  have unused : output.Reaches (Event.calls [.input (.took chunk)]) output := .refl output
  have taken : Event.taken ([.input (.took chunk)] ++
      (output.writeAll chunk).events.map .output) = chunk := by
    rw [Event.taken_append, Event.taken_output, List.append_nil]
    exact List.append_nil chunk
  refine ⟨Passage.brokeOff_of_breaksOff unused breaksOff rfl rfl, ?_,
    ⟨[], chunk, _, lost, rfl, ?_, ⟨_, delivered⟩, ?_, ?_⟩, ?_⟩
  · rw [taken]
    exact ⟨_, body⟩
  · rw [taken, Event.delivered_append, Event.delivered_output, ← Output.Sent.bytes]
    exact delivered.symm
  · exact List.length_pos_iff.mpr hlost
  · have := congrArg List.length delivered
    rw [List.length_append] at this
    unfold copyLimit at most
    omega
  · rw [Event.calls_append, Event.calls_output]
    exact quiet

/-- Every copy ends in one of the three ways. -/
theorem copy_outcome (copied : Nat) (source : Input) (output : Output) :
    Finished source output (copy copied source output) ∨
      Unread source output (copy copied source output) ∨
      Unwritten source output (copy copied source output) := by
  fun_induction copy copied source output with
  | case1 copied source output taken failure read interrupted ih =>
    have carries : Carries source output taken.trace taken.input output :=
      .of_interrupted read interrupted
    exact ih.imp carries.finished (Or.imp carries.unread carries.unwritten)
  | case2 copied source output taken failure read lasting =>
    exact .inr (.inl (unread_of_read read lasting))
  | case3 copied source output taken read flushed => exact .inl (finished_of_read read)
  | case4 copied source output taken b bs read written failure writing =>
    exact .inr (.inr (unwritten_of_read read (by simp) writing))
  | case5 copied source output taken b bs read written writing ih =>
    have carries :
        Carries source output (taken.trace ++ written.trace) taken.input written.output :=
      .of_chunk read (by simp) writing
    exact ih.imp carries.finished (Or.imp carries.unread carries.unwritten)

theorem read_conserves (source : Input) :
    Event.taken (source.read copyLimit).trace ++ (source.read copyLimit).input.bytes =
      source.bytes := by
  rw [Input.Taken.trace, Event.taken_input, Input.bytes_read]

/-- Reads account for all bytes of a source: those taken, and those still to come. -/
theorem copy_conserves (copied : Nat) (source : Input) (output : Output) :
    Event.taken (copy copied source output).events ++ (copy copied source output).input.bytes =
      source.bytes := by
  have silent (sent : Output.Sent) : Event.taken sent.trace = [] := Event.taken_output sent.events
  fun_induction copy copied source output with
  | case1 copied source output taken failure read interrupted ih =>
    rw [Passage.after, Event.taken_append, List.append_assoc, ih]
    exact read_conserves source
  | case2 copied source output taken failure read lasting => exact read_conserves source
  | case3 copied source output taken read flushed =>
    rw [Event.taken_append, silent, List.append_nil]
    exact read_conserves source
  | case4 copied source output taken b bs read written failure writing =>
    rw [Event.taken_append, silent, List.append_nil]
    exact read_conserves source
  | case5 copied source output taken b bs read written writing ih =>
    rw [Passage.after, Event.taken_append, Event.taken_append, silent, List.append_nil,
      List.append_assoc, ih]
    exact read_conserves source

/-! ### No copy ends in two ways -/

variable {passage : Passage Unit}

theorem Finished.not_unread (f : Finished source output passage) :
    ¬Unread source output passage := by
  intro u
  obtain ⟨before, event, state, hevents, -⟩ := f.flush
  obtain ⟨before', failure, hevents', -⟩ := u.failure
  have := congrArg List.getLast? (hevents.symm.trans hevents')
  simp at this

/-- A copy that reached its end and one that could not write both end with a call on the output,
but only one of them with a flush. -/
theorem Finished.not_unwritten (f : Finished source output passage) :
    ¬Unwritten source output passage := by
  intro u
  obtain ⟨before, event, state, hevents, -, -, -, hflush⟩ := f.flush
  obtain ⟨event', hevent, -, isFlush⟩ := state.events_flush
  obtain rfl : event = event' := by simpa [hflush] using hevent
  have := u.unflushed event (by simp [hevents, Event.calls, Event.output?])
  exact absurd isFlush (by simp [this])

theorem Unread.not_unwritten (u : Unread source output passage) :
    ¬Unwritten source output passage := by
  intro w
  obtain ⟨before, failure, hevents, -⟩ := u.failure
  obtain ⟨before', event, state, failure', hevents', -⟩ := w.broken
  have := congrArg List.getLast? (hevents.symm.trans hevents')
  simp at this

/-- For every source and output, the bytes taken by a script are a start of those before the first
end or failure, and the bytes delivered are a start of those taken. Exactly one of three things
ended it: the flush at the end of the source, a read that failed, or a write that broke off. -/
theorem execute_accounts (source : Input) (output : Output) :
    let passage := interpreter.execute () source output
    Event.taken passage.events ++ passage.input.bytes = source.bytes ∧
      Event.taken passage.events <+: source.body ∧
      Event.delivered passage.events <+: Event.taken passage.events ∧
      (Finished source output passage ∨ Unread source output passage ∨
        Unwritten source output passage) ∧
      ¬(Finished source output passage ∧ Unread source output passage) ∧
      ¬(Finished source output passage ∧ Unwritten source output passage) ∧
      ¬(Unread source output passage ∧ Unwritten source output passage) := by
  have outcome := copy_outcome 0 source output
  refine ⟨copy_conserves 0 source output, ?_, ?_, outcome, fun ⟨f, u⟩ => f.not_unread u,
    fun ⟨f, u⟩ => f.not_unwritten u, fun ⟨u, w⟩ => u.not_unwritten w⟩
  · rcases outcome with f | u | w
    · exact f.taken ▸ List.prefix_rfl
    · exact u.taken ▸ List.prefix_rfl
    · exact w.taken
  · rcases outcome with f | u | w
    · exact f.taken ▸ f.delivered ▸ List.prefix_rfl
    · exact u.taken ▸ u.delivered ▸ List.prefix_rfl
    · obtain ⟨earlier, chunk, writes, lost, -, hlost, -⟩ := w.lost
      exact ⟨lost, hlost.symm⟩

end InterpreterHost.Repeater
