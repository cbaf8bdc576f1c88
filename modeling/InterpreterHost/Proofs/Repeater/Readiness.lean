import InterpreterHost.Proofs.Repeater.Conversation

/-! What holds when a conversation reads. All that was delivered is flushed, and it is what the
segments completed so far call for (`Ready`). `Turn.ready` says so of the reads of one turn,
`Ready.after_turn` carries it past the turns before, and `Conversation.ready` puts both together. -/

namespace InterpreterHost

/-- The segments that the reads of a trace have completed. -/
def Event.completed (trace : List Event) : List (List UInt8) :=
  (Signal.cut [] (shown trace)).segments

theorem Event.completed_append_output (trace : List Event) (events : List OutputEvent) :
    completed (trace ++ events.map .output) = completed trace := by
  rw [completed, shown_append, shown_output, List.append_nil, completed]

namespace Output.Sends

variable {output later : Output} {bytes : List UInt8} {events : List OutputEvent}

theorem getLast? (h : output.Sends bytes events later) : events.getLast? = some .flushed := by
  obtain ⟨writes, rfl, -⟩ := h.flushed
  exact List.getLast?_concat

theorem count_flushed (h : output.Sends bytes events later) : events.count .flushed = 1 := by
  obtain ⟨writes, rfl, quiet⟩ := h.flushed
  have hm : .flushed ∉ writes := fun hm => absurd (quiet _ hm) (by simp [OutputEvent.isFlush])
  rw [List.count_append, List.count_eq_zero_of_not_mem hm, List.count_singleton_self]

end Output.Sends

namespace Repeater

open Event (completed)

/-- What holds when `read` is the next call of a conversation over `input` in which `before`
happened: nothing is left to flush, each segment completed so far was echoed, and one prompt more
was sent. The read completes one segment at most. -/
structure Ready (input : Input) (before : List Event) (read : InputEvent) : Prop where
  flushed : (Event.calls before).getLast? = some .flushed
  delivered : Event.delivered before = (completed before).flatMap echo ++ promptBytes
  inOrder : completed before <+: input.cutting.segments
  flushes : (Event.calls before).count .flushed = 2 * (completed before).length + 1
  completes : (completed (before ++ [.input read])).length ≤ (completed before).length + 1

variable {input : Input} {output later : Output}

theorem Hears.ready {result : Except Failure (List UInt8)} {heard : List Event}
    (h : Hears input output result heard later) : Event.AtReads (Ready input) heard := by
  obtain ⟨asking, -⟩ := h
  rename_i asked
  refine Event.atReads_append.mpr ⟨Event.atReads_output asked, ?_⟩
  refine Event.atReads_input fun before read after hsplit => ?_
  have none : completed (asked.map .output ++ before.map .input) = [] := by
    simpa [completed] using Input.segments_readLine hsplit []
  have one := Input.segments_readLine (before.append_cons read after ▸ hsplit) []
  refine ⟨?_, ?_, ?_, ?_, ?_⟩
  · simpa using asking.getLast?
  · simpa [none] using asking.bytes
  · simp [none]
  · simpa [none] using asking.count_flushed
  · have seen : Event.shown [.input read] = read.signals := List.append_nil _
    have shown : Event.shown (asked.map .output ++ before.map .input ++ [.input read]) =
        (before ++ [read]).flatMap InputEvent.signals := by simp [seen]
    calc (completed (asked.map .output ++ before.map .input ++ [.input read])).length
        ≤ if after = [] then 1 else 0 := by rw [completed, shown]; exact one
      _ ≤ 1 := by split <;> decide
      _ = _ := by rw [none]; rfl

namespace Turn

variable {segment : List UInt8} {trace : List Event}

theorem ready (h : Turn input output segment trace later) : Event.AtReads (Ready input) trace := by
  obtain ⟨hears, -, -⟩ := h
  exact Event.atReads_append.mpr ⟨hears.ready, Event.atReads_output _⟩

theorem completed_append (h : Turn input output segment trace later) (more : List Event) :
    completed (trace ++ more) = segment :: completed more := by
  obtain ⟨hears, some, -⟩ := h
  rw [completed, Event.shown_append, Event.shown_append, Event.shown_output, List.append_nil,
    hears.shown, Input.cut_readLine hears.reading, List.nil_append, if_neg some]
  rfl

theorem count_flushed (h : Turn input output segment trace later) :
    (Event.calls trace).count .flushed = 2 := by
  obtain ⟨⟨asking, -⟩, -, repeating⟩ := h
  simp [Input.Taken.trace, asking.count_flushed, repeating.count_flushed]

end Turn

/-- A turn that comes before leaves the reads after it as ready as they were. -/
theorem Ready.after_turn {before trace : List Event} {segment : List UInt8} {read : InputEvent}
    (h : Ready input.readLine.input before read) (turn : Turn input output segment trace later) :
    Ready input (trace ++ before) read := by
  have hcompleted := turn.completed_append before
  refine ⟨?_, ?_, ?_, ?_, ?_⟩
  · simp [h.flushed]
  · rw [Event.delivered_append, turn.delivered, h.delivered, hcompleted, List.flatMap_cons,
      List.append_assoc]
  · rw [hcompleted, turn.cutting]
    exact List.cons_prefix_cons.mpr ⟨rfl, h.inOrder⟩
  · rw [Event.calls_append, List.count_append, turn.count_flushed, h.flushes, hcompleted,
      List.length_cons]
    omega
  · rw [List.append_assoc, turn.completed_append, hcompleted]
    exact Nat.succ_le_succ h.completes

theorem Conversation.ready {passage : Passage Unit} (h : Conversation input output passage) :
    Event.AtReads (Ready input) passage.events := by
  induction h with
  | unasked => exact Event.atReads_output _
  | unread hears => exact hears.ready
  | unclosed hears => exact Event.atReads_append.mpr ⟨hears.ready, Event.atReads_output _⟩
  | closed hears => exact Event.atReads_append.mpr ⟨hears.ready, Event.atReads_output _⟩
  | unrepeated hears => exact Event.atReads_append.mpr ⟨hears.ready, Event.atReads_output _⟩
  | next turn _ ih =>
    exact Event.atReads_append.mpr ⟨turn.ready, ih.mono fun _ _ h => h.after_turn turn⟩

/-- From one read to the next, two flushes succeed for each segment that the first one completed. -/
theorem Ready.count_between {before : List Event} {read next : InputEvent}
    {between : List OutputEvent} (first : Ready input before read)
    (second : Ready input (before ++ [.input read] ++ between.map .output) next) :
    2 * (completed before).length + between.count .flushed =
      2 * (completed (before ++ [.input read])).length := by
  have flushes := second.flushes
  have silent : Event.calls [.input read] = [] := rfl
  rw [Event.completed_append_output, Event.calls_append, Event.calls_append, Event.calls_output,
    silent, List.append_nil, List.count_append, first.flushes] at flushes
  omega

/-- For every input and output, and at every read of a conversation, the last call on the output
was a flush that succeeded, and what had been delivered is the echo of each segment completed so
far and one prompt. From a read that completes a segment to the next read, two flushes succeed. -/
theorem converse_ready_at_reads (input : Input) (output : Output) :
    let trace := (interpreter.converse () input output).events
    (∀ before read after, trace = before ++ .input read :: after →
      (Event.calls before).getLast? = some .flushed ∧
        completed before <+: input.cutting.segments ∧
        Event.delivered before = (completed before).flatMap echo ++ promptBytes) ∧
      ∀ before read (between : List OutputEvent) next after,
        trace = before ++ .input read :: (between.map .output ++ .input next :: after) →
        completed (before ++ [.input read]) ≠ completed before → between.count .flushed = 2 := by
  have ready : Event.AtReads (Ready input) (interpreter.converse () input output).events :=
    (converse_conversation 0 input output).ready
  refine ⟨fun before read after hsplit => ?_, fun before read between next after hsplit some => ?_⟩
  · have now := ready before read after hsplit
    exact ⟨now.flushed, now.inOrder, now.delivered⟩
  · have first := ready before read _ hsplit
    have second := ready (before ++ [.input read] ++ between.map .output) next after
      (by simpa using hsplit)
    have count := first.count_between second
    have most := first.completes
    have inOrder := second.inOrder
    rw [Event.completed_append_output] at inOrder
    have grows := List.prefix_of_prefix_length_le first.inOrder inOrder (by omega)
    have longer : (completed before).length ≠ (completed (before ++ [.input read])).length :=
      fun same => some (grows.eq_of_length same).symm
    omega

/-- A read that was interrupted is made again with nothing flushed anew, and the line that it
completes is given back with a prompt before the next read. -/
theorem ready_after_interrupted_read :
    let input : Input := .chunk 0x61 [] (.failing (.plain .interrupted) (.chunk 0x0A [] .exhausted))
    let output : Output := ⟨0, some 2, [], 0, [(4, .plain .other)]⟩
    ∃ before read after, ∃ between : List OutputEvent, ∃ next,
      (interpreter.converse () input output).events =
        before ++ .input read :: (between.map .output ++ .input next :: after) ∧
      before.getLast? = some (.input (.failed .interrupted)) ∧
      Event.delivered before = promptBytes ∧
      completed (before ++ [.input read]) = [[0x61, 0x0A]] ∧ completed before = [] ∧
      between.count .flushed = 2 := by
  intro input output
  let before : List Event := [.output (.accepted [0x3E, 0x3E]), .output (.accepted [0x20]),
    .output .flushed, .input (.took [0x61]), .input (.failed .interrupted)]
  let between : List OutputEvent := [.accepted [0x61, 0x0A], .flushed, .accepted [0x3E, 0x3E],
    .accepted [0x20], .flushed]
  have hsplit : (interpreter.converse () input output).events =
      before ++ .input (.took [0x0A]) :: (between.map .output ++ .input .ended ::
        [.output (.accepted [0x0A]), .output (.flushFailed .other)]) := by decide +kernel
  obtain ⟨ready, flushes⟩ := converse_ready_at_reads input output
  obtain ⟨-, -, delivered⟩ := ready before _ _ hsplit
  have grown : completed (before ++ [.input (.took [0x0A])]) ≠ completed before := by decide
  exact ⟨before, _, _, between, _, hsplit, rfl, delivered, rfl, rfl, flushes _ _ _ _ _ hsplit grown⟩

end Repeater

end InterpreterHost
