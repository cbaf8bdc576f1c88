import InterpreterHost.Proofs.Stream.Trace

/-! The courses that a conversation of the repeater can take. A turn asks and hears (`Hears`), and a
whole turn also gives back what it heard (`Turn`); `Conversation` lists how the turns go on and
which call ends them. `converse_conversation` says that every conversation takes one of these
courses, so what holds of all conversations is proved by induction on `Conversation`. -/

namespace InterpreterHost

namespace Repeater

/-- The bytes of `>> `. -/
def promptBytes : List UInt8 := [0x3E, 0x3E, 0x20]

/-- A segment with a newline added if it does not end with one. -/
def terminated (segment : List UInt8) : List UInt8 :=
  if [newline] <:+ segment then segment else segment ++ [newline]

/-- What a whole turn delivers for a segment. -/
def echo (segment : List UInt8) : List UInt8 :=
  promptBytes ++ terminated segment

theorem encode_prompt : Utf8.encode prompt = promptBytes := by decide

/-- What is given back of a line is the segment with its newline. -/
theorem complete_eq_terminated (line : List UInt8) : complete line = terminated line := by
  simp only [complete, terminated, List.singleton_suffix_iff_getLast?_eq_some]

/-- The start of a turn: the prompt is sent, and a line is read with some result. -/
inductive Hears (input : Input) (output : Output) :
    Except Failure (List UInt8) → List Event → Output → Prop
  | intro {asked : List OutputEvent} {result : Except Failure (List UInt8)} {later : Output}
      (asking : output.Sends promptBytes asked later) (reading : input.readLine.result = result) :
      Hears input output result (asked.map .output ++ input.readLine.trace) later

/-- A whole turn: a segment is read and given back. -/
inductive Turn (input : Input) (output : Output) : List UInt8 → List Event → Output → Prop
  | intro {segment : List UInt8} {heard : List Event} {repeated : List OutputEvent}
      {middle later : Output} (hears : Hears input output (.ok segment) heard middle)
      (some : segment ≠ []) (repeating : middle.Sends (terminated segment) repeated later) :
      Turn input output segment (heard ++ repeated.map .output) later

/-- The courses of a conversation over an input and an output, with what it leaves behind. -/
inductive Conversation : Input → Output → Passage Unit → Prop
  | unasked {input : Input} {output later : Output} {asked : List OutputEvent} {failure : Failure}
      (asking : output.FailsToSend promptBytes asked failure later) :
      Conversation input output ⟨.error failure, (), input, later, asked.map .output, []⟩
  | unread {input : Input} {output later : Output} {heard : List Event} {failure : Failure}
      (hears : Hears input output (.error failure) heard later) :
      Conversation input output ⟨.error failure, (), input.readLine.input, later, heard, []⟩
  | unclosed {input : Input} {output middle later : Output} {heard : List Event}
      {closing : List OutputEvent} {failure : Failure}
      (hears : Hears input output (.ok []) heard middle)
      (ending : middle.FailsToSend [newline] closing failure later) :
      Conversation input output
        ⟨.error failure, (), input.readLine.input, later, heard ++ closing.map .output, []⟩
  | closed {input : Input} {output middle later : Output} {heard : List Event}
      {closing : List OutputEvent} {remarks : List Log.Record}
      (hears : Hears input output (.ok []) heard middle)
      (ending : middle.Sends [newline] closing later) :
      Conversation input output
        ⟨.ok (), (), input.readLine.input, later, heard ++ closing.map .output, remarks⟩
  | unrepeated {input : Input} {output middle later : Output} {segment : List UInt8}
      {heard : List Event} {repeated : List OutputEvent} {failure : Failure}
      (hears : Hears input output (.ok segment) heard middle) (some : segment ≠ [])
      (repeating : middle.FailsToSend (terminated segment) repeated failure later) :
      Conversation input output
        ⟨.error failure, (), input.readLine.input, later, heard ++ repeated.map .output, []⟩
  | next {input : Input} {output later : Output} {segment : List UInt8} {trace : List Event}
      {passage : Passage Unit} (turn : Turn input output segment trace later)
      (others : Conversation input.readLine.input later passage) :
      Conversation input output (passage.after trace)

/-- Every conversation takes one of the courses. -/
theorem converse_conversation (lines : Nat) (input : Input) (output : Output) :
    Conversation input output (converse lines input output) := by
  fun_induction converse lines input output with
  | case1 lines input output asked failure unsent =>
    exact .unasked (encode_prompt ▸ Output.send_broken unsent)
  | case2 lines input output asked sent taken failure read =>
    exact .unread (.intro (encode_prompt ▸ Output.send_complete sent) read)
  | case3 lines input output asked sent taken read closed =>
    have hears : Hears input output (.ok []) (asked.trace ++ taken.trace) asked.output :=
      .intro (encode_prompt ▸ Output.send_complete sent) read
    cases hc : closed.result with
    | error failure => exact .unclosed hears (Output.send_broken hc)
    | ok _ => exact .closed hears (Output.send_complete hc)
  | case4 lines input output asked sent taken b bs read repeated failure unsent =>
    refine .unrepeated (.intro (encode_prompt ▸ Output.send_complete sent) read) (by simp) ?_
    rw [← complete_eq_terminated]
    exact Output.send_broken unsent
  | case5 lines input output asked sent taken b bs read repeated resent ih =>
    refine .next (.intro (.intro (encode_prompt ▸ Output.send_complete sent) read) (by simp) ?_) ih
    rw [← complete_eq_terminated]
    exact Output.send_complete resent

namespace Hears

variable {input : Input} {output later : Output} {result : Except Failure (List UInt8)}
  {heard : List Event}

theorem reading (h : Hears input output result heard later) : input.readLine.result = result := by
  cases h; assumption

theorem delivered (h : Hears input output result heard later) :
    Event.delivered heard = promptBytes := by
  obtain ⟨asking, -⟩ := h
  simp [Input.Taken.trace, asking.bytes]

theorem taken (h : Hears input output result heard later) :
    Event.taken heard = input.readLine.events.flatMap InputEvent.bytes := by
  obtain ⟨-, -⟩ := h
  simp [Input.Taken.trace]

/-- The bytes that were heard and those still to come are all there were. -/
theorem conserves (h : Hears input output result heard later) :
    Event.taken heard ++ input.readLine.input.bytes = input.bytes := by
  rw [h.taken, Input.bytes_readLine]

theorem shown (h : Hears input output result heard later) :
    Event.shown heard = input.readLine.events.flatMap InputEvent.signals := by
  obtain ⟨-, -⟩ := h
  simp [Input.Taken.trace]

theorem reaches (h : Hears input output result heard later) :
    output.Reaches (Event.calls heard) later := by
  obtain ⟨asking, -⟩ := h
  simpa [Input.Taken.trace] using asking.reaches

theorem calm (h : Hears input output result heard later) : Event.Calm heard := by
  obtain ⟨asking, -⟩ := h
  simp [Input.Taken.trace, Event.calm_of_reaches asking.reaches]

/-- The prompt had been flushed before the line was read. -/
theorem settled (h : Hears input output result heard later) : Event.Settled heard promptBytes := by
  obtain ⟨asking, -⟩ := h
  exact (Event.settled_of_sends asking).append _

theorem settled_after (h : Hears input output result heard later) {trace : List Event}
    {bytes : List UInt8} (hs : Event.Settled trace bytes) :
    Event.Settled (heard ++ trace) (promptBytes ++ bytes) := by
  have := hs.prepend heard
  rwa [h.delivered] at this

end Hears

namespace Turn

variable {input : Input} {output later : Output} {segment : List UInt8} {trace : List Event}

/-- A whole turn takes the first segment of its input. -/
theorem cutting (h : Turn input output segment trace later) :
    input.cutting = input.readLine.input.cutting.after segment := by
  obtain ⟨hears, some, -⟩ := h
  exact Input.cutting_of_segment hears.reading some

/-- A whole turn delivers the prompt and the segment with its newline. -/
theorem delivered (h : Turn input output segment trace later) :
    Event.delivered trace = echo segment := by
  obtain ⟨hears, -, repeating⟩ := h
  simp [hears.delivered, repeating.bytes, echo]

theorem taken (h : Turn input output segment trace later) : Event.taken trace = segment := by
  obtain ⟨hears, -, -⟩ := h
  simp [hears.taken, Input.events_readLine hears.reading]

theorem conserves (h : Turn input output segment trace later) :
    segment ++ input.readLine.input.bytes = input.bytes := by
  rw [← h.taken]
  obtain ⟨hears, -, -⟩ := h
  simpa using hears.conserves

theorem reaches (h : Turn input output segment trace later) :
    output.Reaches (Event.calls trace) later := by
  obtain ⟨hears, -, repeating⟩ := h
  simpa using hears.reaches.trans repeating.reaches

theorem calm (h : Turn input output segment trace later) : Event.Calm trace := by
  obtain ⟨hears, -, repeating⟩ := h
  simp [hears.calm, Event.calm_of_reaches repeating.reaches]

theorem settled_prompt (h : Turn input output segment trace later) :
    Event.Settled trace promptBytes := by
  obtain ⟨hears, -, -⟩ := h
  exact hears.settled.append _

/-- All that a whole turn delivers is flushed. -/
theorem settled (h : Turn input output segment trace later) :
    Event.Settled trace (echo segment) := by
  obtain ⟨hears, -, repeating⟩ := h
  exact hears.settled_after (Event.settled_of_sends repeating)

end Turn

end Repeater

/-! ### What is delivered

If no call on the output breaks off, a conversation delivers each segment of the input after a
prompt, then a last prompt and, at the end of the input, an empty line (`Conversation.complete`).
On a clear output no call can break off (`Conversation.calm`), so `converse_delivers_transcript`
says it of every input. -/

/-- The last bytes of a conversation, after its last prompt. -/
def Stop.farewell : Stop → List UInt8
  | ended => [newline]
  | failed _ => []

/-- How a conversation ends that nothing but its input stopped. -/
def Stop.result : Stop → Except Failure Unit
  | ended => .ok ()
  | failed failure => .error failure

namespace Repeater

/-- All that a conversation delivers. -/
def transcript (segments : List (List UInt8)) (stop : Stop) : List UInt8 :=
  segments.flatMap echo ++ promptBytes ++ stop.farewell

theorem transcript_nil (stop : Stop) : transcript [] stop = promptBytes ++ stop.farewell := rfl

theorem transcript_cons (segment : List UInt8) (segments : List (List UInt8)) (stop : Stop) :
    transcript (segment :: segments) stop = echo segment ++ transcript segments stop := by
  simp [transcript]

namespace Conversation

variable {input : Input} {output : Output} {passage : Passage Unit}

/-- With nothing in the way no call of a conversation breaks off, since each turn leaves nothing in
the way either. -/
theorem calm (h : Conversation input output passage) (clear : output.Clear) :
    Event.Calm passage.events := by
  induction h with
  | unasked asking => exact absurd asking.breaksOff clear.not_breaksOff
  | unread hears => exact hears.calm
  | unclosed hears ending =>
    exact absurd ending.breaksOff (clear.reaches hears.reaches).not_breaksOff
  | closed hears ending =>
    exact Event.calm_append.mpr ⟨hears.calm, Event.calm_of_reaches ending.reaches⟩
  | unrepeated hears _ repeating =>
    exact absurd repeating.breaksOff (clear.reaches hears.reaches).not_breaksOff
  | next turn _ ih =>
    exact Event.calm_append.mpr ⟨turn.calm, ih (clear.reaches turn.reaches)⟩

/-- A conversation in which no call broke off delivers the transcript of its input and ends as its
input does. It takes the segments, and the bytes of one that a failure left open. -/
theorem complete (h : Conversation input output passage) (calm : Event.Calm passage.events) :
    ∃ stop, input.cutting.stop = some stop ∧ passage.result = stop.result ∧
      Event.delivered passage.events = transcript input.cutting.segments stop ∧
      Event.taken passage.events = input.cutting.segments.flatten ++ input.cutting.opened := by
  induction h with
  | unasked asking => exact absurd calm (Event.not_calm_of_breaksOff asking.breaksOff)
  | @unread input output later heard failure hears =>
    have hcut := Input.cutting_of_failure hears.reading
    refine ⟨.failed failure, by rw [hcut], rfl, ?_, ?_⟩
    · simp [hcut, transcript_nil, Stop.farewell, hears.delivered]
    · simp [hcut, hears.taken]
  | unclosed hears ending =>
    exact absurd (Event.calm_append.mp calm).2 (Event.not_calm_of_breaksOff ending.breaksOff)
  | @closed input output middle later heard closing remarks hears ending =>
    have hcut := Input.cutting_of_end hears.reading
    refine ⟨.ended, by rw [hcut], rfl, ?_, ?_⟩
    · simp [hcut, transcript_nil, Stop.farewell, hears.delivered, ending.bytes]
    · simp [hcut, hears.taken, Input.events_readLine hears.reading]
  | unrepeated hears _ repeating =>
    exact absurd (Event.calm_append.mp calm).2 (Event.not_calm_of_breaksOff repeating.breaksOff)
  | @next input output later segment trace passage turn _ ih =>
    obtain ⟨stop, hstop, result, delivered, taken⟩ := ih (Event.calm_append.mp calm).2
    refine ⟨stop, by rw [turn.cutting]; exact hstop, result, ?_, ?_⟩
    · simp [turn.cutting, transcript_cons, Cutting.after, Passage.after, turn.delivered, delivered]
    · simp [turn.cutting, Cutting.after, Passage.after, turn.taken, taken]

end Conversation

/-- For every input and every output with nothing in the way, a conversation delivers `>> ` and the
segment with its newline for each segment of the input in order, and then a last `>> `. If the
cutting stopped at an end, it also delivers a newline and succeeds; if it stopped at a read that
failed, it ends with that failure, and what was taken of an open segment is lost. -/
theorem converse_delivers_transcript (input : Input) {output : Output} (clear : output.Clear) :
    let passage := interpreter.converse () input output
    ∃ segments opened stop,
      (∀ ends, Signal.cut [] (input.signals ++ List.replicate (ends + 2) .ended) =
        ⟨segments, opened, some stop⟩) ∧
      Event.delivered passage.events = segments.flatMap echo ++ promptBytes ++ stop.farewell ∧
      Event.taken passage.events = segments.flatten ++ opened ∧ passage.result = stop.result := by
  have talk := converse_conversation 0 input output
  obtain ⟨stop, hstop, result, delivered, taken⟩ := talk.complete (talk.calm clear)
  refine ⟨_, _, stop, fun ends => ?_, delivered, taken, result⟩
  rw [input.cut_endless, ← hstop]

/-- An interruption inside a line is passed over, and a segment that a failure left open is taken
but not given back. The faults of the output lie behind it. -/
theorem transcript_of_interrupted_segment :
    let input : Input :=
      .chunk 0x61 [] (.failing (.plain .interrupted) (.chunk 0x62 [0x0A, 0x63]
        (.ended (.chunk 0xFF [] (.failing (.plain .brokenPipe) .exhausted)))))
    let output : Output := ⟨5, some 2, [WriteFault.refusing 3 none], 1, [(1, .plain .other)]⟩
    let passage := interpreter.converse () input output
    output.Clear ∧ passage.result = .error (.plain .brokenPipe) ∧
      Event.delivered passage.events = Utf8.encode ">> ab\n>> c\n>> " ∧
      Event.taken passage.events = [0x61, 0x62, 0x0A, 0x63, 0xFF] := by
  intro input output passage
  have clear : output.Clear := ⟨by decide, by decide, by decide⟩
  obtain ⟨segments, opened, stop, hcut, delivered, taken, result⟩ :=
    converse_delivers_transcript input clear
  cases (hcut 0).symm.trans (show Signal.cut [] (input.signals ++ [.ended, .ended]) =
    ⟨[[0x61, 0x62, 0x0A], [0x63]], [0xFF], some (.failed (.plain .brokenPipe))⟩ from rfl)
  exact ⟨clear, result, delivered, taken⟩

end Repeater

end InterpreterHost
