import InterpreterHost.Proofs.Repeater.Correspondence
import InterpreterHost.Proofs.Stream.Chunks

/-! How a source is cut into chunks does not show in what the repeater makes of it. A conversation
takes whole lines, and those are read in the same way however they are cut. A copy is a write for
each chunk, which is alike to a single write of all bytes before the source stops
(`copy_alike_write`), whatever is in the way on the output. -/

namespace InterpreterHost

/-- What is left to do on an output when everything before a stop was written. -/
def Stop.conclude : Stop → Output → Output.Sent
  | ended, output => output.flush
  | failed failure, output => ⟨.error failure, output, []⟩

/-- The output's side of an operation. -/
def Passage.sent {σ : Type} (passage : Passage σ) : Output.Sent :=
  ⟨passage.result, passage.output, Event.calls passage.events⟩

namespace Correspondence

/-- The inputs differ in their chunks alone, and the outputs not at all. -/
def chunking : Correspondence where
  inputs first second := first.signals = second.signals
  outputs := Eq
  counts _ := true

theorem chunking_traces {first second : List Event} :
    chunking.Traces first second ↔ Event.Alike first second := by
  have hall : first.filter chunking.counts = first := List.filter_eq_self.mpr fun _ _ => rfl
  rw [Traces, hall]

theorem chunking_sends (sent : Output.Sent) : chunking.Sends sent sent :=
  ⟨rfl, rfl, chunking_traces.mpr (.refl _)⟩

theorem chunking_lawful : chunking.Lawful where
  writeAll ho bytes := by
    obtain rfl := ho
    exact chunking_sends _
  flush ho := by
    obtain rfl := ho
    exact chunking_sends _
  readLine hi := by
    have alike := Input.readLine_alike hi
    exact ⟨alike.result, alike.signals, chunking_traces.mpr alike.events⟩

end Correspondence

namespace Repeater

theorem calls_taken (taken : Input.Taken) : Event.calls taken.trace = [] := by
  rw [Input.Taken.trace, Event.calls_input]

theorem calls_sent (sent : Output.Sent) : Event.calls sent.trace = sent.events := by
  rw [Output.Sent.trace, Event.calls_output]

theorem sent_after_taken (passage : Passage Unit) (taken : Input.Taken) :
    (passage.after taken.trace).sent = passage.sent := by
  simp only [Passage.sent, Passage.after, Event.calls_append, calls_taken, List.nil_append]

/-- What a copy does to its output after writing a chunk is put behind the writing. -/
theorem sent_after_written (passage : Passage Unit) (taken : Input.Taken) {written : Output.Sent}
    (ok : written.result = .ok ()) :
    (passage.after (taken.trace ++ written.trace)).sent =
      written.andThen fun _ => passage.sent := by
  rw [Output.Sent.andThen_of_ok ok]
  simp only [Passage.sent, Passage.after, Event.calls_append, calls_taken, calls_sent,
    List.nil_append]

theorem delivered_sent (passage : Passage Unit) :
    Event.delivered passage.sent.trace = Event.delivered passage.events := by
  rw [Output.Sent.trace, Event.delivered_output]
  rfl

/-- A copy does to its output what one write of all bytes before the stop does, followed by what
the stop calls for: what is left of the source is written after a chunk and concluded in the same
way. -/
theorem copy_alike_write (copied : Nat) (source : Input) (output : Output) :
    (copy copied source output).sent.Alike
      ((output.writeAll source.body).andThen source.stop.conclude) := by
  fun_induction copy copied source output with
  | case1 copied source output taken failure read interrupted ih =>
    obtain ⟨-, hsource⟩ := Input.failed_of_read read
    have hbody : source.body = taken.input.body := by rw [hsource, Input.body, if_pos interrupted]
    have hstop : source.stop = taken.input.stop := by rw [hsource, Input.stop, if_pos interrupted]
    rw [hbody, hstop, sent_after_taken]
    exact ih
  | case2 copied source output taken failure read lasting =>
    obtain ⟨-, hsource⟩ := Input.failed_of_read read
    have hbody : source.body = [] := by rw [hsource, Input.body, if_neg lasting]
    have hstop : source.stop = .failed failure := by rw [hsource, Input.stop, if_neg lasting]
    rw [hbody, hstop, Output.writeAll_nil, Passage.sent, calls_taken]
    exact .refl _
  | case3 copied source output taken read flushed =>
    obtain ⟨-, hbody, hstop⟩ := Input.ended_of_read (by decide) read
    rw [hbody, hstop, Output.writeAll_nil, Passage.sent, Event.calls_append, calls_taken,
      calls_sent]
    exact .refl _
  | case4 copied source output taken b bs read written failure unwritten =>
    obtain ⟨-, -, hbody, -⟩ := Input.took_of_read read (by simp)
    have hsplit := output.writeAll_append (b :: bs) taken.input.body
    rw [Output.Sent.andThen_of_error unwritten, hbody] at hsplit
    have hconclude := hsplit.andThen (.refl (source.stop.conclude _))
    rw [Output.Sent.andThen_of_error unwritten] at hconclude
    rw [Passage.sent, Event.calls_append, calls_taken, calls_sent, List.nil_append, ← unwritten]
    exact hconclude.symm
  | case5 copied source output taken b bs read written writing ih =>
    obtain ⟨-, -, hbody, hstop⟩ := Input.took_of_read read (by simp)
    have hsplit := output.writeAll_append (b :: bs) taken.input.body
    rw [hbody] at hsplit
    have hconclude := hsplit.andThen (.refl (source.stop.conclude _))
    rw [Output.Sent.andThen_assoc, ← hstop] at hconclude
    rw [sent_after_written _ _ writing, ← hstop]
    exact (Output.Sent.Alike.andThen (.refl written) ih).trans hconclude.symm

/-- Sources that differ only in their chunks are copied alike. -/
theorem copy_sent_alike {first second : Input} (same : first.signals = second.signals)
    (copied : Nat) (output : Output) :
    (copy copied first output).sent.Alike (copy copied second output).sent := by
  have hfirst := copy_alike_write copied first output
  have hsecond := copy_alike_write copied second output
  rw [← Input.body_of_signals_eq same, ← Input.stop_of_signals_eq same] at hsecond
  exact hfirst.trans hsecond.symm

/-- A script that is launched is copied as any source that shows the same bytes. -/
theorem launch_alike_copy {host : Host Unit} {scripts : Path → Except Failure (List UInt8)}
    {path : Path} {data : List UInt8} {identity : Identity} {source : Input}
    (repeater : host.interpreter = interpreter) (lookup : host.roster.current = .ok identity)
    (opening : scripts path = .ok data) (shows : source.signals = data.map .byte) :
    let launched := host.launch scripts [path]
    let copied := (copy 0 source host.output).sent
    Event.Alike launched.events copied.trace ∧ launched.host.output = copied.output := by
  intro launched copied
  have same : (Input.ofBytes data).signals = source.signals := by
    rw [shows, Input.signals_ofBytes]
  have alike := copy_sent_alike same 0 host.output
  have hrun : host.asked.interpreter.execute host.asked.state (.ofBytes data) host.asked.output =
      copy 0 (.ofBytes data) host.output := by
    show host.interpreter.execute () (.ofBytes data) host.output = _
    rw [repeater, interpreter]
  have hlaunch := Host.launch_executed lookup opening
  constructor
  · show Event.Alike (host.launch scripts [path]).events _
    rw [hlaunch, Host.execute, hrun]
    exact alike.events
  · show (host.launch scripts [path]).host.output = _
    rw [hlaunch, Host.execute, hrun]
    exact alike.output

/-- For any two sources that differ only in how their bytes are cut into chunks and any output, a
conversation ends in the same way, with the same trace but for how many calls carried a run of
bytes, as many bytes left and the same output. So does a script on the side of its output, and a
launch with a script does to its output what the script does to it from any source that shows the
same bytes. -/
theorem operations_blind_to_chunks {first second : Input} (same : first.signals = second.signals)
    (output : Output) :
    (let one := interpreter.converse () first output
      let other := interpreter.converse () second output
      one.result = other.result ∧ Event.join one.events = Event.join other.events ∧
        one.input.left = other.input.left ∧ one.output = other.output) ∧
    (let one := interpreter.execute () first output
      let other := interpreter.execute () second output
      one.result = other.result ∧ Event.delivered one.events = Event.delivered other.events ∧
        Event.join one.sent.trace = Event.join other.sent.trace ∧ one.output = other.output) ∧
    ∀ (host : Host Unit) (scripts : Path → Except Failure (List UInt8)) (path : Path)
      (data : List UInt8) (identity : Identity), host.interpreter = interpreter →
      host.output = output → host.roster.current = .ok identity → scripts path = .ok data →
      first.signals = data.map .byte →
      let launched := host.launch scripts [path]
      let run := interpreter.execute () first output
      Event.join launched.events = Event.join run.sent.trace ∧
        launched.host.output = run.output := by
  refine ⟨?_, ?_, ?_⟩
  · have talk := Correspondence.chunking_lawful.converse 0 first second output output same rfl
    exact ⟨talk.result, Correspondence.chunking_traces.mp talk.traces,
      Input.left_of_signals_eq talk.inputs, talk.outputs⟩
  · have alike := copy_sent_alike same 0 output
    have delivered := alike.events.delivered
    rw [delivered_sent, delivered_sent] at delivered
    exact ⟨alike.result, delivered, alike.events, alike.output⟩
  · intro host scripts path data identity repeater houtput lookup opening shows
    subst houtput
    exact launch_alike_copy repeater lookup opening shows

/-- An input in one chunk and one in three are copied alike to an output that interrupts the copy
inside a chunk, twice, and then refuses the rest. -/
theorem blind_to_chunks_at_faults :
    let whole : Input := .ofBytes [0x61, 0x62, 0x0A, 0x63]
    let parts : Input := .chunk 0x61 [] (.chunk 0x62 [0x0A] (.chunk 0x63 [] .exhausted))
    let output : Output :=
      ⟨0, none, [⟨1, .interruption, some 2, by decide⟩, WriteFault.refusing 3 none], 0, []⟩
    let host : Host Unit := ⟨.ofList (.ok ⟨"bob"⟩) [], interpreter, (), .exhausted, output⟩
    let scripts (_ : Path) : Except Failure (List UInt8) := .ok [0x61, 0x62, 0x0A, 0x63]
    let launched := host.launch scripts [[0x66]]
    let seen : List Event :=
      [.output (.accepted [0x61]), .output (.failed .interrupted), .output (.failed .interrupted),
        .output (.accepted [0x62, 0x0A]), .output .refused]
    whole.signals = parts.signals ∧ whole ≠ parts ∧
      (interpreter.converse () whole output).output =
        (interpreter.converse () parts output).output ∧
      Event.join (interpreter.execute () parts output).sent.trace = seen ∧
      Event.join launched.events = seen := by
  intro whole parts output host scripts launched seen
  have same : whole.signals = parts.signals := rfl
  obtain ⟨⟨-, -, -, talked⟩, ⟨-, -, copied, -⟩, run⟩ := operations_blind_to_chunks same output
  have hseen : Event.join (interpreter.execute () whole output).sent.trace = seen := by
    decide +kernel
  obtain ⟨events, -⟩ :=
    run host scripts [0x66] [0x61, 0x62, 0x0A, 0x63] ⟨"bob"⟩ rfl rfl rfl rfl rfl
  exact ⟨same, by decide, talked, copied.symm.trans hseen, events.trans hseen⟩

end Repeater

end InterpreterHost
