import InterpreterHost.Launch
import InterpreterHost.Proofs.Stream.Pieces

/-! Texts that are sent as a whole. Bytes sent in pieces are sent like all of them at once
(`Output.sendPieces_alike`), which is said of greetings in `Greeting.write_alike_whole`.
`Output.Delivery` lists what is left behind when a text is sent at once, whatever faults it meets.
`Report.deliver_made_first` says it of reports: all of a report is made before any of it is
written, and it is flushed only if all of it was accepted. -/

namespace InterpreterHost

namespace Output

variable {output : Output} {bytes : List UInt8}

/-! ### Pieces and the whole -/

theorem Sent.Alike.bytes_eq {first second : Sent} (h : first.Alike second) :
    first.bytes = second.bytes := by
  have delivered := h.events.delivered
  rwa [Sent.trace, Sent.trace, Event.delivered_output, Event.delivered_output] at delivered

/-- Pieces sent in turn are sent like all their bytes at once. -/
theorem sendPieces_alike (output : Output) (pieces : List (List UInt8)) :
    (output.sendPieces pieces).Alike (output.send pieces.flatten) := by
  induction pieces generalizing output with
  | nil =>
    have empty : (output.writeAll []).result = .ok () := by rw [writeAll_nil]
    rw [List.flatten_nil, send, Sent.andThen_of_ok empty, writeAll_nil]
    exact .refl _
  | cons piece pieces ih =>
    have later := ih (output.writeAll piece).output
    have whole := (output.writeAll_append piece pieces.flatten).andThen (.refl (flush _))
    rw [Sent.andThen_assoc] at whole
    rw [sendPieces, List.flatten_cons]
    exact ((Sent.Alike.refl _).andThen later).trans whole.symm

/-! ### What sending leaves behind -/

/-- What is left behind when `bytes` are sent to `output`. The bytes accepted are the first of them.
There is a flush if and only if these are all, and then it is the last call and the only flush. The
sending succeeds if and only if that flush does; otherwise its failure is that of the first call
that ended it. -/
structure Delivery (output : Output) (bytes : List UInt8) (sent : Sent) : Prop where
  start : sent.bytes <+: bytes
  accepted : sent.output.accepted = output.accepted + sent.bytes.length
  flushed : sent.bytes = bytes → ∃ writes flush, sent.events = writes ++ [flush] ∧
    flush.isFlush = true ∧ ∀ event ∈ writes, event.isFlush = false
  unflushed : sent.bytes ≠ bytes → ∀ event ∈ sent.events, event.isFlush = false
  ok_iff : sent.result = .ok () ↔ sent.bytes = bytes ∧ .flushed ∈ sent.events
  error : ∀ failure, sent.result = .error failure → ∃ before event state,
    sent.events = before ++ [event] ∧ (∀ earlier ∈ before, earlier.isFatal = false) ∧
      output.Reaches before state ∧ state.Breaks event failure sent.output

theorem Sent.From.send (output : Output) (bytes : List UInt8) : From output (output.send bytes) :=
  (writeAll output bytes).andThen flush

/-- Calls that ended in a failure ended at the first call that could end them. -/
theorem Sent.From.first_fatal {sent : Sent} (h : sent.From output) {failure : Failure}
    (failed : sent.result = .error failure) :
    ∃ before event state, sent.events = before ++ [event] ∧
      (∀ earlier ∈ before, earlier.isFatal = false) ∧ output.Reaches before state ∧
      state.Breaks event failure sent.output := by
  cases h with
  | passed reaches => cases failed
  | broke breaksOff =>
    obtain rfl := Except.error.inj failed
    obtain ⟨reaches, breaks⟩ := breaksOff
    exact ⟨_, _, _, rfl, reaches.not_fatal, reaches, breaks⟩

theorem send_unwritten {failure : Failure} (h : (output.writeAll bytes).result = .error failure) :
    output.send bytes = output.writeAll bytes :=
  Sent.andThen_of_error h flush

/-- After everything was written there is one flush, and the sending succeeds if that does. -/
theorem send_written (h : (output.writeAll bytes).result = .ok ()) :
    ∃ flush, (output.send bytes).events = (output.writeAll bytes).events ++ [flush] ∧
      flush.isFlush = true ∧ flush.bytes = [] ∧
      ((output.send bytes).result = .ok () ↔ flush = .flushed) := by
  have sent : output.send bytes = _ := Sent.andThen_of_ok h flush
  rw [sent]
  cases flushing : (output.writeAll bytes).output.flush.result with
  | ok _ =>
    refine ⟨.flushed, ?_, rfl, rfl, ?_⟩
    · rw [← events_flush_of_ok flushing]
    · simp
  | error failure =>
    refine ⟨.flushFailed failure.kind, ?_, rfl, rfl, ?_⟩
    · rw [← events_flush_of_error flushing]
    · simp

theorem delivery_unwritten {failure : Failure}
    (h : (output.writeAll bytes).result = .error failure) :
    output.Delivery bytes (output.send bytes) := by
  have whole := Sent.From.send output bytes
  obtain ⟨-, rest, left, delivered⟩ := writeAll_broken h
  rw [send_unwritten h] at whole ⊢
  have missing : (output.writeAll bytes).bytes ≠ bytes := by
    intro all
    rw [all] at delivered
    exact left (List.append_right_eq_self.mp delivered)
  refine ⟨⟨rest, delivered⟩, whole.accepted_eq, ?_, fun _ => output.isFlush_writeAll bytes, ?_,
    fun _ => whole.first_fatal⟩
  · intro all
    exact absurd all missing
  · constructor
    · intro ok
      cases h.symm.trans ok
    · rintro ⟨all, -⟩
      exact absurd all missing

theorem delivery_written (h : (output.writeAll bytes).result = .ok ()) :
    output.Delivery bytes (output.send bytes) := by
  have whole := Sent.From.send output bytes
  have writes := output.isFlush_writeAll bytes
  obtain ⟨-, delivered⟩ := writeAll_complete h
  obtain ⟨flush, events, isFlush, silent, ok_iff⟩ := send_written h
  have all : (output.send bytes).bytes = bytes := by
    rw [Sent.bytes, events, List.flatMap_append, List.flatMap_singleton, silent, ← Sent.bytes,
      delivered, List.append_nil]
  have start : (output.send bytes).bytes <+: bytes := ⟨[], (List.append_nil _).trans all⟩
  refine ⟨start, whole.accepted_eq, ?_, ?_, ?_, fun _ => whole.first_fatal⟩
  · intro _
    exact ⟨_, flush, events, isFlush, writes⟩
  · intro missing
    exact absurd all missing
  · rw [ok_iff, events, List.mem_append, List.mem_singleton]
    constructor
    · rintro rfl
      exact ⟨all, .inr rfl⟩
    · rintro ⟨-, early | last⟩
      · cases writes _ early
      · exact last.symm

/-- Whatever is sent to an output is delivered in this way. -/
theorem send_delivery (output : Output) (bytes : List UInt8) :
    output.Delivery bytes (output.send bytes) := by
  cases writing : (output.writeAll bytes).result with
  | error failure => exact delivery_unwritten writing
  | ok _ => exact delivery_written writing

end Output

/-! ### Greetings -/

theorem Utf8.encode_append (s t : String) : encode (s ++ t) = encode s ++ encode t := by
  simp [encode]

/-- The bytes of a greeting are those of its text. -/
theorem Greeting.bytes_eq (identity : Identity) :
    bytes identity = Utf8.encode ("Hello " ++ identity.name ++
      "! This is the Monkey programming language!\nFeel free to type in commands\n") := by
  have lines : "! This is the Monkey programming language!\nFeel free to type in commands\n" =
      "! This is the Monkey programming language!\n" ++ "Feel free to type in commands\n" := by
    decide
  rw [lines, Utf8.encode_append, Utf8.encode_append, Utf8.encode_append]
  simp [bytes, pieces]

/-- For every identity and every output: a greeting, although it is written in pieces, leaves behind
what one write of its whole text does and, if all of that was accepted, one flush. So the first of
its bytes are accepted. -/
theorem Greeting.write_alike_whole (identity : Identity) (output : Output) :
    let text := Utf8.encode ("Hello " ++ identity.name ++
      "! This is the Monkey programming language!\nFeel free to type in commands\n")
    let greeted := write identity output
    let whole := (output.writeAll text).andThen Output.flush
    greeted.result = whole.result ∧ greeted.bytes = whole.bytes ∧
      Event.join greeted.trace = Event.join whole.trace ∧ greeted.output = whole.output ∧
      greeted.bytes <+: text := by
  intro text greeted whole
  have hflatten : ((pieces identity).map Utf8.encode).flatten = text := by
    rw [← List.flatMap_def]
    exact bytes_eq identity
  have alike : greeted.Alike whole := by
    have pieced := output.sendPieces_alike ((pieces identity).map Utf8.encode)
    rw [hflatten] at pieced
    exact pieced
  have start := (output.send_delivery text).start
  exact ⟨alike.result, alike.bytes_eq, alike.events, alike.output, alike.bytes_eq ▸ start⟩

/-! ### Reports -/

/-- For every appearance, diagnostic and output: if the diagnostic cannot be put into words, the
delivery fails for a reason of its own and the output is untouched. Otherwise the bytes of the
report, which the output has no part in, are sent at once. -/
theorem Report.deliver_made_first (appearance : Appearance) (d : Diagnostic) (output : Output) :
    let sent := deliver appearance d output
    (d.formattable = false → ∃ failure, sent.result = .error failure ∧ failure.kind = .other ∧
      sent.output = output ∧ sent.events = []) ∧
    (d.formattable = true → output.Delivery (bytes appearance d) sent) := by
  intro sent
  constructor
  · intro unformattable
    have silent : sent = ⟨.error Report.unformattable, output, []⟩ := by
      simp [sent, deliver, unformattable]
    rw [silent]
    exact ⟨Report.unformattable, rfl, rfl, rfl, rfl⟩
  · intro formattable
    have whole : sent = output.send (bytes appearance d) := by
      simp [sent, deliver, formattable]
    rw [whole]
    exact output.send_delivery (bytes appearance d)

/-- A report on its way to an output that refuses, and none for a diagnostic that cannot be put
into words. -/
theorem Report.made_first_or_untouched :
    let worded : Diagnostic := { message := "unknown", causes := [] }
    let unworded := { worded with formattable := false }
    let output : Output := { faults := [.refusing 3 none], flushFaults := [(0, .plain .other)] }
    worded.formattable = true ∧ unworded.formattable = false ∧
      output.Delivery (bytes ⟨true, .unicode⟩ worded) (deliver ⟨true, .unicode⟩ worded output) ∧
      (deliver ⟨true, .unicode⟩ unworded output).output = output := by
  intro worded unworded output
  obtain ⟨failure, -, -, untouched, -⟩ :=
    (deliver_made_first ⟨true, .unicode⟩ unworded output).1 rfl
  exact ⟨rfl, rfl, (deliver_made_first ⟨true, .unicode⟩ worded output).2 rfl, untouched⟩

end InterpreterHost
