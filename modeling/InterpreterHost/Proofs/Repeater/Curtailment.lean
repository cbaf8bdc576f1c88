import InterpreterHost.Proofs.Repeater.Conversation

/-! What a conversation over a faulty output still does. Faults only cut it short: what was
delivered is the start of the transcript (`Conversation.delivered_prefix`), the call that broke off
was the last one (`Conversation.broken`), and the segments taken are those of the turns whose
prompt was flushed (`Conversation.begun`). `converse_curtailed` compares with a clear output. -/

namespace InterpreterHost.Repeater

/-- All that is delivered up to and including the prompt of a turn, the first turn being number
0. -/
def upToPrompt (segments : List (List UInt8)) (turn : Nat) : List UInt8 :=
  (segments.take turn).flatMap echo ++ promptBytes

/-- The turns with a prompt that was accepted whole and flushed are the first `turns` ones. Their
segments are what was taken, and all of them but the last one were given back and flushed. -/
structure Begun (segments : List (List UInt8)) (trace : List Event) (turns : Nat) : Prop where
  prompts : ∀ turn ≤ segments.length, Event.Settled trace (upToPrompt segments turn) ↔ turn < turns
  taken : Event.taken trace = (segments.take turns).flatten
  echoes : ∀ turn, turn + 1 < turns →
    Event.Settled trace ((segments.take (turn + 1)).flatMap echo)

/-- A write or flush call ended the conversation: it was the last of all calls, its failure is the
result, and nothing was taken for turns whose prompt was not flushed. -/
structure CutShort (input : Input) (output : Output) (passage : Passage Unit) : Prop where
  broken : passage.BrokeOff output
  turns : ∃ turns, Begun input.cutting.segments passage.events turns

theorem upToPrompt_succ (segment : List UInt8) (segments : List (List UInt8)) (turn : Nat) :
    upToPrompt (segment :: segments) (turn + 1) = echo segment ++ upToPrompt segments turn := by
  simp [upToPrompt]

theorem upToPrompt_ne_nil (segments : List (List UInt8)) (turn : Nat) :
    upToPrompt segments turn ≠ [] := by
  simp [upToPrompt, promptBytes]

theorem promptBytes_prefix_transcript (segments : List (List UInt8)) (stop : Stop) :
    promptBytes <+: transcript segments stop := by
  cases segments with
  | nil => simp [transcript]
  | cons segment segments => simp [transcript, echo]

variable {input : Input} {output later : Output}

/-- No turn has begun before a flush has succeeded. -/
theorem begun_none {trace : List Event} (silent : .output .flushed ∉ trace)
    (taken : Event.taken trace = []) (segments : List (List UInt8)) : Begun segments trace 0 where
  prompts turn _ := iff_of_false (Event.not_settled silent _) (Nat.not_lt_zero turn)
  taken := by rw [taken, List.take_zero, List.flatten_nil]
  echoes turn h := absurd h (Nat.not_lt_zero _)

/-- At the end of an input, the turn that found it is the last one. -/
theorem Hears.begun_at_end {heard : List Event} (h : Hears input output (.ok []) heard later)
    (events : List OutputEvent) : Begun [] (heard ++ events.map .output) 1 where
  prompts turn hturn := by
    obtain rfl : turn = 0 := by simpa using hturn
    exact iff_of_true (h.settled.append _) Nat.one_pos
  taken := by
    rw [Event.taken_append, h.taken, Input.events_readLine h.reading, Event.taken_output]
    rfl
  echoes turn hturn := by omega

/-- A turn that was heard has begun, but no later one as long as nothing else is flushed: more than
the prompt was to be delivered, and only `events` could have settled that. -/
theorem Hears.begun_first {segment : List UInt8} {heard : List Event}
    (h : Hears input output (.ok segment) heard later) {events : List OutputEvent}
    (silent : .flushed ∉ events) (segments : List (List UInt8)) :
    Begun (segment :: segments) (heard ++ events.map .output) 1 where
  prompts turn _ := by
    cases turn with
    | zero => exact iff_of_true (h.settled.append _) Nat.one_pos
    | succ turn =>
      have unsettled : Event.output .flushed ∉ events.map Event.output := by simpa using silent
      rw [upToPrompt_succ, echo, List.append_assoc, ← h.delivered,
        Event.settled_append_iff (by simp [upToPrompt_ne_nil])]
      exact iff_of_false (Event.not_settled unsettled _) (by omega)
  taken := by
    rw [Event.taken_append, h.taken, Input.events_readLine h.reading, Event.taken_output]
    simp
  echoes turn hturn := by omega

theorem Begun.after_turn {segment : List UInt8} {segments : List (List UInt8)}
    {first second : List Event} {turns : Nat} (h : Begun segments second turns)
    (turn : Turn input output segment first later) :
    Begun (segment :: segments) (first ++ second) (turns + 1) where
  prompts n hn := by
    cases n with
    | zero => exact iff_of_true (turn.settled_prompt.append second) (by omega)
    | succ n =>
      have hlength : n ≤ segments.length := Nat.le_of_succ_le_succ hn
      rw [upToPrompt_succ, ← turn.delivered, Event.settled_append_iff (upToPrompt_ne_nil _ _),
        h.prompts n hlength]
      omega
  taken := by rw [Event.taken_append, turn.taken, h.taken, List.take_succ_cons, List.flatten_cons]
  echoes n hn := by
    cases n with
    | zero => simpa using turn.settled.append second
    | succ n =>
      have settled := (h.echoes n (by omega)).prepend first
      rwa [turn.delivered, ← List.flatMap_cons, ← List.take_succ_cons] at settled

namespace Conversation

variable {passage : Passage Unit}

theorem conserves (h : Conversation input output passage) :
    Event.taken passage.events ++ passage.input.bytes = input.bytes := by
  induction h with
  | unasked => simp
  | unread hears => exact hears.conserves
  | unclosed hears => simpa using hears.conserves
  | closed hears => simpa using hears.conserves
  | unrepeated hears => simpa using hears.conserves
  | next turn _ ih =>
    rw [← turn.conserves, ← ih]
    simp [Passage.after, turn.taken]

theorem delivered_prefix (h : Conversation input output passage) {stop : Stop}
    (hstop : input.cutting.stop = some stop) :
    Event.delivered passage.events <+: transcript input.cutting.segments stop := by
  induction h with
  | unasked asking => simpa using asking.bytes.trans (promptBytes_prefix_transcript _ stop)
  | unread hears => exact hears.delivered ▸ promptBytes_prefix_transcript _ stop
  | unclosed hears ending =>
    rw [Input.cutting_of_end hears.reading] at hstop ⊢
    obtain rfl : .ended = stop := Option.some.inj hstop
    simpa [transcript_nil, Stop.farewell, hears.delivered] using ending.bytes
  | closed hears ending =>
    rw [Input.cutting_of_end hears.reading] at hstop ⊢
    obtain rfl : .ended = stop := Option.some.inj hstop
    simp [transcript_nil, Stop.farewell, hears.delivered, ending.bytes]
  | unrepeated hears some repeating =>
    rw [Input.cutting_of_segment hears.reading some]
    simp only [Cutting.after, transcript_cons, echo, Event.delivered_append, hears.delivered,
      Event.delivered_output, List.append_assoc, List.prefix_append_right_inj]
    exact repeating.bytes.trans (List.prefix_append _ _)
  | next turn _ ih =>
    rw [turn.cutting] at hstop ⊢
    simp only [Passage.after, Cutting.after, transcript_cons, Event.delivered_append,
      turn.delivered, List.prefix_append_right_inj]
    exact ih hstop

theorem broken (h : Conversation input output passage) (loud : ¬Event.Calm passage.events) :
    passage.BrokeOff output := by
  induction h with
  | @unasked _ output _ _ _ asking =>
    have unused : output.Reaches (Event.calls []) output := .refl output
    exact Passage.brokeOff_of_breaksOff unused asking.breaksOff rfl rfl
  | unread hears => exact absurd hears.calm loud
  | unclosed hears ending =>
    exact Passage.brokeOff_of_breaksOff hears.reaches ending.breaksOff rfl rfl
  | closed hears ending =>
    exact absurd (Event.calm_append.mpr ⟨hears.calm, Event.calm_of_reaches ending.reaches⟩) loud
  | unrepeated hears _ repeating =>
    exact Passage.brokeOff_of_breaksOff hears.reaches repeating.breaksOff rfl rfl
  | next turn _ ih =>
    have broken := ih fun calm => loud (Event.calm_append.mpr ⟨turn.calm, calm⟩)
    exact broken.after turn.reaches

theorem begun (h : Conversation input output passage) (loud : ¬Event.Calm passage.events) :
    ∃ turns, Begun input.cutting.segments passage.events turns := by
  induction h with
  | unasked asking =>
    exact ⟨0, begun_none (by simpa using asking.unflushed) (Event.taken_output _) _⟩
  | unread hears => exact absurd hears.calm loud
  | unclosed hears ending =>
    rw [Input.cutting_of_end hears.reading]
    exact ⟨1, hears.begun_at_end _⟩
  | closed hears ending =>
    exact absurd (Event.calm_append.mpr ⟨hears.calm, Event.calm_of_reaches ending.reaches⟩) loud
  | unrepeated hears some repeating =>
    rw [Input.cutting_of_segment hears.reading some]
    exact ⟨1, hears.begun_first repeating.unflushed _⟩
  | next turn _ ih =>
    obtain ⟨turns, begun⟩ := ih fun calm => loud (Event.calm_append.mpr ⟨turn.calm, calm⟩)
    rw [turn.cutting]
    exact ⟨turns + 1, begun.after_turn turn⟩

end Conversation

/-- For every input and output, a conversation delivers the start of what it delivers to a clear
output, and takes the start of its input. If no write or flush call ended it, it delivers all of
that and ends as it does there. -/
theorem converse_curtailed (input : Input) (output : Output) {clean : Output}
    (clear : clean.Clear) :
    let passage := interpreter.converse () input output
    let ideal := interpreter.converse () input clean
    Event.delivered passage.events <+: Event.delivered ideal.events ∧
      Event.taken passage.events ++ passage.input.bytes = input.bytes ∧
      (Event.Calm passage.events →
        Event.delivered passage.events = Event.delivered ideal.events ∧
          passage.result = ideal.result) ∧
      (¬Event.Calm passage.events → CutShort input output passage) := by
  have talk := converse_conversation 0 input output
  have cleanTalk := converse_conversation 0 input clean
  obtain ⟨stop, hstop, result, delivered, -⟩ := cleanTalk.complete (cleanTalk.calm clear)
  refine ⟨?_, talk.conserves, fun calm => ?_, fun loud => ⟨talk.broken loud, talk.begun loud⟩⟩
  · exact delivered ▸ talk.delivered_prefix hstop
  · obtain ⟨stop', hstop', result', delivered', -⟩ := talk.complete calm
    obtain rfl : stop' = stop := Option.some.inj (hstop'.symm.trans hstop)
    exact ⟨delivered'.trans delivered.symm, result'.trans result.symm⟩

/-- Three interruptions of one write are passed over, and at the refusal in the second turn the
conversation is cut short. -/
theorem curtailed_after_second_prompt :
    let input : Input := .chunk 0x61 [0x0A, 0x62] (.ended (.chunk 0x63 [] .exhausted))
    let output : Output :=
      ⟨0, some 2, [⟨4, .interruption, some 3, by decide⟩, WriteFault.refusing 8 none], 0, []⟩
    let clean : Output := {}
    let passage := interpreter.converse () input output
    clean.Clear ∧ CutShort input output passage ∧
      Event.delivered passage.events <+: Utf8.encode ">> a\n>> b\n>> c\n>> \n" ∧
      Event.taken passage.events = [0x61, 0x0A, 0x62] := by
  intro input output clean passage
  have clear : clean.Clear := ⟨by decide, by decide, by decide⟩
  have ideal : Event.delivered (interpreter.converse () input clean).events =
      Utf8.encode ">> a\n>> b\n>> c\n>> \n" := by decide +kernel
  have loud : ¬Event.Calm passage.events := by
    unfold Event.Calm
    decide +kernel
  obtain ⟨start, -, -, curtailed⟩ := converse_curtailed input output clear
  exact ⟨clear, curtailed loud, ideal ▸ start, by decide +kernel⟩

end InterpreterHost.Repeater
