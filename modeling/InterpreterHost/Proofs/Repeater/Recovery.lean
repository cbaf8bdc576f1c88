import InterpreterHost.Proofs.Repeater.Conversation

/-! What a conversation delivers tells what was said to it. An input of chunks alone is echoed line
by line, each line behind a prompt, whatever the lines hold (`Repeater.delivered_eq_prompted`).
Taking the transcript apart again gives back the bytes of the input, with a newline at their end
(`Repeater.unprompted_prompted`), so a missing last newline is all that a transcript does not
show. -/

namespace InterpreterHost

/-- Only chunks are still to come. -/
inductive Input.Unbroken : Input → Prop
  | exhausted : Unbroken .exhausted
  | chunk (first : UInt8) (others : List UInt8) {later : Input} (rest : Unbroken later) :
      Unbroken (.chunk first others later)

theorem Input.Unbroken.signals {input : Input} (h : input.Unbroken) :
    input.signals = input.bytes.map .byte := by
  induction h with
  | exhausted => rfl
  | chunk first others _ ih => rw [Input.signals, bytes, List.map_append, ih]

namespace Repeater

/-! ### Lines with their newlines -/

/-- The bytes with a newline at their end, unless there are none. -/
def completed (bytes : List UInt8) : List UInt8 :=
  if bytes = [] then [] else terminated bytes

/-- The lines of a text, each with the newline that ends it. -/
def linesOf (text : List UInt8) : List (List UInt8) :=
  (fields newline text).dropLast.map (· ++ [newline])

/-- The one newline of the line is at its end. -/
def IsLine (line : List UInt8) : Prop :=
  ∃ run, newline ∉ run ∧ line = run ++ [newline]

theorem linesOf_nil : linesOf [] = [] := rfl

/-- A run without a newline is a line with the newline behind it. -/
theorem linesOf_append {run : List UInt8} (h : newline ∉ run) (text : List UInt8) :
    linesOf (run ++ newline :: text) = (run ++ [newline]) :: linesOf text := by
  unfold linesOf
  rw [fields_append_cons, fields_of_not_mem h, List.singleton_append,
    List.dropLast_cons_of_ne_nil (fields_ne_nil newline text), List.map_cons]

theorem isLine_of_mem_linesOf {text line : List UInt8} (h : line ∈ linesOf text) : IsLine line := by
  obtain ⟨run, hrun, rfl⟩ := List.mem_map.mp h
  exact ⟨run, not_mem_of_mem_fields (List.dropLast_subset _ hrun), rfl⟩

/-- Lines put one after another are found again. -/
theorem linesOf_flatten {lines : List (List UInt8)} (h : ∀ line ∈ lines, IsLine line) :
    linesOf lines.flatten = lines := by
  induction lines with
  | nil => rfl
  | cons line lines ih =>
    rw [List.forall_mem_cons] at h
    obtain ⟨run, hrun, rfl⟩ := h.1
    rw [List.flatten_cons, List.append_assoc, List.singleton_append, linesOf_append hrun, ih h.2]

theorem flatten_linesOf {text : List UInt8} (h : text = [] ∨ [newline] <:+ text) :
    (linesOf text).flatten = text := by
  rcases h with rfl | ⟨front, rfl⟩
  · rfl
  · unfold linesOf
    rw [fields_append_cons, show fields newline [] = [[]] from rfl, List.dropLast_concat,
      ← List.flatMap_def, flatMap_fields]

theorem terminated_of_not_mem {run : List UInt8} (h : newline ∉ run) :
    terminated run = run ++ [newline] := by
  apply if_neg
  intro suffix
  exact h (suffix.subset (.head _))

theorem terminated_concat (front : List UInt8) :
    terminated (front ++ [newline]) = front ++ [newline] :=
  if_pos (List.suffix_append front [newline])

/-- A completed text is empty or ends in a newline. -/
theorem completed_ends (bytes : List UInt8) :
    completed bytes = [] ∨ [newline] <:+ completed bytes := by
  unfold completed terminated
  split
  · exact .inl rfl
  · split
    · exact .inr ‹_›
    · exact .inr (List.suffix_append bytes [newline])

theorem completed_append_cons (front bytes : List UInt8) :
    completed (front ++ newline :: bytes) = front ++ newline :: completed bytes := by
  have whole : front ++ newline :: bytes ≠ [] := by simp
  rw [completed, if_neg whole, completed]
  by_cases empty : bytes = []
  · subst empty
    exact terminated_concat front
  · have behind : bytes <:+ front ++ newline :: bytes :=
      (List.suffix_cons newline bytes).trans (List.suffix_append front _)
    have ends : [newline] <:+ front ++ newline :: bytes ↔ [newline] <:+ bytes := by
      constructor
      · intro suffix
        apply List.suffix_of_suffix_length_le suffix behind
        exact List.length_pos_iff.mpr empty
      · intro suffix
        exact suffix.trans behind
    rw [if_neg empty, terminated, terminated]
    by_cases suffix : [newline] <:+ bytes
    · rw [if_pos (ends.mpr suffix), if_pos suffix]
    · rw [if_neg (mt ends.mp suffix), if_neg suffix, List.append_assoc, List.cons_append]

/-! ### Segments of bytes -/

/-- The segments of bytes that nothing interrupts are their lines. What is open grows until its line
ends, so this is said of whatever is open. -/
theorem cut_completed {opened : List UInt8} (h : newline ∉ opened) (bytes : List UInt8) :
    let cutting := Signal.cut opened (bytes.map .byte ++ [.ended, .ended])
    cutting.segments.map terminated = linesOf (completed (opened ++ bytes)) ∧
      cutting.stop = some .ended := by
  induction bytes generalizing opened with
  | nil =>
    rw [List.append_nil]
    by_cases empty : opened = []
    · subst empty
      exact ⟨rfl, rfl⟩
    · rw [completed, if_neg empty, terminated_of_not_mem h, linesOf_append h, linesOf_nil]
      simp [Signal.cut, Cutting.after, empty, terminated_of_not_mem h]
  | cons b bs ih =>
    by_cases hb : b = newline
    · subst hb
      obtain ⟨segments, stop⟩ := ih (List.not_mem_nil (a := newline))
      rw [completed_append_cons, linesOf_append h]
      simp only [List.map_cons, List.cons_append, Signal.cut, if_true, Cutting.after,
        terminated_concat]
      exact ⟨congrArg _ segments, stop⟩
    · have open' : newline ∉ opened ++ [b] := by simp [h, Ne.symm hb]
      have later := ih open'
      rw [List.append_assoc, List.singleton_append] at later
      simp only [List.map_cons, List.cons_append, Signal.cut, if_neg hb]
      exact later

/-! ### Transcripts -/

/-- Every line of a text behind a prompt, and an empty line behind a last one. -/
def prompted (text : List UInt8) : List UInt8 :=
  (linesOf text).flatMap (promptBytes ++ ·) ++ promptBytes ++ [newline]

/-- The lines of a transcript but the last one, each without its first three bytes. -/
def unprompted (transcript : List UInt8) : List UInt8 :=
  (linesOf transcript).dropLast.flatMap (·.drop 3)

theorem IsLine.after_prompt {line : List UInt8} (h : IsLine line) :
    IsLine (promptBytes ++ line) := by
  obtain ⟨run, hrun, rfl⟩ := h
  refine ⟨promptBytes ++ run, ?_, (List.append_assoc ..).symm⟩
  simpa [promptBytes, newline] using hrun

/-- The lines of a text with prompts are those of the text, each behind a prompt, and a last prompt
with its newline. -/
theorem linesOf_prompted (text : List UInt8) :
    linesOf (prompted text) =
      (linesOf text).map (promptBytes ++ ·) ++ [promptBytes ++ [newline]] := by
  have whole : prompted text =
      ((linesOf text).map (promptBytes ++ ·) ++ [promptBytes ++ [newline]]).flatten := by
    simp [prompted, List.flatMap_def]
  rw [whole]
  apply linesOf_flatten
  intro line hline
  rcases List.mem_append.mp hline with hline | hline
  · obtain ⟨told, htold, rfl⟩ := List.mem_map.mp hline
    exact (isLine_of_mem_linesOf htold).after_prompt
  · obtain rfl := List.mem_singleton.mp hline
    exact ⟨promptBytes, by decide, rfl⟩

/-- A text of whole lines is found again behind the prompts. -/
theorem unprompted_prompted {text : List UInt8} (h : text = [] ∨ [newline] <:+ text) :
    unprompted (prompted text) = text := by
  have stripped (line : List UInt8) : (promptBytes ++ line).drop 3 = line := rfl
  rw [unprompted, linesOf_prompted, List.dropLast_concat, List.flatMap_map]
  simp only [stripped]
  rw [List.flatMap_id', flatten_linesOf h]

/-- A conversation delivers its completed input with prompts. -/
theorem delivered_eq_prompted {input : Input} (unbroken : input.Unbroken) {output : Output}
    (clear : output.Clear) :
    Event.delivered (interpreter.converse () input output).events =
      prompted (completed input.bytes) := by
  have talk := converse_conversation 0 input output
  obtain ⟨stop, hstop, -, delivered, -⟩ := talk.complete (talk.calm clear)
  obtain ⟨segments, ended⟩ := cut_completed (List.not_mem_nil (a := newline)) input.bytes
  rw [← unbroken.signals, ← Input.cutting] at segments ended
  obtain rfl : stop = .ended := Option.some.inj (hstop.symm.trans ended)
  rw [List.nil_append] at segments
  show Event.delivered (converse 0 input output).events = _
  rw [delivered, prompted, ← segments, List.flatMap_map]
  rfl

/-- For all inputs of chunks alone and all outputs with nothing in the way: a conversation on one of
the inputs delivers the same as one on another if and only if the inputs have the same bytes, once
bytes that do not end with a newline are given one. A transcript consists of whole lines, and these
without the last one, and without the first three bytes of each, are the bytes of the input with
their newline, whatever else they are. -/
theorem converse_undone {first second : Input} {output output' : Output}
    (hfirst : first.Unbroken) (hsecond : second.Unbroken) (clear : output.Clear)
    (clear' : output'.Clear) :
    let transcript := Event.delivered (interpreter.converse () first output).events
    let other := Event.delivered (interpreter.converse () second output').events
    (transcript = other ↔ completed first.bytes = completed second.bytes) ∧
      (linesOf transcript).flatten = transcript ∧
      unprompted transcript = completed first.bytes := by
  intro transcript other
  have told : transcript = prompted (completed first.bytes) := delivered_eq_prompted hfirst clear
  have told' : other = prompted (completed second.bytes) := delivered_eq_prompted hsecond clear'
  have undone := unprompted_prompted (completed_ends first.bytes)
  have undone' := unprompted_prompted (completed_ends second.bytes)
  rw [told, told']
  refine ⟨⟨?_, ?_⟩, ?_, undone⟩
  · intro same
    rw [← undone, same, undone']
  · intro same
    rw [same]
  · exact flatten_linesOf (.inr (List.suffix_append _ [newline]))

/-- Lines that start as prompts do are recovered too, and a last byte that is no text with the
newline it was given. -/
theorem undone_beside_prompts :
    let first : Input := .chunk 0x3E [0x3E] (.chunk 0x20 [0x0A, 0x0A] (.chunk 0xFF [] .exhausted))
    let second : Input := .chunk 0x3E [0x3E, 0x20, 0x0A, 0x0A, 0xFF, 0x0A] .exhausted
    let output : Output := ⟨5, some 2, [WriteFault.refusing 3 none], 1, [(1, .plain .other)]⟩
    let transcript := Event.delivered (interpreter.converse () first output).events
    first.Unbroken ∧ second.Unbroken ∧ output.Clear ∧ ({} : Output).Clear ∧
      transcript = Event.delivered (interpreter.converse () second {}).events ∧
      unprompted transcript = [0x3E, 0x3E, 0x20, 0x0A, 0x0A, 0xFF, 0x0A] := by
  intro first second output transcript
  have hfirst : first.Unbroken := .chunk _ _ (.chunk _ _ (.chunk _ _ .exhausted))
  have hsecond : second.Unbroken := .chunk _ _ .exhausted
  have clear : output.Clear := ⟨by decide, by decide, by decide⟩
  have clear' : ({} : Output).Clear := ⟨by decide, by decide, by decide⟩
  obtain ⟨same, -, undone⟩ := converse_undone hfirst hsecond clear clear'
  exact ⟨hfirst, hsecond, clear, clear', same.mpr (by decide), undone.trans (by decide)⟩

end Repeater

end InterpreterHost
