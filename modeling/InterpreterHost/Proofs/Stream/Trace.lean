import InterpreterHost.Interpreter
import InterpreterHost.Proofs.Stream.Calls
import InterpreterHost.Proofs.Stream.Segments

/-! Traces of a pair of streams: what holds at their positions, and which of them differ only in how
many calls carried a run of bytes. -/

namespace InterpreterHost

/-! ### Positions

What had been delivered at a successful flush (`Event.Settled`), what holds before each read
(`Event.AtReads`), and a last call that ended the writing (`Passage.BrokeOff`). The first two are
taken apart along a trace by `settled_append_iff` and `atReads_append`, the last one is carried to
the front by `BrokeOff.after`. -/

namespace Event

/-- The event is that of a write or flush call that ended the writing. -/
def isFatal : Event → Bool
  | input _ => false
  | output event => event.isFatal

/-- No write or flush call in a trace ended the writing. -/
def Calm (trace : List Event) : Prop :=
  ∀ event ∈ trace, event.isFatal = false

@[simp] theorem calm_append {xs ys : List Event} : Calm (xs ++ ys) ↔ Calm xs ∧ Calm ys :=
  List.forall_mem_append

@[simp] theorem calm_input (events : List InputEvent) : Calm (events.map .input) := by
  simp [Calm, isFatal]

/-- Calls that all passed are calm. -/
theorem calm_of_reaches {before after : Output} {events : List OutputEvent}
    (h : before.Reaches events after) : Calm (events.map .output) := by
  simpa [Calm, isFatal] using h.not_fatal

/-- Calls of which the last broke off are not calm. -/
theorem not_calm_of_breaksOff {before after : Output} {events : List OutputEvent}
    {failure : Failure} (h : before.BreaksOff events failure after) :
    ¬Calm (events.map .output) := by
  obtain ⟨reaches, breaks⟩ := h
  intro calm
  have := calm (output _) (by simp; exact .inr rfl)
  simp [isFatal, breaks.fatal] at this

@[simp] theorem delivered_output (events : List OutputEvent) :
    delivered (events.map .output) = events.flatMap OutputEvent.bytes := by
  simp [delivered, List.filterMap_map, Function.comp_def, output?]

@[simp] theorem delivered_input (events : List InputEvent) :
    delivered (events.map .input) = [] := by
  simp [delivered, List.filterMap_map, Function.comp_def, output?]

@[simp] theorem taken_output (events : List OutputEvent) : taken (events.map .output) = [] := by
  simp [taken, List.filterMap_map, Function.comp_def, input?]

@[simp] theorem taken_input (events : List InputEvent) :
    taken (events.map .input) = events.flatMap InputEvent.bytes := by
  simp [taken, List.filterMap_map, Function.comp_def, input?]

@[simp] theorem shown_append (xs ys : List Event) : shown (xs ++ ys) = shown xs ++ shown ys := by
  simp [shown]

@[simp] theorem shown_output (events : List OutputEvent) : shown (events.map .output) = [] := by
  simp [shown, List.filterMap_map, Function.comp_def, input?]

@[simp] theorem shown_input (events : List InputEvent) :
    shown (events.map .input) = events.flatMap InputEvent.signals := by
  simp [shown, List.filterMap_map, Function.comp_def, input?]

/-- The calls on the output in a trace. -/
def calls (trace : List Event) : List OutputEvent :=
  trace.filterMap output?

@[simp] theorem calls_append (xs ys : List Event) : calls (xs ++ ys) = calls xs ++ calls ys := by
  simp [calls]

@[simp] theorem calls_output (events : List OutputEvent) : calls (events.map .output) = events := by
  simp [calls, List.filterMap_map, Function.comp_def, output?]

@[simp] theorem calls_input (events : List InputEvent) : calls (events.map .input) = [] := by
  simp [calls, List.filterMap_map, Function.comp_def, output?]

/-! ### Successful flushes -/

/-- Exactly `bytes` had been delivered when some flush succeeded. -/
def Settled (trace : List Event) (bytes : List UInt8) : Prop :=
  ∃ before after, trace = before ++ output .flushed :: after ∧ delivered before = bytes

theorem Settled.append {trace : List Event} {bytes : List UInt8} (h : Settled trace bytes)
    (more : List Event) : Settled (trace ++ more) bytes := by
  obtain ⟨before, after, rfl, hb⟩ := h
  exact ⟨before, after ++ more, by simp, hb⟩

/-- What was delivered before a flush counts toward what it settles. -/
theorem Settled.prepend {trace : List Event} {bytes : List UInt8} (h : Settled trace bytes)
    (first : List Event) : Settled (first ++ trace) (delivered first ++ bytes) := by
  obtain ⟨before, after, rfl, rfl⟩ := h
  exact ⟨first ++ before, after, by simp, by simp⟩

/-- Sending that succeeds settles all that it delivers. -/
theorem settled_of_sends {before after : Output} {bytes : List UInt8} {events : List OutputEvent}
    (h : before.Sends bytes events after) : Settled (events.map .output) bytes := by
  obtain ⟨writes, rfl, -⟩ := h.flushed
  refine ⟨writes.map .output, [], by simp, ?_⟩
  rw [← h.bytes]
  simp [OutputEvent.bytes]

theorem not_settled {trace : List Event} (h : output .flushed ∉ trace) (bytes : List UInt8) :
    ¬Settled trace bytes := by
  rintro ⟨before, after, rfl, -⟩
  exact h (by simp)

/-- What is settled beyond the bytes of the first part of a trace is settled in the second: a flush
in the first part settles no more than was delivered there. -/
theorem settled_append_iff {first second : List Event} {more : List UInt8} (hm : more ≠ []) :
    Settled (first ++ second) (delivered first ++ more) ↔ Settled second more := by
  constructor
  · rintro ⟨before, after, h, hb⟩
    rcases List.append_eq_append_iff.mp h with ⟨mid, rfl, rfl⟩ | ⟨mid, rfl, -⟩
    · exact ⟨mid, after, rfl, by simpa using hb⟩
    · have hl := congrArg List.length hb
      simp only [delivered_append, List.length_append] at hl
      exact absurd (List.eq_nil_of_length_eq_zero (by omega)) hm
  · exact fun h => h.prepend first

/-! ### Reads -/

/-- `P` holds of each read of a trace and of what came before it. -/
def AtReads (P : List Event → InputEvent → Prop) (trace : List Event) : Prop :=
  ∀ before read after, trace = before ++ input read :: after → P before read

theorem AtReads.mono {P Q : List Event → InputEvent → Prop} {trace : List Event}
    (h : AtReads P trace) (hpq : ∀ before read, P before read → Q before read) :
    AtReads Q trace :=
  fun before read after ht => hpq before read (h before read after ht)

/-- What holds at the reads of a trace holds at those of its first part, and at those of its second
part with the first one before them. -/
theorem atReads_append {P : List Event → InputEvent → Prop} {first second : List Event} :
    AtReads P (first ++ second) ↔
      AtReads P first ∧ AtReads (fun before => P (first ++ before)) second := by
  constructor
  · intro h
    refine ⟨fun before read after ht => h before read (after ++ second) (by simp [ht]),
      fun before read after ht => h (first ++ before) read after (by simp [ht])⟩
  · rintro ⟨hf, hs⟩ before read after h
    rcases List.append_eq_append_iff.mp h with ⟨mid, rfl, rfl⟩ | ⟨mid, rfl, hm⟩
    · exact hs mid read after rfl
    · cases mid with
      | nil => exact by simpa using hs [] read after (by simpa using hm.symm)
      | cons head mid =>
        obtain ⟨rfl, -⟩ := List.cons.inj hm
        exact hf before read mid rfl

theorem atReads_output {P : List Event → InputEvent → Prop} (events : List OutputEvent) :
    AtReads P (events.map .output) := by
  intro before read after h
  have : input read ∈ events.map Event.output := by simp [h]
  simp at this

theorem atReads_input {P : List Event → InputEvent → Prop} {events : List InputEvent}
    (h : ∀ before read after, events = before ++ read :: after → P (before.map .input) read) :
    AtReads P (events.map .input) := by
  intro before read after ht
  obtain ⟨before', rest, rfl, rfl, hr⟩ := List.map_eq_append_iff.mp ht
  obtain ⟨read', after', rfl, hread, -⟩ := List.map_eq_cons_iff.mp hr
  obtain rfl := Event.input.inj hread
  exact h before' read' after' rfl

end Event

namespace Passage

variable {σ : Type} {passage : Passage σ} {output middle : Output}

/-- The last of all calls ended the writing on `output`, and its failure is the result. -/
def BrokeOff (passage : Passage σ) (output : Output) : Prop :=
  ∃ before event state failure, passage.events = before ++ [.output event] ∧
    output.Reaches (Event.calls before) state ∧ state.Breaks event failure passage.output ∧
    passage.result = .error failure

/-- A passage broke off if its calls on the output did, after others that passed. -/
theorem brokeOff_of_breaksOff {first : List Event} {events : List OutputEvent} {failure : Failure}
    (reaches : output.Reaches (Event.calls first) middle)
    (breaksOff : middle.BreaksOff events failure passage.output)
    (hevents : passage.events = first ++ events.map .output)
    (hresult : passage.result = .error failure) : passage.BrokeOff output := by
  generalize hlater : passage.output = later at breaksOff
  obtain ⟨others, breaks⟩ := breaksOff
  rename_i state event events
  refine ⟨first ++ events.map .output, event, state, failure, ?_, ?_, hlater ▸ breaks, hresult⟩
  · rw [hevents, List.map_append, List.map_singleton, List.append_assoc]
  · rw [Event.calls_append, Event.calls_output]
    exact reaches.trans others

/-- Calls that all passed may come before. -/
theorem BrokeOff.after {trace : List Event} (h : passage.BrokeOff middle)
    (reaches : output.Reaches (Event.calls trace) middle) :
    (passage.after trace).BrokeOff output := by
  obtain ⟨before, event, state, failure, hlast, others, breaks, result⟩ := h
  refine ⟨trace ++ before, event, state, failure, ?_, ?_, breaks, result⟩
  · rw [Passage.after, hlast, List.append_assoc]
  · rw [Event.calls_append]
    exact reaches.trans others

end Passage

/-! ### Traces that are alike

`Event.Alike` says by the joined traces that two of them differ only in how many calls carried a run
of bytes. It is kept when alike traces are put together (`Alike.append`), so what two parts of a
program do alike they do alike in a row. -/

namespace Event

/-- Joined, the traces are the same. -/
def Alike (xs ys : List Event) : Prop :=
  join xs = join ys

theorem join_cons (event : Event) (trace : List Event) :
    join (event :: trace) = joinCons event (join trace) := rfl

theorem join_append (xs ys : List Event) : join (xs ++ ys) = xs.foldr joinCons (join ys) := by
  rw [join, List.foldr_append, ← join]

/-- Reads that were added up are added up with what follows as each of them would be. -/
theorem joinCons_took (xs ys : List UInt8) (trace : List Event) :
    joinCons (input (.took xs)) (joinCons (input (.took ys)) trace) =
      joinCons (input (.took (xs ++ ys))) trace := by
  unfold joinCons
  rcases trace with _ | ⟨(⟨_ | _ | _⟩ | ⟨_ | _ | _ | _ | _⟩), rest⟩ <;> simp

theorem joinCons_accepted (xs ys : List UInt8) (trace : List Event) :
    joinCons (output (.accepted xs)) (joinCons (output (.accepted ys)) trace) =
      joinCons (output (.accepted (xs ++ ys))) trace := by
  unfold joinCons
  rcases trace with _ | ⟨(⟨_ | _ | _⟩ | ⟨_ | _ | _ | _ | _⟩), rest⟩ <;> simp

/-- An event joined to the front of a trace is joined there to all that comes after the trace. -/
theorem join_joinCons_append (event : Event) (xs ys : List Event) :
    join (joinCons event xs ++ ys) = joinCons event (join (xs ++ ys)) := by
  fun_cases joinCons event xs with
  | case1 xs ys rest => exact (joinCons_took xs ys _).symm
  | case2 xs ys rest => exact (joinCons_accepted xs ys _).symm
  | case3 => rfl

theorem join_join_append (xs ys : List Event) : join (join xs ++ ys) = join (xs ++ ys) := by
  induction xs with
  | nil => rfl
  | cons event xs ih => rw [join_cons, join_joinCons_append, ih, List.cons_append, join_cons]

namespace Alike

variable {xs ys zs xs' ys' : List Event}

theorem refl (xs : List Event) : Alike xs xs := rfl

theorem symm (h : Alike xs ys) : Alike ys xs := Eq.symm h

theorem trans (h₁ : Alike xs ys) (h₂ : Alike ys zs) : Alike xs zs := Eq.trans h₁ h₂

/-- Traces that are alike may be put together. -/
theorem append (h₁ : Alike xs ys) (h₂ : Alike xs' ys') : Alike (xs ++ xs') (ys ++ ys') := by
  unfold Alike at h₁ h₂ ⊢
  calc join (xs ++ xs') = join (join xs ++ xs') := (join_join_append xs xs').symm
    _ = join (join ys ++ ys') := by rw [h₁, join_append, h₂, ← join_append]
    _ = join (ys ++ ys') := join_join_append ys ys'

theorem cons (event : Event) (h : Alike xs ys) : Alike (event :: xs) (event :: ys) :=
  append (refl [event]) h

/-- Traces that are alike deliver the same. -/
theorem delivered (h : Alike xs ys) : Event.delivered xs = Event.delivered ys := by
  rw [← delivered_join xs, h, delivered_join]

theorem taken (h : Alike xs ys) : Event.taken xs = Event.taken ys := by
  rw [← taken_join xs, h, taken_join]

/-- Two reads in a row are alike to one. -/
theorem of_took (xs ys : List UInt8) (trace : List Event) :
    Alike (input (.took xs) :: input (.took ys) :: trace) (input (.took (xs ++ ys)) :: trace) := by
  show joinCons _ (joinCons _ (join trace)) = joinCons _ (join trace)
  exact joinCons_took xs ys (join trace)

/-- Two writes in a row are alike to one. -/
theorem of_accepted (xs ys : List UInt8) (trace : List Event) :
    Alike (output (.accepted xs) :: output (.accepted ys) :: trace)
      (output (.accepted (xs ++ ys)) :: trace) := by
  show joinCons _ (joinCons _ (join trace)) = joinCons _ (join trace)
  exact joinCons_accepted xs ys (join trace)

end Alike

end Event

end InterpreterHost
