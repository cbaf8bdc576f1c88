import InterpreterHost.Stream

/-! What the single calls behind a run of writes can do. A call lets the writer go on
(`Output.Passes`) or breaks the writing off for good (`Output.Breaks`), and calls that pass lead
from one state of an output to another (`Output.Reaches`). `writeAll_complete` and
`writeAll_broken` say what is behind the two results of writing, `send_complete` and `send_broken`
what is behind those of writing and flushing. -/

namespace InterpreterHost

/-- The event is that of a flush call. -/
def OutputEvent.isFlush : OutputEvent → Bool
  | flushed | flushFailed _ => true
  | _ => false

/-- The event is that of a call that ended the writing: a failure for good, or nothing accepted. -/
def OutputEvent.isFatal : OutputEvent → Bool
  | accepted _ | flushed => false
  | failed kind => kind != .interrupted
  | refused | flushFailed _ => true

theorem WriteFault.room_le (offset : Nat) (faults : List WriteFault) (wanted : Nat) :
    room offset faults wanted ≤ wanted := by
  induction faults with
  | nil => exact Nat.le_refl wanted
  | cons fault faults ih =>
    simp only [room, List.foldr_cons] at ih ⊢
    split
    · exact Nat.le_trans (Nat.min_le_right _ _) ih
    · exact ih

theorem WriteFault.room_pos {wanted : Nat} (h : 0 < wanted) (offset : Nat)
    (faults : List WriteFault) : 0 < room offset faults wanted := by
  induction faults with
  | nil => exact h
  | cons fault faults ih =>
    simp only [room, List.foldr_cons] at ih ⊢
    split
    · next hf => exact Nat.lt_min.mpr ⟨by omega, ih⟩
    · exact ih

namespace Output

/-- A call on `output` after which the writer goes on, with the output after it. -/
inductive Passes (output : Output) : OutputEvent → Output → Prop
  | accepted {b : UInt8} {bytes others : List UInt8} (unmet : output.meet? = none)
      (room : output.room (b :: bytes ++ others).length = (b :: bytes).length) :
      Passes output (.accepted (b :: bytes)) (output.accept (b :: bytes).length)
  | interrupted {later : Output} (met : output.meet? = some (.interruption, later)) :
      Passes output (.failed .interrupted) later
  | flushed (quiet : output.flush.result = .ok ()) : Passes output .flushed output.flush.output

/-- A call on `output` that ends the writing with a failure, with the output after it. -/
inductive Breaks (output : Output) : OutputEvent → Failure → Output → Prop
  | refused {later : Output} (met : output.meet? = some (.refusal, later)) :
      Breaks output .refused .nothingAccepted later
  | full {wanted : Nat} (unmet : output.meet? = none) (room : output.room (wanted + 1) = 0) :
      Breaks output .refused .nothingAccepted output
  | failed {failure : Failure} {lasting : failure.kind ≠ .interrupted} {later : Output}
      (met : output.meet? = some (.failure failure lasting, later)) :
      Breaks output (.failed failure.kind) failure later
  | unflushed {failure : Failure} (loud : output.flush.result = .error failure) :
      Breaks output (.flushFailed failure.kind) failure output.flush.output

/-- Calls that all passed lead from one state of an output to another. -/
inductive Reaches : Output → List OutputEvent → Output → Prop
  | refl (output : Output) : Reaches output [] output
  | step {output middle later : Output} {event : OutputEvent} {events : List OutputEvent}
      (passes : output.Passes event middle) (reaches : Reaches middle events later) :
      Reaches output (event :: events) later

/-- Calls of which all but the last passed, and the last one ended the writing with `failure`. -/
inductive BreaksOff (output : Output) : List OutputEvent → Failure → Output → Prop
  | intro {state later : Output} {event : OutputEvent} {events : List OutputEvent}
      {failure : Failure} (reaches : output.Reaches events state)
      (breaks : state.Breaks event failure later) :
      BreaksOff output (events ++ [event]) failure later

/-- A call after which the writer goes on is not fatal. -/
theorem Passes.not_fatal {output later : Output} {event : OutputEvent}
    (h : output.Passes event later) : event.isFatal = false := by
  cases h <;> rfl

/-- A call that ends the writing is fatal. -/
theorem Breaks.fatal {output later : Output} {event : OutputEvent} {failure : Failure}
    (h : output.Breaks event failure later) : event.isFatal = true := by
  cases h with
  | failed met => rename_i lasting; simpa [OutputEvent.isFatal] using lasting
  | _ => rfl

theorem Reaches.trans {output middle later : Output} {first second : List OutputEvent}
    (h₁ : output.Reaches first middle) (h₂ : middle.Reaches second later) :
    output.Reaches (first ++ second) later := by
  induction h₁ with
  | refl => exact h₂
  | step passes _ ih => exact .step passes (ih h₂)

theorem Reaches.not_fatal {output later : Output} {events : List OutputEvent}
    (h : output.Reaches events later) : ∀ event ∈ events, event.isFatal = false := by
  induction h with
  | refl => simp
  | step passes _ ih => simpa using ⟨passes.not_fatal, ih⟩

theorem Reaches.breaksOff {output middle later : Output} {first second : List OutputEvent}
    {failure : Failure} (h₁ : output.Reaches first middle)
    (h₂ : middle.BreaksOff second failure later) :
    output.BreaksOff (first ++ second) failure later := by
  cases h₂ with
  | intro reaches breaks =>
    rw [← List.append_assoc]
    exact .intro (h₁.trans reaches) breaks

theorem Passes.breaksOff {output middle later : Output} {event : OutputEvent}
    {events : List OutputEvent} {failure : Failure} (h₁ : output.Passes event middle)
    (h₂ : middle.BreaksOff events failure later) :
    output.BreaksOff (event :: events) failure later :=
  Reaches.breaksOff (.step h₁ (.refl _)) h₂

theorem Breaks.breaksOff {output later : Output} {event : OutputEvent} {failure : Failure}
    (h : output.Breaks event failure later) : output.BreaksOff [event] failure later :=
  .intro (.refl output) h

/-- The bytes that a run of calls delivered. -/
def Sent.bytes (sent : Sent) : List UInt8 :=
  sent.events.flatMap OutputEvent.bytes

/-- `events` are calls on `output` by which `bytes` were accepted and then flushed, once. -/
structure Sends (output : Output) (bytes : List UInt8) (events : List OutputEvent)
    (later : Output) : Prop where
  reaches : output.Reaches events later
  bytes : events.flatMap OutputEvent.bytes = bytes
  flushed : ∃ writes, events = writes ++ [.flushed] ∧ ∀ event ∈ writes, event.isFlush = false

/-- `events` are calls on `output` to send `bytes`, the last of which broke off. -/
structure FailsToSend (output : Output) (bytes : List UInt8) (events : List OutputEvent)
    (failure : Failure) (later : Output) : Prop where
  breaksOff : output.BreaksOff events failure later
  bytes : events.flatMap OutputEvent.bytes <+: bytes
  unflushed : .flushed ∉ events

theorem room_le (output : Output) (wanted : Nat) : output.room wanted ≤ wanted := by
  have h := WriteFault.room_le output.accepted output.faults (output.limit.elim wanted (min wanted))
  unfold room
  cases hl : output.limit with
  | none => rw [hl] at h; exact h
  | some limit => rw [hl] at h; exact Nat.le_trans h (Nat.min_le_left wanted limit)

/-- The call that meets no obstacle passes if there is room for a byte. -/
theorem passes_of_room {output : Output} {b : UInt8} {bs : List UInt8} {n : Nat}
    (unmet : output.meet? = none) (room : output.room (bs.length + 1) = n + 1) :
    output.Passes (.accepted (b :: bs.take n)) (output.accept (n + 1)) := by
  have hn : n ≤ bs.length := by have := output.room_le (bs.length + 1); omega
  have hlen : (b :: bs.take n).length = n + 1 := by simp [hn]
  have hoffer : (b :: bs.take n ++ bs.drop n).length = bs.length + 1 := by
    rw [List.cons_append, List.take_append_drop, List.length_cons]
  rw [← hlen]
  exact @Passes.accepted output b (bs.take n) (bs.drop n) unmet (by rw [hoffer, room, hlen])

/-- Writing does not flush. -/
theorem isFlush_writeAll (output : Output) (bytes : List UInt8) :
    ∀ event ∈ (output.writeAll bytes).events, event.isFlush = false := by
  fun_induction writeAll output bytes with
  | case1 => simp
  | case2 output b bs later met ih => simpa [Sent.after, OutputEvent.isFlush] using ih
  | case3 => simp [OutputEvent.isFlush]
  | case4 => simp [OutputEvent.isFlush]
  | case5 => simp [OutputEvent.isFlush]
  | case6 output b bs unmet n room ih => simpa [Sent.after, OutputEvent.isFlush] using ih

/-- Writing that succeeds made calls that passed, and they delivered everything. -/
theorem writeAll_complete {output : Output} {bytes : List UInt8}
    (h : (output.writeAll bytes).result = .ok ()) :
    output.Reaches (output.writeAll bytes).events (output.writeAll bytes).output ∧
      (output.writeAll bytes).bytes = bytes := by
  fun_induction writeAll output bytes with
  | case1 output => exact ⟨.refl output, rfl⟩
  | case2 output b bs later met ih =>
    obtain ⟨reaches, delivered⟩ := ih h
    exact ⟨.step (.interrupted met) reaches, delivered⟩
  | case3 => simp at h
  | case4 => simp at h
  | case5 => simp at h
  | case6 output b bs unmet n room ih =>
    obtain ⟨reaches, delivered⟩ := ih h
    refine ⟨.step (passes_of_room unmet room) reaches, ?_⟩
    simp only [Sent.bytes] at delivered
    simp [Sent.bytes, Sent.after, OutputEvent.bytes, delivered]

/-- Writing that fails broke off at its last call, with something still to be delivered. -/
theorem writeAll_broken {output : Output} {bytes : List UInt8} {failure : Failure}
    (h : (output.writeAll bytes).result = .error failure) :
    output.BreaksOff (output.writeAll bytes).events failure (output.writeAll bytes).output ∧
      ∃ rest, rest ≠ [] ∧ (output.writeAll bytes).bytes ++ rest = bytes := by
  fun_induction writeAll output bytes with
  | case1 => simp at h
  | case2 output b bs later met ih =>
    obtain ⟨breaksOff, rest, some, delivered⟩ := ih h
    exact ⟨(Passes.interrupted met).breaksOff breaksOff, rest, some, delivered⟩
  | case3 output b bs later met =>
    obtain rfl : _ = failure := Except.error.inj h
    exact ⟨(Breaks.refused met).breaksOff, b :: bs, by simp, rfl⟩
  | case4 output b bs cause lasting later met =>
    obtain rfl : cause = failure := Except.error.inj h
    exact ⟨(Breaks.failed met).breaksOff, b :: bs, by simp, rfl⟩
  | case5 output b bs unmet room =>
    obtain rfl : _ = failure := Except.error.inj h
    exact ⟨(Breaks.full unmet room).breaksOff, b :: bs, by simp, rfl⟩
  | case6 output b bs unmet n room ih =>
    obtain ⟨breaksOff, rest, some, delivered⟩ := ih h
    refine ⟨(passes_of_room unmet room).breaksOff breaksOff, rest, some, ?_⟩
    simp only [Sent.bytes] at delivered
    simp [Sent.bytes, Sent.after, OutputEvent.bytes, delivered]

theorem output_flush (output : Output) :
    output.flush.output = { output with flushes := output.flushes + 1 } := by
  simp only [flush]
  split <;> rfl

theorem events_flush_of_ok {output : Output} (h : output.flush.result = .ok ()) :
    output.flush.events = [.flushed] := by
  simp only [flush] at h ⊢
  split at h
  · simp at h
  · rfl

theorem events_flush_of_error {output : Output} {failure : Failure}
    (h : output.flush.result = .error failure) :
    output.flush.events = [.flushFailed failure.kind] := by
  simp only [flush] at h ⊢
  split at h
  · rw [Except.error.inj h]
  · simp at h

/-- A flush is one call and delivers nothing. -/
theorem events_flush (output : Output) :
    ∃ event, output.flush.events = [event] ∧ event.bytes = [] ∧ event.isFlush = true := by
  cases h : output.flush.result with
  | ok _ => exact ⟨_, events_flush_of_ok h, rfl, rfl⟩
  | error failure => exact ⟨_, events_flush_of_error h, rfl, rfl⟩

/-- Sending that succeeds wrote everything and then flushed. -/
theorem send_complete {output : Output} {bytes : List UInt8}
    (h : (output.send bytes).result = .ok ()) :
    output.Sends bytes (output.send bytes).events (output.send bytes).output := by
  have hw := output.isFlush_writeAll bytes
  simp only [send, Sent.andThen] at h ⊢
  cases hr : (output.writeAll bytes).result with
  | error failure => simp [hr] at h
  | ok _ =>
    obtain ⟨reaches, delivered⟩ := writeAll_complete hr
    simp only [hr] at h ⊢
    rw [events_flush_of_ok h]
    refine ⟨reaches.trans (.step (.flushed h) (.refl _)), ?_, _, rfl, hw⟩
    rw [List.flatMap_append, ← Sent.bytes, delivered]
    simp [OutputEvent.bytes]

/-- Sending that fails broke off at its last call, and nothing was flushed. -/
theorem send_broken {output : Output} {bytes : List UInt8} {failure : Failure}
    (h : (output.send bytes).result = .error failure) :
    output.FailsToSend bytes (output.send bytes).events failure (output.send bytes).output := by
  have hw : .flushed ∉ (output.writeAll bytes).events := fun hm =>
    absurd (output.isFlush_writeAll bytes _ hm) (by simp [OutputEvent.isFlush])
  simp only [send, Sent.andThen] at h ⊢
  cases hr : (output.writeAll bytes).result with
  | error cause =>
    simp only [hr] at h ⊢
    obtain rfl : cause = failure := Except.error.inj h
    obtain ⟨breaksOff, rest, _, delivered⟩ := writeAll_broken hr
    exact ⟨breaksOff, ⟨rest, delivered⟩, hw⟩
  | ok _ =>
    obtain ⟨reaches, delivered⟩ := writeAll_complete hr
    simp only [hr] at h ⊢
    rw [events_flush_of_error h]
    refine ⟨.intro reaches (.unflushed h), ?_, by simp [hw]⟩
    rw [List.flatMap_append, ← Sent.bytes, delivered]
    simp [OutputEvent.bytes]

/-! ### Outputs with nothing in the way -/

/-- No fault lies ahead of `output`, and each of its write calls accepts at least one byte. -/
structure Clear (output : Output) : Prop where
  faults : ∀ fault ∈ output.faults, fault.isReady → fault.offset < output.accepted
  flushFaults : ∀ fault ∈ output.flushFaults, fault.1 ≤ output.flushes
  limit : output.limit ≠ some 0

namespace Clear

variable {output later : Output} {events : List OutputEvent}

theorem meet? (h : output.Clear) : output.meet? = none := by
  suffices hm : WriteFault.meet? output.accepted output.faults = none by simp [Output.meet?, hm]
  have hf := h.faults
  generalize output.faults = faults at hf
  induction faults with
  | nil => rfl
  | cons fault faults ih =>
    have hlt : fault.isReady → fault.offset < output.accepted := hf fault (by simp)
    have hpast : ¬(fault.offset = output.accepted ∧ fault.isReady) := by
      rintro ⟨he, hr⟩
      have := hlt hr
      omega
    rw [WriteFault.meet?, if_neg hpast, ih fun fault hm => hf fault (by simp [hm])]
    rfl

theorem room_pos (h : output.Clear) {wanted : Nat} (hw : 0 < wanted) : 0 < output.room wanted := by
  refine WriteFault.room_pos ?_ output.accepted output.faults
  cases hl : output.limit with
  | none => exact hw
  | some limit =>
    have : limit ≠ 0 := fun h0 => h.limit (by rw [hl, h0])
    exact Nat.lt_min.mpr ⟨hw, by omega⟩

theorem flush (h : output.Clear) : output.flush.result = .ok () := by
  simp only [Output.flush]
  split
  · next number failure hf =>
    have hm := List.mem_of_find?_eq_some hf
    have hn := List.find?_some hf
    have := h.flushFaults _ hm
    simp at hn
    omega
  · rfl

/-- With nothing in the way no call ends the writing. -/
theorem not_breaks (h : output.Clear) {event : OutputEvent} {failure : Failure} :
    ¬output.Breaks event failure later := by
  intro hb
  cases hb with
  | refused met => simp [h.meet?] at met
  | @full wanted _ room =>
    have := h.room_pos (show 0 < wanted + 1 by omega)
    omega
  | failed met => simp [h.meet?] at met
  | unflushed loud => simp [h.flush] at loud

theorem passes (h : output.Clear) {event : OutputEvent} (hp : output.Passes event later) :
    later.Clear := by
  cases hp with
  | accepted =>
    refine ⟨fun fault hm hr => ?_, h.flushFaults, h.limit⟩
    have := h.faults fault hm hr
    simp only [accept]
    omega
  | interrupted met => simp [h.meet?] at met
  | flushed =>
    rw [output_flush]
    exact ⟨h.faults, fun fault hm => Nat.le_succ_of_le (h.flushFaults fault hm), h.limit⟩

/-- Calls that pass put nothing in the way. -/
theorem reaches (h : output.Clear) (hr : output.Reaches events later) : later.Clear := by
  induction hr with
  | refl => exact h
  | step passes _ ih => exact ih (h.passes passes)

theorem not_breaksOff (h : output.Clear) {failure : Failure} :
    ¬output.BreaksOff events failure later := by
  rintro ⟨reaches, breaks⟩
  exact (h.reaches reaches).not_breaks breaks

end Clear

end Output

end InterpreterHost
