import InterpreterHost.Proofs.Stream.Trace

/-! Bytes written in pieces. Where a piece ends shows neither in the faults that are met nor in
what is delivered: a call that accepts less than it could is followed by one that accepts the rest
(`Output.writeAll_accept`), and so writing two pieces in a row is alike to writing both at once
(`Output.writeAll_append`). -/

namespace InterpreterHost

namespace WriteFault

/-- What fits fits before every fault ahead. -/
theorem le_room_iff {count offset : Nat} {faults : List WriteFault} {wanted : Nat} :
    count ≤ room offset faults wanted ↔ count ≤ wanted ∧
      ∀ fault ∈ faults, fault.isReady → offset < fault.offset → offset + count ≤ fault.offset := by
  induction faults with
  | nil => simp [room]
  | cons fault faults ih =>
    rw [List.forall_mem_cons, and_left_comm, ← ih]
    simp only [room, List.foldr_cons]
    by_cases hf : fault.isReady ∧ offset < fault.offset
    · rw [if_pos hf, Nat.le_min]
      have hspace : count ≤ fault.offset - offset ↔ offset + count ≤ fault.offset := by omega
      simp [hf, hspace]
    · rw [if_neg hf]
      have hpast : fault.isReady → offset < fault.offset → offset + count ≤ fault.offset :=
        fun ready ahead => absurd ⟨ready, ahead⟩ hf
      exact (and_iff_right hpast).symm

theorem meet?_eq_none_iff {offset : Nat} {faults : List WriteFault} :
    meet? offset faults = none ↔ ∀ fault ∈ faults, fault.isReady → fault.offset ≠ offset := by
  induction faults with
  | nil => simp [meet?]
  | cons fault faults ih =>
    rw [List.forall_mem_cons, ← ih]
    by_cases hf : fault.offset = offset ∧ fault.isReady
    · simp [meet?, hf]
    · have hpast : fault.isReady → fault.offset ≠ offset := fun ready here => hf ⟨here, ready⟩
      rw [meet?, if_neg hf, Option.map_eq_none_iff]
      exact (and_iff_right hpast).symm

end WriteFault

namespace Output

variable {output : Output} {wanted count : Nat}

theorem le_room_iff :
    count ≤ output.room wanted ↔
      count ≤ wanted ∧ (∀ limit, output.limit = some limit → count ≤ limit) ∧
        ∀ fault ∈ output.faults, fault.isReady → output.accepted < fault.offset →
          output.accepted + count ≤ fault.offset := by
  rw [room, WriteFault.le_room_iff]
  cases output.limit with
  | none => simp
  | some limit =>
    rw [Option.elim, Nat.le_min]
    simp [and_assoc]

theorem meet?_eq_none :
    output.meet? = none ↔
      ∀ fault ∈ output.faults, fault.isReady → fault.offset ≠ output.accepted := by
  rw [meet?, Option.map_eq_none_iff, WriteFault.meet?_eq_none_iff]

/-- No fault lies between the bytes that one call could accept. -/
theorem meet?_accept (unmet : output.meet? = none) (room : count < output.room wanted) :
    (output.accept count).meet? = none := by
  have hroom := (le_room_iff.mp (Nat.le_refl (output.room wanted))).2.2
  rw [meet?_eq_none] at unmet ⊢
  intro fault hf ready here
  have hne := unmet fault hf ready
  have hpast := hroom fault hf ready
  simp only [accept] at here
  omega

/-- After a part of what fits, the rest still does. -/
theorem room_accept (room : count ≤ output.room wanted) {part : Nat} (hp : part ≤ count) :
    count - part ≤ (output.accept part).room (wanted - part) := by
  obtain ⟨hwanted, hlimit, hfaults⟩ := le_room_iff.mp room
  rw [le_room_iff]
  refine ⟨by omega, fun limit hl => ?_, fun fault hf ready ahead => ?_⟩
  · have := hlimit limit hl
    omega
  · simp only [accept] at ahead ⊢
    have := hfaults fault hf ready (by omega)
    omega

/-! ### Calls that are alike -/

/-- Two runs of calls leave the same behind, and their traces differ only in how many calls
accepted a run of bytes. -/
structure Sent.Alike (first second : Sent) : Prop where
  result : first.result = second.result
  output : first.output = second.output
  events : Event.Alike first.trace second.trace

theorem Sent.trace_after (sent : Sent) (event : OutputEvent) :
    (sent.after event).trace = .output event :: sent.trace := rfl

theorem Sent.andThen_of_ok {sent : Sent} (h : sent.result = .ok ()) (next : Output → Sent) :
    sent.andThen next =
      { next sent.output with events := sent.events ++ (next sent.output).events } := by
  rw [andThen, h]

theorem Sent.andThen_of_error {sent : Sent} {failure : Failure} (h : sent.result = .error failure)
    (next : Output → Sent) : sent.andThen next = sent := by
  rw [andThen, h]
  simp only [← h]

theorem Sent.andThen_after (sent : Sent) (event : OutputEvent) (next : Output → Sent) :
    (sent.after event).andThen next = (sent.andThen next).after event := by
  cases h : sent.result with
  | error failure => rw [andThen_of_error h, andThen_of_error (by exact h)]
  | ok _ => rw [andThen_of_ok h, andThen_of_ok (by exact h)]; rfl

theorem Sent.andThen_assoc (sent : Sent) (next last : Output → Sent) :
    (sent.andThen next).andThen last = sent.andThen fun later => (next later).andThen last := by
  cases h : sent.result with
  | error failure => rw [andThen_of_error h, andThen_of_error h, andThen_of_error h]
  | ok _ =>
    rw [andThen_of_ok h, andThen_of_ok h]
    cases hn : (next sent.output).result with
    | error failure => rw [andThen_of_error hn, andThen_of_error (by exact hn)]
    | ok _ => rw [andThen_of_ok hn, andThen_of_ok (by exact hn)]; simp

namespace Sent.Alike

variable {first second third : Sent}

theorem refl (sent : Sent) : sent.Alike sent := ⟨rfl, rfl, .refl _⟩

theorem symm (h : first.Alike second) : second.Alike first :=
  ⟨h.result.symm, h.output.symm, h.events.symm⟩

theorem trans (h₁ : first.Alike second) (h₂ : second.Alike third) : first.Alike third :=
  ⟨h₁.result.trans h₂.result, h₁.output.trans h₂.output, h₁.events.trans h₂.events⟩

theorem after (h : first.Alike second) (event : OutputEvent) :
    (first.after event).Alike (second.after event) :=
  ⟨h.result, h.output, h.events.cons (.output event)⟩

theorem of_accepted (sent : Sent) (xs ys : List UInt8) :
    ((sent.after (.accepted ys)).after (.accepted xs)).Alike (sent.after (.accepted (xs ++ ys))) :=
  ⟨rfl, rfl, .of_accepted xs ys sent.trace⟩

/-- Calls that are alike may be followed by others that are. -/
theorem andThen {next last : Output → Sent} (h : first.Alike second)
    (hnext : (next first.output).Alike (last first.output)) :
    (first.andThen next).Alike (second.andThen last) := by
  cases hr : first.result with
  | error failure =>
    rw [andThen_of_error hr, andThen_of_error (h.result ▸ hr)]
    exact h
  | ok _ =>
    rw [andThen_of_ok hr, andThen_of_ok (h.result ▸ hr), ← h.output]
    refine ⟨hnext.result, hnext.output, ?_⟩
    simp only [trace, List.map_append]
    exact h.events.append hnext.events

end Sent.Alike

/-! ### Pieces -/

variable {bytes : List UInt8}

theorem writeAll_nil (output : Output) : output.writeAll [] = ⟨.ok (), output, []⟩ := by
  rw [writeAll]

/-- The first call on an output without an obstacle accepts as much as there is room for. -/
theorem writeAll_room (unmet : output.meet? = none) (room : output.room bytes.length = count + 1) :
    output.writeAll bytes =
      ((output.accept (count + 1)).writeAll (bytes.drop (count + 1))).after
        (.accepted (bytes.take (count + 1))) := by
  cases bytes with
  | nil =>
    have := output.room_le 0
    simp only [List.length_nil] at room
    omega
  | cons b bs =>
    rw [List.length_cons] at room
    rw [writeAll, List.drop_succ_cons, List.take_succ_cons]
    split
    all_goals simp_all

theorem writeAll_met {obstacle : Obstacle} {later : Output} (b : UInt8) (bs : List UInt8)
    (met : output.meet? = some (obstacle, later)) :
    output.writeAll (b :: bs) = match obstacle with
      | .interruption => (later.writeAll (b :: bs)).after (.failed .interrupted)
      | .refusal => ⟨.error .nothingAccepted, later, [.refused]⟩
      | .failure failure _ => ⟨.error failure, later, [.failed failure.kind]⟩ := by
  rw [writeAll]
  cases obstacle <;> split <;> simp_all

theorem writeAll_full (b : UInt8) (bs : List UInt8) (unmet : output.meet? = none)
    (room : output.room (bs.length + 1) = 0) :
    output.writeAll (b :: bs) = ⟨.error .nothingAccepted, output, [.refused]⟩ := by
  rw [writeAll]
  split <;> simp_all

/-- What one call could accept may as well be accepted by two: the first takes `count` bytes. -/
theorem writeAll_accept (unmet : output.meet? = none) (pos : 0 < count)
    (room : count ≤ output.room bytes.length) :
    (output.writeAll bytes).Alike
      (((output.accept count).writeAll (bytes.drop count)).after
        (.accepted (bytes.take count))) := by
  induction hn : bytes.length using Nat.strongRecOn generalizing output count bytes with
  | ind n ih =>
  obtain ⟨most, hmost⟩ : ∃ most, output.room bytes.length = most + 1 :=
    ⟨output.room bytes.length - 1, by omega⟩
  rw [writeAll_room unmet hmost]
  rcases Nat.lt_or_eq_of_le (hmost ▸ room) with hlt | rfl
  · have hle := output.room_le bytes.length
    have hlen : (bytes.drop count).length = bytes.length - count := List.length_drop
    have hrest : most + 1 - count ≤ (output.accept count).room (bytes.drop count).length := by
      rw [hlen]
      exact room_accept (Nat.le_of_eq hmost.symm) (by omega)
    have hunmet := meet?_accept unmet (hmost ▸ hlt)
    have hih := ih (bytes.length - count) (by omega) hunmet (by omega) hrest hlen
    have haccept : (output.accept count).accept (most + 1 - count) = output.accept (most + 1) := by
      simp only [accept, Output.mk.injEq, and_true]
      omega
    have hdrop : (bytes.drop count).drop (most + 1 - count) = bytes.drop (most + 1) := by
      rw [List.drop_drop, Nat.add_sub_cancel' (Nat.le_of_lt hlt)]
    have htake : bytes.take count ++ (bytes.drop count).take (most + 1 - count) =
        bytes.take (most + 1) := by
      rw [← List.take_add, Nat.add_sub_cancel' (Nat.le_of_lt hlt)]
    rw [haccept, hdrop] at hih
    rw [← htake]
    exact (Sent.Alike.of_accepted _ _ _).symm.trans (hih.after _).symm
  · exact .refl _

theorem room_eq_zero_iff (pos : 0 < wanted) : output.room wanted = 0 ↔ output.limit = some 0 := by
  constructor
  · intro full
    by_cases hl : output.limit = some 0
    · exact hl
    · have hone : 1 ≤ output.room wanted := by
        refine le_room_iff.mpr ⟨pos, fun limit h => ?_, fun fault _ _ ahead => ahead⟩
        have : limit ≠ 0 := fun h0 => hl (by rw [h, h0])
        omega
      omega
  · intro hl
    have := (le_room_iff.mp (Nat.le_refl (output.room wanted))).2.1 0 hl
    omega

/-- Writing two pieces in a row is alike to writing both at once: cut anywhere, the bytes meet the
same faults in the same order. -/
theorem writeAll_append (output : Output) (xs ys : List UInt8) :
    (output.writeAll (xs ++ ys)).Alike ((output.writeAll xs).andThen (·.writeAll ys)) := by
  fun_induction writeAll output xs with
  | case1 output => exact .refl _
  | case2 output b bs later met ih =>
    rw [List.cons_append, writeAll_met b (bs ++ ys) met, Sent.andThen_after]
    exact ih.after _
  | case3 output b bs later met =>
    rw [List.cons_append, writeAll_met b (bs ++ ys) met]
    exact .refl _
  | case4 output b bs failure lasting later met =>
    rw [List.cons_append, writeAll_met b (bs ++ ys) met]
    exact .refl _
  | case5 output b bs unmet full =>
    have hl := (room_eq_zero_iff (Nat.succ_pos _)).mp full
    have hfull : output.room ((bs ++ ys).length + 1) = 0 :=
      (room_eq_zero_iff (Nat.succ_pos _)).mpr hl
    rw [List.cons_append, writeAll_full b (bs ++ ys) unmet hfull]
    exact .refl _
  | case6 output b bs unmet n room ih =>
    have hn : n ≤ bs.length := by have := output.room_le (bs.length + 1); omega
    obtain ⟨hwanted, hlimit, hfaults⟩ := le_room_iff.mp (Nat.le_of_eq room.symm)
    have hroom : n + 1 ≤ output.room (b :: bs ++ ys).length := by
      refine le_room_iff.mpr ⟨?_, hlimit, hfaults⟩
      simp only [List.length_append, List.length_cons]
      omega
    have hsplit := writeAll_accept unmet (Nat.succ_pos n) hroom
    rw [List.cons_append, List.drop_succ_cons, List.take_succ_cons,
      List.drop_append_of_le_length hn, List.take_append_of_le_length hn] at hsplit
    rw [Sent.andThen_after]
    exact hsplit.trans (ih.after _)

end Output

/-! ### Runs of calls

`Output.Sent.From` says that the calls of a run all passed or that the last of them broke off, which
writing, flushing and what is put together of them with `Sent.andThen` have in common. From it
follows how far the output got (`Sent.From.accepted`). For bytes sent in pieces
`Output.sendPieces_bytes` adds which bytes these are. -/

namespace Output

variable {output later : Output} {events : List OutputEvent}

/-- `sent` is what calls on `output` leave behind that all passed, or of which the last one broke
off with the failure that is their result. -/
inductive Sent.From (output : Output) : Sent → Prop
  | passed {events : List OutputEvent} {later : Output} (reaches : output.Reaches events later) :
      From output ⟨.ok (), later, events⟩
  | broke {events : List OutputEvent} {failure : Failure} {later : Output}
      (breaksOff : output.BreaksOff events failure later) :
      From output ⟨.error failure, later, events⟩

namespace Sent.From

theorem of_result {sent : Sent}
    (ok : sent.result = .ok () → output.Reaches sent.events sent.output)
    (error : ∀ failure, sent.result = .error failure →
      output.BreaksOff sent.events failure sent.output) : sent.From output := by
  obtain ⟨result, later, events⟩ := sent
  cases result with
  | ok _ => exact .passed (ok rfl)
  | error failure => exact .broke (error failure rfl)

theorem writeAll (output : Output) (bytes : List UInt8) : From output (output.writeAll bytes) :=
  of_result (fun h => (writeAll_complete h).1) fun _ h => (writeAll_broken h).1

theorem flush (output : Output) : From output output.flush := by
  refine of_result (fun h => ?_) fun failure h => ?_
  · rw [events_flush_of_ok h]
    exact .step (.flushed h) (.refl _)
  · rw [events_flush_of_error h]
    exact (Breaks.unflushed h).breaksOff

theorem andThen {sent : Sent} {next : Output → Sent} (h : sent.From output)
    (hnext : ∀ later, From later (next later)) : From output (sent.andThen next) := by
  cases h with
  | broke breaksOff => exact .broke breaksOff
  | @passed events later reaches =>
    have hlater := hnext later
    rw [Sent.andThen]
    generalize next later = last at hlater
    cases hlater with
    | passed others => exact .passed (reaches.trans others)
    | broke breaksOff => exact .broke (reaches.breaksOff breaksOff)

theorem sendPieces (output : Output) (pieces : List (List UInt8)) :
    From output (output.sendPieces pieces) := by
  induction pieces generalizing output with
  | nil => exact flush output
  | cons piece pieces ih => exact (writeAll output piece).andThen fun later => ih later

end Sent.From

/-! ### How far the output got -/

theorem accepted_of_meet? {obstacle : Obstacle} (met : output.meet? = some (obstacle, later)) :
    later.accepted = output.accepted := by
  rw [meet?, Option.map_eq_some_iff] at met
  obtain ⟨⟨_, faults⟩, -, heq⟩ := met
  obtain ⟨-, rfl⟩ := Prod.mk.inj heq
  rfl

theorem Passes.accepted_eq {event : OutputEvent} (h : output.Passes event later) :
    later.accepted = output.accepted + event.bytes.length := by
  cases h with
  | accepted => rfl
  | interrupted met => exact accepted_of_meet? met
  | flushed =>
    rw [output_flush]
    rfl

theorem Breaks.accepted_eq {event : OutputEvent} {failure : Failure}
    (h : output.Breaks event failure later) :
    later.accepted = output.accepted + event.bytes.length := by
  cases h with
  | refused met | failed met => exact accepted_of_meet? met
  | full => rfl
  | unflushed =>
    rw [output_flush]
    rfl

/-- Calls that pass take the output as far as the bytes that they delivered. -/
theorem Reaches.accepted_eq (h : output.Reaches events later) :
    later.accepted = output.accepted + (events.flatMap OutputEvent.bytes).length := by
  induction h with
  | refl => rfl
  | step passes _ ih =>
    rw [ih, passes.accepted_eq, List.flatMap_cons, List.length_append, Nat.add_assoc]

/-- An output accepted as many more bytes as were delivered to it. -/
theorem Sent.From.accepted_eq {sent : Sent} (h : sent.From output) :
    sent.output.accepted = output.accepted + sent.bytes.length := by
  cases h with
  | passed reaches => exact reaches.accepted_eq
  | broke breaksOff =>
    obtain ⟨reaches, breaks⟩ := breaksOff
    rw [breaks.accepted_eq, reaches.accepted_eq, Sent.bytes, List.flatMap_append,
      List.flatMap_singleton, List.length_append, Nat.add_assoc]

/-! ### Pieces, one after another -/

/-- The first bytes of all pieces were delivered, and all of them if the sending succeeded. -/
theorem sendPieces_bytes (output : Output) (pieces : List (List UInt8)) :
    (output.sendPieces pieces).bytes <+: pieces.flatten ∧
      ((output.sendPieces pieces).result = .ok () →
        (output.sendPieces pieces).bytes = pieces.flatten) := by
  induction pieces generalizing output with
  | nil =>
    obtain ⟨event, hevents, silent, -⟩ := output.events_flush
    have hbytes : (output.sendPieces []).bytes = [] := by
      rw [sendPieces, Sent.bytes, hevents, List.flatMap_singleton, silent]
    rw [hbytes]
    exact ⟨List.prefix_rfl, fun _ => rfl⟩
  | cons piece pieces ih =>
    rw [sendPieces, List.flatten_cons]
    cases hr : (output.writeAll piece).result with
    | error failure =>
      obtain ⟨-, rest, -, hrest⟩ := writeAll_broken hr
      rw [Sent.andThen_of_error hr]
      constructor
      · exact ⟨rest ++ pieces.flatten, by rw [← List.append_assoc, hrest]⟩
      · intro h
        cases hr.symm.trans h
    | ok _ =>
      obtain ⟨-, hpiece⟩ := writeAll_complete hr
      obtain ⟨start, complete⟩ := ih (output.writeAll piece).output
      rw [Sent.andThen_of_ok hr, Sent.bytes, List.flatMap_append, ← Sent.bytes, hpiece]
      refine ⟨(List.prefix_append_right_inj piece).mpr start, fun h => ?_⟩
      exact congrArg (piece ++ ·) (complete h)

end Output

end InterpreterHost
