import InterpreterHost.Proofs.Stream.Pieces

/-! Streams without their interruptions, which are the calls that are made again: reads that fail
with that kind, and writes that meet such an obstacle. On the input they are steps of their own and
are left out; on the output they lie at an offset along with other faults, and without them there is
never less room (`Output.room_le_uninterrupted`) and the same lasting obstacle is met
(`Output.meet?_lasting`). -/

namespace InterpreterHost

/-- The call did nothing and is made again. No flush is. -/
def Event.isInterruption : Event → Bool
  | input (.failed kind) | output (.failed kind) => kind = .interrupted
  | _ => false

/-- The events of a trace but for the interruptions. -/
def Event.uninterrupted (trace : List Event) : List Event :=
  trace.filter (!·.isInterruption)

namespace Event

variable {event : Event}

theorem uninterrupted_cons (h : event.isInterruption = false) (trace : List Event) :
    uninterrupted (event :: trace) = event :: uninterrupted trace := by
  simp [uninterrupted, h]

theorem uninterrupted_cons_interruption (h : event.isInterruption = true) (trace : List Event) :
    uninterrupted (event :: trace) = uninterrupted trace := by
  simp [uninterrupted, h]

theorem silent_of_interruption (h : event.isInterruption = true) :
    delivered [event] = [] ∧ taken [event] = [] := by
  rcases event with (_ | _ | _) | (_ | _ | _ | _ | _)
  case input.failed | output.failed => exact ⟨rfl, rfl⟩
  all_goals simp [isInterruption] at h

/-- Interruptions deliver nothing and take nothing. -/
theorem bytes_uninterrupted (trace : List Event) :
    delivered (uninterrupted trace) = delivered trace ∧
      taken (uninterrupted trace) = taken trace := by
  induction trace with
  | nil => exact ⟨rfl, rfl⟩
  | cons event trace ih =>
    obtain ⟨hdelivered, htaken⟩ := ih
    rw [← List.singleton_append, delivered_append, taken_append, ← hdelivered, ← htaken,
      List.singleton_append]
    cases h : event.isInterruption with
    | false =>
      rw [uninterrupted_cons h, ← delivered_append, ← taken_append, List.singleton_append]
      exact ⟨rfl, rfl⟩
    | true =>
      obtain ⟨undelivered, untaken⟩ := silent_of_interruption h
      rw [uninterrupted_cons_interruption h, undelivered, untaken]
      exact ⟨rfl, rfl⟩

end Event

namespace Input

/-- The input without the reads that are interrupted. -/
def uninterrupted : Input → Input
  | exhausted => exhausted
  | chunk first others later => chunk first others later.uninterrupted
  | ended later => ended later.uninterrupted
  | failing failure later =>
    if failure.kind = .interrupted then later.uninterrupted else failing failure later.uninterrupted

@[simp] theorem uninterrupted_push (bytes : List UInt8) (later : Input) :
    (push bytes later).uninterrupted = push bytes later.uninterrupted := by
  cases bytes <;> rfl

theorem left_uninterrupted (input : Input) : input.uninterrupted.left = input.left := by
  induction input with
  | exhausted => rfl
  | chunk first others later ih => rw [uninterrupted, left, left, ih]
  | ended later ih => exact ih
  | failing failure later ih =>
    rw [uninterrupted]
    split
    · exact ih
    · exact ih

end Input

namespace WriteFault

variable {offset : Nat} {faults rest : List WriteFault} {obstacle : Obstacle}

/-- The fault is more than an interruption. -/
def isLasting (fault : WriteFault) : Bool :=
  fault.obstacle ≠ .interruption

theorem isLasting_iff {fault : WriteFault} : fault.isLasting ↔ fault.obstacle ≠ .interruption := by
  simp [isLasting]

/-- Meeting an interruption changes nothing but interruptions. -/
theorem lasting_of_interruption (met : meet? offset faults = some (.interruption, rest)) :
    rest.filter isLasting = faults.filter isLasting := by
  induction faults generalizing rest with
  | nil => simp [meet?] at met
  | cons fault faults ih =>
    by_cases hf : fault.offset = offset ∧ fault.isReady
    · rw [meet?, if_pos hf, Option.some.injEq, Prod.mk.injEq] at met
      obtain ⟨hobstacle, rfl⟩ := met
      have hpast : ¬fault.isLasting := fun kept => isLasting_iff.mp kept hobstacle
      have hspent : ¬fault.spend.isLasting := fun kept => isLasting_iff.mp kept hobstacle
      rw [List.filter_cons_of_neg hpast, List.filter_cons_of_neg hspent]
    · rw [meet?, if_neg hf, Option.map_eq_some_iff] at met
      obtain ⟨⟨_, others⟩, hothers, heq⟩ := met
      obtain ⟨rfl, rfl⟩ := Prod.mk.inj heq
      simp only [List.filter_cons, ih hothers]

/-- An obstacle that is no interruption is met without the interruptions too. -/
theorem meet?_lasting (lasting : obstacle ≠ .interruption)
    (met : meet? offset faults = some (obstacle, rest)) :
    meet? offset (faults.filter isLasting) = some (obstacle, rest.filter isLasting) := by
  induction faults generalizing rest with
  | nil => simp [meet?] at met
  | cons fault faults ih =>
    by_cases hf : fault.offset = offset ∧ fault.isReady
    · rw [meet?, if_pos hf, Option.some.injEq, Prod.mk.injEq] at met
      obtain ⟨rfl, rfl⟩ := met
      have hkept : fault.isLasting := isLasting_iff.mpr lasting
      have hspent : fault.spend.isLasting := isLasting_iff.mpr lasting
      rw [List.filter_cons_of_pos hkept, List.filter_cons_of_pos hspent, meet?, if_pos hf]
    · rw [meet?, if_neg hf, Option.map_eq_some_iff] at met
      obtain ⟨⟨_, others⟩, hothers, heq⟩ := met
      obtain ⟨rfl, rfl⟩ := Prod.mk.inj heq
      have hrest := ih hothers
      cases hkept : fault.isLasting with
      | true =>
        rw [List.filter_cons_of_pos hkept, List.filter_cons_of_pos hkept, meet?, if_neg hf, hrest,
          Option.map_some]
      | false =>
        rw [List.filter_cons_of_neg (by simp [hkept]), List.filter_cons_of_neg (by simp [hkept]),
          hrest]

end WriteFault

namespace Output

/-- The output without the interruptions of its writes. Its flushes fail as before. -/
def uninterrupted (output : Output) : Output :=
  { output with faults := output.faults.filter WriteFault.isLasting }

variable {output later : Output} {obstacle : Obstacle}

/-- Without its interruptions an output is the same before and after one is met. -/
theorem uninterrupted_of_interruption (met : output.meet? = some (.interruption, later)) :
    later.uninterrupted = output.uninterrupted := by
  rw [meet?, Option.map_eq_some_iff] at met
  obtain ⟨⟨_, faults⟩, hfaults, heq⟩ := met
  obtain ⟨rfl, rfl⟩ := Prod.mk.inj heq
  simp only [uninterrupted, WriteFault.lasting_of_interruption hfaults]

theorem meet?_lasting (lasting : obstacle ≠ .interruption)
    (met : output.meet? = some (obstacle, later)) :
    output.uninterrupted.meet? = some (obstacle, later.uninterrupted) := by
  rw [meet?, Option.map_eq_some_iff] at met
  obtain ⟨⟨_, faults⟩, hfaults, heq⟩ := met
  obtain ⟨rfl, rfl⟩ := Prod.mk.inj heq
  rw [meet?, uninterrupted, WriteFault.meet?_lasting lasting hfaults, Option.map_some]
  rfl

theorem meet?_uninterrupted (unmet : output.meet? = none) : output.uninterrupted.meet? = none := by
  rw [meet?_eq_none] at unmet ⊢
  exact fun fault hf => unmet fault (List.mem_filter.mp hf).1

/-- Without the interruptions there is never less room. -/
theorem room_le_uninterrupted (output : Output) (wanted : Nat) :
    output.room wanted ≤ output.uninterrupted.room wanted := by
  obtain ⟨hwanted, hlimit, hfaults⟩ := le_room_iff.mp (Nat.le_refl (output.room wanted))
  exact le_room_iff.mpr ⟨hwanted, hlimit, fun fault hf => hfaults fault (List.mem_filter.mp hf).1⟩

end Output

end InterpreterHost
