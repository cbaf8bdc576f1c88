import InterpreterHost.Proofs.Stream.Trace

/-! Inputs that differ only in how their bytes are cut into chunks: those that show the same
signals. To compare two of them, each is compared with the input that shows the same with every byte
in a chunk of its own. Single cuts lead there, so a relation has to be looked at only where one
chunk is cut (`ChunkBlind.of_signals_eq`). `Input.readLine_alike` says that a line is read from both
inputs in the same way. -/

namespace InterpreterHost.Input

/-- The input that shows `signals`, with every byte in a chunk of its own. -/
def scattered : List Signal → Input
  | [] => exhausted
  | .byte b :: later => chunk b [] (scattered later)
  | .ended :: later => ended (scattered later)
  | .failed failure :: later => failing failure (scattered later)

/-- The relation does not see where a chunk is cut. -/
structure ChunkBlind (R : Input → Input → Prop) : Prop where
  equivalence : Equivalence R
  cut : ∀ b bs later, R (chunk b bs later) (chunk b [] (push bs later))
  chunk : ∀ b {later later'}, R later later' → R (chunk b [] later) (chunk b [] later')
  ended : ∀ {later later'}, R later later' → R (ended later) (ended later')
  failing : ∀ failure {later later'}, R later later' →
    R (failing failure later) (failing failure later')

namespace ChunkBlind

variable {R : Input → Input → Prop}

/-- What is blind to cuts takes an input for the one with every byte in a chunk of its own: one cut
takes the first byte off, and what is left is shorter. -/
theorem to_scattered (blind : ChunkBlind R) (input : Input) :
    R input (scattered input.signals) := by
  induction hn : input.size using Nat.strongRecOn generalizing input with
  | ind n ih =>
    cases input with
    | exhausted => exact blind.equivalence.refl _
    | chunk b bs later =>
      have hlt : (push bs later).size < n := by
        rw [← hn, size_push, size]
        omega
      have hrest := ih _ hlt (push bs later) rfl
      rw [signals_push] at hrest
      exact blind.equivalence.trans (blind.cut b bs later) (blind.chunk b hrest)
    | ended later => exact blind.ended (ih _ (by rw [← hn, size]; omega) later rfl)
    | failing failure later =>
      exact blind.failing failure (ih _ (by rw [← hn, size]; omega) later rfl)

/-- Such a relation holds between any two inputs with the same signals. -/
theorem of_signals_eq (blind : ChunkBlind R) {first second : Input}
    (same : first.signals = second.signals) : R first second := by
  have hfirst := blind.to_scattered first
  have hsecond := blind.to_scattered second
  rw [same] at hfirst
  exact blind.equivalence.trans hfirst (blind.equivalence.symm hsecond)

end ChunkBlind

variable {first second : Input}

theorem left_of_signals_eq (same : first.signals = second.signals) : first.left = second.left := by
  have blind : ChunkBlind fun a b => a.left = b.left := by
    refine ⟨⟨fun _ => rfl, Eq.symm, Eq.trans⟩, ?_, ?_, fun h => h, fun _ _ _ h => h⟩
    · intro b bs later
      simp only [left, left_push, List.length_nil]
      omega
    · intro b later later' h
      simp only [left, h]
  exact blind.of_signals_eq same

theorem body_of_signals_eq (same : first.signals = second.signals) : first.body = second.body := by
  have blind : ChunkBlind fun a b => a.body = b.body := by
    refine ⟨⟨fun _ => rfl, Eq.symm, Eq.trans⟩, ?_, ?_, fun _ => rfl, ?_⟩
    · intro b bs later
      simp [body]
    · intro b later later' h
      simp only [body, h]
    · intro failure later later' h
      simp only [body, h]
  exact blind.of_signals_eq same

theorem stop_of_signals_eq (same : first.signals = second.signals) : first.stop = second.stop := by
  have blind : ChunkBlind fun a b => a.stop = b.stop := by
    refine ⟨⟨fun _ => rfl, Eq.symm, Eq.trans⟩, ?_, fun _ _ _ h => h, fun _ => rfl, ?_⟩
    · intro b bs later
      simp [stop]
    · intro failure later later' h
      simp only [stop, h]
  exact blind.of_signals_eq same

/-! ### Lines -/

/-- Two reads leave the same behind but for the chunks of what is still to come, and the same was
seen of them but for how many calls took a run of bytes. -/
structure Taken.Alike (first second : Taken) : Prop where
  result : first.result = second.result
  signals : first.input.signals = second.input.signals
  events : Event.Alike first.trace second.trace

namespace Taken.Alike

variable {first second third : Taken}

theorem refl (taken : Taken) : taken.Alike taken := ⟨rfl, rfl, .refl _⟩

theorem symm (h : first.Alike second) : second.Alike first :=
  ⟨h.result.symm, h.signals.symm, h.events.symm⟩

theorem trans (h₁ : first.Alike second) (h₂ : second.Alike third) : first.Alike third :=
  ⟨h₁.result.trans h₂.result, h₁.signals.trans h₂.signals, h₁.events.trans h₂.events⟩

theorem after (h : first.Alike second) (event : InputEvent) :
    (first.after event).Alike (second.after event) :=
  ⟨h.result, h.signals, h.events.cons (.input event)⟩

theorem afterBytes (h : first.Alike second) (bytes : List UInt8) :
    (first.afterBytes bytes).Alike (second.afterBytes bytes) :=
  ⟨congrArg (Except.map (bytes ++ ·)) h.result, h.signals, h.events.cons (.input (.took bytes))⟩

theorem of_took (taken : Taken) (xs ys : List UInt8) :
    ((taken.afterBytes ys).afterBytes xs).Alike (taken.afterBytes (xs ++ ys)) := by
  refine ⟨?_, rfl, .of_took xs ys taken.trace⟩
  cases h : taken.result <;> simp [Taken.afterBytes, Taken.after, h, Except.map]

end Taken.Alike

theorem readLine_newline (bs : List UInt8) (later : Input) :
    (chunk newline bs later).readLine = ⟨.ok [newline], push bs later, [.took [newline]]⟩ := by
  simp [readLine, cutLine?]

theorem readLine_byte {b : UInt8} (hb : b ≠ newline) (later : Input) :
    (chunk b [] later).readLine = later.readLine.afterBytes [b] := by
  simp [readLine, cutLine?, hb]

/-- A line is read in the same way if its first chunk is cut after the first byte. -/
theorem readLine_cut (b : UInt8) (bs : List UInt8) (later : Input) :
    (chunk b bs later).readLine.Alike (chunk b [] (push bs later)).readLine := by
  by_cases hb : b = newline
  · subst hb
    rw [readLine_newline, readLine_newline]
    exact .refl _
  rw [readLine_byte hb]
  cases bs with
  | nil =>
    rw [push, readLine_byte hb]
    exact .refl _
  | cons c cs =>
    rw [push]
    cases hc : cutLine? (c :: cs) with
    | none =>
      have hbc : cutLine? (b :: c :: cs) = none := by rw [cutLine?, if_neg hb, hc, Option.map_none]
      simp only [readLine, hc, hbc]
      exact (Taken.Alike.of_took _ [b] (c :: cs)).symm
    | some cutting =>
      obtain ⟨line, rest⟩ := cutting
      have hbc : cutLine? (b :: c :: cs) = some (b :: line, rest) := by
        rw [cutLine?, if_neg hb, hc, Option.map_some]
      simp only [readLine, hc, hbc]
      exact ⟨rfl, rfl, (Event.Alike.of_took [b] line []).symm⟩

/-- From two inputs that differ only in their chunks a line is read in the same way, and what
follows it differs only in its chunks again. -/
theorem readLine_alike (same : first.signals = second.signals) :
    first.readLine.Alike second.readLine := by
  let R (a b : Input) : Prop := a.signals = b.signals ∧ a.readLine.Alike b.readLine
  have equivalence : Equivalence R :=
    ⟨fun _ => ⟨rfl, .refl _⟩, fun h => ⟨h.1.symm, h.2.symm⟩,
      fun h₁ h₂ => ⟨h₁.1.trans h₂.1, h₁.2.trans h₂.2⟩⟩
  have blind : ChunkBlind R := by
    refine ⟨equivalence, ?_, ?_, ?_, ?_⟩
    · intro b bs later
      refine ⟨?_, readLine_cut b bs later⟩
      simp [signals]
    · rintro b later later' ⟨hsignals, halike⟩
      refine ⟨by simp only [signals, hsignals], ?_⟩
      by_cases hb : b = newline
      · subst hb
        rw [readLine_newline, readLine_newline]
        exact ⟨rfl, hsignals, .refl _⟩
      · rw [readLine_byte hb, readLine_byte hb]
        exact halike.afterBytes [b]
    · rintro later later' ⟨hsignals, _⟩
      exact ⟨by simp only [signals, hsignals], rfl, hsignals, .refl _⟩
    · rintro failure later later' ⟨hsignals, halike⟩
      refine ⟨by simp only [signals, hsignals], ?_⟩
      by_cases hk : failure.kind = .interrupted
      · simp only [readLine, if_pos hk]
        exact halike.after _
      · simp only [readLine, if_neg hk]
        exact ⟨rfl, hsignals, .refl _⟩
  exact (blind.of_signals_eq same).2

end InterpreterHost.Input
