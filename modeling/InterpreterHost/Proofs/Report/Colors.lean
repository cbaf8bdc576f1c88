import InterpreterHost.Report

/-! Taking the colours out of a text: `withoutColors` deletes every sequence that turns a style on
or off, and nothing else. A stretch of text that becomes another one when colours are taken out, no
matter what follows it, `Fades`; such stretches may be put one after another. -/

namespace InterpreterHost

/-- The character may stand between the start and the end of a colour sequence. -/
def isParameter (c : Char) : Bool :=
  c.isDigit || c = ';'

/-- What follows the colour sequence that starts a text, if one does. -/
def afterColor? : List Char → Option (List Char)
  | '\x1b' :: '[' :: cs =>
    match cs.dropWhile isParameter with
    | 'm' :: rest => some rest
    | _ => none
  | _ => none

theorem length_afterColor? {text rest : List Char} (h : afterColor? text = some rest) :
    rest.length < text.length := by
  unfold afterColor? at h
  split at h
  · next cs =>
    split at h
    · next heq =>
      have hle := (List.dropWhile_suffix isParameter (l := cs)).length_le
      rw [heq] at hle
      simp at h hle ⊢
      subst h
      omega
    · simp at h
  · simp at h

/-- The text without its colour sequences. -/
def withoutColors : List Char → List Char
  | [] => []
  | c :: cs =>
    match _ : afterColor? (c :: cs) with
    | some rest => withoutColors rest
    | none => c :: withoutColors cs
termination_by text => text.length
decreasing_by
  · exact length_afterColor? ‹_›
  · simp

theorem withoutColors_cons {c : Char} {cs : List Char} (h : afterColor? (c :: cs) = none) :
    withoutColors (c :: cs) = c :: withoutColors cs := by
  rw [withoutColors]
  split <;> simp_all

theorem withoutColors_color {text rest : List Char} (h : afterColor? text = some rest) :
    withoutColors text = withoutColors rest := by
  cases text with
  | nil => simp [afterColor?] at h
  | cons c cs =>
    rw [withoutColors]
    split <;> simp_all

/-- Whatever follows, the first stretch of text becomes the second one without its colours. -/
def Fades (text faded : List Char) : Prop :=
  ∀ rest, withoutColors (text ++ rest) = faded ++ withoutColors rest

namespace Fades

variable {text faded : List Char}

theorem eq (h : Fades text faded) : withoutColors text = faded := by
  have alone := h []
  rwa [withoutColors, List.append_nil, List.append_nil] at alone

theorem nil : Fades [] [] := fun _ => rfl

theorem append {text' faded' : List Char} (h : Fades text faded) (h' : Fades text' faded') :
    Fades (text ++ text') (faded ++ faded') := by
  intro rest
  rw [List.append_assoc, h, h', List.append_assoc]

theorem flatMap {α : Type} {xs : List α} {f g : α → List Char}
    (h : ∀ x ∈ xs, Fades (f x) (g x)) : Fades (xs.flatMap f) (xs.flatMap g) := by
  induction xs with
  | nil => exact nil
  | cons x xs ih =>
    rw [List.flatMap_cons, List.flatMap_cons]
    exact (h x (.head _)).append (ih fun y hy => h y (.tail _ hy))

/-- A character that starts no sequence stays. -/
theorem singleton {c : Char} (h : c ≠ escape) : Fades [c] [c] := by
  intro rest
  refine withoutColors_cons ?_
  unfold afterColor?
  split <;> simp_all [escape]

theorem refl (h : escape ∉ text) : Fades text text := by
  induction text with
  | nil => exact nil
  | cons c cs ih =>
    rw [List.mem_cons, not_or] at h
    exact (singleton (Ne.symm h.1)).append (ih h.2)

/-- An escape in front of anything but a bracket stays too. -/
theorem escaped {c : Char} (h : c ≠ escape) (unopened : c ≠ '[') :
    Fades [escape, c] [escape, c] := by
  intro rest
  have kept : afterColor? (escape :: c :: rest) = none := by
    unfold afterColor?
    split <;> simp_all [escape]
  show withoutColors (escape :: c :: rest) = escape :: c :: withoutColors rest
  rw [withoutColors_cons kept]
  exact congrArg (escape :: ·) (singleton h rest)

end Fades

/-! ### Columns -/

/-- The columns of two texts add up, unless the first one has an escape. -/
theorem width_append {text : List Char} (h : escape ∉ text) (rest : List Char) :
    width (text ++ rest) = width text + width rest := by
  induction text with
  | nil => exact (Nat.zero_add _).symm
  | cons c cs ih =>
    rw [List.mem_cons, not_or] at h
    have plain : Scan.plain.next c = .plain := if_neg (Ne.symm h.1)
    show Scan.plain.columns c + (Scan.plain.next c).width (cs ++ rest) =
      Scan.plain.columns c + (Scan.plain.next c).width cs + width rest
    rw [plain, Nat.add_assoc]
    exact congrArg (Scan.plain.columns c + ·) (ih h.2)

namespace Scan

theorem width_control_end {c : Char} (h : '@' ≤ c ∧ c ≤ '~') (cs : List Char) :
    control.width (c :: cs) = plain.width cs := by
  simp [width, columns, shows, next, h]

theorem width_parameter {c : Char} (h : isParameter c) (cs : List Char) :
    control.width (c :: cs) = control.width cs := by
  have inside : ¬('@' ≤ c ∧ c ≤ '~') := by
    rintro ⟨hle, -⟩
    simp only [isParameter, Char.isDigit, Bool.or_eq_true, Bool.and_eq_true,
      decide_eq_true_eq] at h
    rcases h with ⟨-, hdigit⟩ | rfl
    · exact absurd (UInt32.le_trans hle hdigit) (by decide)
    · exact absurd hle (by decide)
  simp [width, columns, shows, next, inside]

end Scan

/-- A sequence that turns a style on or off. -/
def IsColor (sequence : List Char) : Prop :=
  ∃ parameters : List Char, (∀ c ∈ parameters, isParameter c) ∧
    sequence = escape :: '[' :: parameters ++ ['m']

namespace IsColor

variable {sequence : List Char}

theorem fades (h : IsColor sequence) : Fades sequence [] := by
  obtain ⟨parameters, hall, rfl⟩ := h
  intro rest
  refine withoutColors_color ?_
  have ends : (parameters ++ 'm' :: rest).dropWhile isParameter = 'm' :: rest := by
    rw [List.dropWhile_append_of_pos hall]
    exact List.dropWhile_cons_of_neg (by decide)
  rw [List.append_assoc]
  show afterColor? (escape :: '[' :: (parameters ++ 'm' :: rest)) = some rest
  simp only [escape, afterColor?, ends]

theorem newline_not_mem (h : IsColor sequence) : '\n' ∉ sequence := by
  obtain ⟨parameters, hall, rfl⟩ := h
  have absent : '\n' ∉ parameters := by
    intro hm
    exact absurd (hall _ hm) (by decide)
  simp [escape, absent]

/-- It takes no columns. -/
theorem width_append (h : IsColor sequence) (rest : List Char) :
    width (sequence ++ rest) = width rest := by
  obtain ⟨parameters, hall, rfl⟩ := h
  have inside : Scan.control.width (parameters ++ 'm' :: rest) = width rest := by
    induction parameters with
    | nil => exact Scan.width_control_end (by decide) rest
    | cons c cs ih =>
      rw [List.forall_mem_cons] at hall
      rw [List.cons_append, Scan.width_parameter hall.1, ih hall.2]
  rw [List.append_assoc]
  show width (escape :: '[' :: (parameters ++ 'm' :: rest)) = width rest
  simp [width, Scan.width, Scan.columns, Scan.shows, Scan.next, inside]

end IsColor

end InterpreterHost
