/-! Lists cut at each occurrence of a separator: the parts of a path, the lines of a text, the
pieces of a comma-separated value. -/

namespace InterpreterHost

/-- The runs between the separators of a list, in order. There is one more than separators. -/
def fields {α : Type} [DecidableEq α] (separator : α) : List α → List (List α)
  | [] => [[]]
  | x :: xs =>
    if x = separator then [] :: fields separator xs
    else match fields separator xs with
      | [] => [[x]]
      | run :: runs => (x :: run) :: runs

theorem fields_ne_nil {α : Type} [DecidableEq α] (separator : α) (xs : List α) :
    fields separator xs ≠ [] := by
  cases xs with
  | nil => simp [fields]
  | cons x xs =>
    rw [fields]
    split
    · simp
    · split <;> simp

/-- No run holds a separator. -/
theorem not_mem_of_mem_fields {α : Type} [DecidableEq α] {separator : α} {xs run : List α}
    (h : run ∈ fields separator xs) : separator ∉ run := by
  induction xs generalizing run with
  | nil =>
    simp only [fields, List.mem_singleton] at h
    simp [h]
  | cons x xs ih =>
    by_cases hx : x = separator
    · simp only [fields, if_pos hx, List.mem_cons] at h
      rcases h with rfl | h
      · simp
      · exact ih h
    · cases hf : fields separator xs with
      | nil => exact absurd hf (fields_ne_nil separator xs)
      | cons first runs =>
        rw [hf] at ih
        simp only [fields, if_neg hx, hf, List.mem_cons] at h
        rcases h with rfl | h
        · simp [ih List.mem_cons_self, Ne.symm hx]
        · exact ih (List.mem_cons_of_mem _ h)

/-- Every separator ends one run and starts another. -/
theorem fields_append_cons {α : Type} [DecidableEq α] (separator : α) (xs ys : List α) :
    fields separator (xs ++ separator :: ys) = fields separator xs ++ fields separator ys := by
  induction xs with
  | nil => simp [fields]
  | cons x xs ih =>
    cases hf : fields separator xs with
    | nil => exact absurd hf (fields_ne_nil separator xs)
    | cons run runs =>
      rw [hf] at ih
      by_cases hx : x = separator
      · rw [List.cons_append, fields, if_pos hx, ih, fields, if_pos hx, hf]
        rfl
      · rw [List.cons_append, fields, if_neg hx, ih, fields, if_neg hx, hf]
        rfl

theorem fields_of_not_mem {α : Type} [DecidableEq α] {separator : α} {xs : List α}
    (h : separator ∉ xs) : fields separator xs = [xs] := by
  induction xs with
  | nil => rfl
  | cons x xs ih =>
    rw [List.mem_cons, not_or] at h
    rw [fields, if_neg (Ne.symm h.1), ih h.2]

/-- The runs hold all but the separators. -/
theorem exists_mem_fields {α : Type} [DecidableEq α] {separator x : α} (hx : x ≠ separator)
    (xs : List α) : (∃ run ∈ fields separator xs, x ∈ run) ↔ x ∈ xs := by
  induction xs with
  | nil => simp [fields]
  | cons y ys ih =>
    by_cases hy : y = separator
    · rw [fields, if_pos hy, List.mem_cons, ← ih]
      simp [hy, hx]
    · cases hf : fields separator ys with
      | nil => exact absurd hf (fields_ne_nil separator ys)
      | cons run runs =>
        rw [hf] at ih
        rw [fields, if_neg hy, hf, List.mem_cons, ← ih]
        simp [or_assoc]

/-- The runs, each with a separator after it, are the list with one more separator. -/
theorem flatMap_fields {α : Type} [DecidableEq α] (separator : α) (xs : List α) :
    (fields separator xs).flatMap (· ++ [separator]) = xs ++ [separator] := by
  induction xs with
  | nil => rfl
  | cons x xs ih =>
    cases hf : fields separator xs with
    | nil => exact absurd hf (fields_ne_nil separator xs)
    | cons run runs =>
      rw [hf] at ih
      by_cases hx : x = separator
      · rw [fields, if_pos hx, hf, List.flatMap_cons, ih, hx]
        rfl
      · rw [fields, if_neg hx, hf, List.cons_append, ← ih]
        rfl

/-- Lists without a separator, each with one after it, are the first runs of what they start. -/
theorem fields_flatMap_append {α : Type} [DecidableEq α] {separator : α} {runs : List (List α)}
    (h : ∀ run ∈ runs, separator ∉ run) (xs : List α) :
    fields separator (runs.flatMap (· ++ [separator]) ++ xs) = runs ++ fields separator xs := by
  induction runs with
  | nil => rfl
  | cons run runs ih =>
    rw [List.forall_mem_cons] at h
    rw [List.flatMap_cons, List.append_assoc, List.append_assoc, List.singleton_append,
      fields_append_cons, fields_of_not_mem h.1, ih h.2]
    rfl

end InterpreterHost
