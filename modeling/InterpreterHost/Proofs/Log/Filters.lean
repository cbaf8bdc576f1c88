import InterpreterHost.Log
import Mathlib.Tactic.ByContra

/-! What filters show, and what stops their reader. Only the level and the target of a record count:
a filter has one threshold for a target (`Filter.threshold`) and shows the records that are no more
detailed (`Filter.shows_iff`). A reader is stopped by no other directives than such as begin with a
blank and have a character of several bytes (`Filter.exists_torn_directive`). -/

namespace InterpreterHost

/-! ### What stops a reader -/

section Except

variable {α β ε : Type} {failure : ε}

theorem error_of_bind {x : Except ε α} {f : α → Except ε β} (h : x >>= f = .error failure) :
    x = .error failure ∨ ∃ a, x = .ok a ∧ f a = .error failure := by
  cases x with
  | error e =>
    cases h
    exact .inl rfl
  | ok a => exact .inr ⟨a, rfl, h⟩

theorem exists_of_mapM_error {f : α → Except ε β} {xs : List α}
    (h : xs.mapM f = .error failure) : ∃ x ∈ xs, f x = .error failure := by
  induction xs with
  | nil => cases h
  | cons x xs ih =>
    rw [List.mapM_cons] at h
    obtain first | ⟨y, -, h⟩ := error_of_bind h
    · exact ⟨x, .head _, first⟩
    · obtain later | ⟨ys, -, h⟩ := error_of_bind h
      · obtain ⟨x', member, failed⟩ := ih later
        exact ⟨x', .tail _ member, failed⟩
      · cases h

end Except

theorem trimBlanks_prefix {text : List Char} (h : ∀ c ∈ text.head?, isBlank c = false) :
    trimBlanks text <+: text := by
  have kept : text.dropWhile isBlank = text := by
    cases text with
    | nil => rfl
    | cons c cs => exact List.dropWhile_cons_of_neg (by simp [h c rfl])
  rw [trimBlanks, kept]
  have reversed := List.reverse_prefix.mpr (List.dropWhile_suffix (l := text.reverse) isBlank)
  rwa [List.reverse_reverse] at reversed

namespace Log

namespace Tear

variable {edge : Edge} {offset start n : Nat} {c : Char} {text front rest : List Char} {tear : Tear}

/-- The tear is inside a character of the text that has several bytes. -/
def Within (tear : Tear) (text : List Char) : Prop :=
  tear.char ∈ text ∧ 1 < tear.char.utf8Size

theorem around?_inside (h : around? offset start text = some (c, n)) :
    c ∈ text ∧ n < offset ∧ offset < n + c.utf8Size := by
  induction text generalizing start with
  | nil => cases h
  | cons d ds ih =>
    unfold around? at h
    split at h
    · cases h
    · split at h
      · cases h
        exact ⟨.head _, by omega, by assumption⟩
      · obtain ⟨member, inside⟩ := ih h
        exact ⟨.tail _ member, inside⟩

/-- Where some characters of a text end, there is none around. -/
theorem around?_boundary (front rest : List Char) (start : Nat) :
    around? (start + (front.flatMap String.utf8EncodeChar).length) start (front ++ rest) =
      none := by
  induction front generalizing start with
  | nil => cases rest <;> simp [around?]
  | cons c cs ih =>
    have size := c.utf8Size_pos
    have next := ih (start + c.utf8Size)
    rw [List.flatMap_cons, List.length_append, String.length_utf8EncodeChar, ← Nat.add_assoc,
      List.cons_append, around?, if_neg (by omega), if_neg (by omega)]
    exact next

theorem within_of_check (h : check edge offset text = .error (.torn tear)) : tear.Within text := by
  unfold check at h
  split at h
  · cases h
  · next c n found =>
    cases h
    obtain ⟨member, before, after⟩ := around?_inside found
    exact ⟨member, by show 1 < c.utf8Size; omega⟩

theorem check_boundary (edge : Edge) (h : text = front ++ rest)
    (size : offset = (Utf8.encode (String.ofList front)).length) :
    check edge offset text = .ok () := by
  have none := around?_boundary front rest 0
  rw [Nat.zero_add] at none
  rw [check, h, size, Utf8.encode_eq_flatMap, String.toList_ofList, none]

end Tear

namespace Directive

variable {piece : List Char} {tear : Tear}

/-- A directive is torn by one of the two cuts at the end of its target, as that is found in the
directive without the blanks around it. -/
theorem check_of_parse (h : parse piece = .error (.torn tear)) :
    ∃ target sign others cut, trimBlanks piece = target ++ sign :: others ∧
      cut = (Utf8.encode (String.ofList target)).length ∧
      (Tear.check .stop cut piece = .error (.torn tear) ∨
        sign = '=' ∧ Tear.check .start (cut + 1) piece = .error (.torn tear)) := by
  unfold parse at h
  dsimp only at h
  split at h
  · split at h
    · cases h
    · next sign others shape =>
      have whole := List.prefix_iff_eq_append.mp
        (List.takeWhile_prefix (l := trimBlanks piece) (!endsTarget ·))
      rw [shape] at whole
      refine ⟨_, sign, others, _, whole.symm, rfl, ?_⟩
      obtain stop | ⟨-, -, h⟩ := error_of_bind h
      · exact .inl stop
      · split at h
        · next level =>
          obtain start | ⟨-, -, h⟩ := error_of_bind h
          · exact .inr ⟨level, start⟩
          · revert h
            cases ofBytes? _ _ <;> rintro ⟨⟩
        · cases h
  · cases h

theorem within_of_parse (h : parse piece = .error (.torn tear)) : tear.Within piece := by
  obtain ⟨_, _, _, _, -, -, stop | ⟨-, start⟩⟩ := check_of_parse h
  · exact Tear.within_of_check stop
  · exact Tear.within_of_check start

/-- Without blanks in front of it a directive is cut where its shape says, which tears nothing. -/
theorem blank_of_parse (h : parse piece = .error (.torn tear)) : ∃ c ∈ piece.head?, isBlank c := by
  obtain ⟨target, sign, others, cut, shape, rfl, cuts⟩ := check_of_parse h
  by_contra unblank
  have front : ∀ c ∈ piece.head?, isBlank c = false := by
    intro c hc
    exact Bool.eq_false_iff.mpr fun blank => unblank ⟨c, hc, blank⟩
  obtain ⟨blanks, hpiece⟩ := trimBlanks_prefix front
  rw [shape] at hpiece
  obtain stop | ⟨rfl, start⟩ := cuts
  · have whole : piece = target ++ (sign :: others ++ blanks) := by
      rw [← hpiece, List.append_assoc]
    rw [Tear.check_boundary .stop whole rfl] at stop
    cases stop
  · have whole : piece = (target ++ ['=']) ++ (others ++ blanks) := by simp [← hpiece]
    have size : (Utf8.encode (String.ofList target)).length + 1 =
        (Utf8.encode (String.ofList (target ++ ['=']))).length := by
      simp [Utf8.encode_eq_flatMap]
      rfl
    rw [Tear.check_boundary .start whole size] at start
    cases start

end Directive

namespace Filter

variable {value : Option (List UInt8)} {tear : Tear}

theorem tear?_eq_some_iff : tear? value = some tear ↔ read value = .error (.torn tear) := by
  unfold tear?
  split
  · next found => simp [found]
  · next other =>
    constructor
    · rintro ⟨⟩
    · intro found
      exact absurd found (other tear)

/-- Only a directive that begins with a blank and has a character of several bytes stops its
reader. -/
theorem exists_torn_directive (h : tear? value = some tear) :
    ∃ text, value.bind Utf8.decode? = some text ∧ ∃ piece ∈ fields ',' text.toList,
      (∃ c ∈ piece.head?, isBlank c) ∧ tear.Within piece := by
  rw [tear?_eq_some_iff, read] at h
  cases decoded : value.bind Utf8.decode? with
  | none =>
    rw [decoded] at h
    cases h
  | some text =>
    rw [decoded] at h
    change (List.mapM Directive.parse _).map _ = _ at h
    cases reading : ((fields ',' text.toList).filter (· ≠ [])).mapM Directive.parse with
    | ok directives =>
      rw [reading] at h
      cases h
    | error failure =>
      rw [reading] at h
      cases h
      obtain ⟨piece, member, torn⟩ := exists_of_mapM_error reading
      exact ⟨text, rfl, piece, (List.mem_filter.mp member).1, Directive.blank_of_parse torn,
        Directive.within_of_parse torn⟩

end Filter

end Log

namespace Log

theorem Level.detail_pos (level : Level) : 0 < level.detail := by
  cases level <;> decide

namespace Filter

/-- The threshold for the records of `target`. -/
def threshold (filter : Filter) (target : String) : Threshold :=
  (filter.directives.find? (·.covers (Utf8.encode target))).bind Directive.threshold

/-- The filter shows the records of `level` and `target`. -/
def Enables (filter : Filter) (level : Level) (target : String) : Prop :=
  level.detail ≤ (filter.threshold target).detail

instance (filter : Filter) (level : Level) (target : String) :
    Decidable (filter.Enables level target) :=
  inferInstanceAs (Decidable (_ ≤ _))

theorem shows_iff (filter : Filter) (record : Record) :
    filter.shows record = true ↔ filter.Enables record.level record.target := by
  unfold shows Enables threshold
  split
  · next found => simp [found]
  · next none =>
    have := record.level.detail_pos
    rw [none]
    constructor
    · intro shown
      cases shown
    · intro (enabled : record.level.detail ≤ 0)
      omega

theorem threshold_standing (target : String) : standing.threshold target = some .warn := rfl

theorem ofVariable_unset {value : Option (List UInt8)} (unset : value.bind Utf8.decode? = none) :
    ofVariable value = standing := by
  rw [ofVariable, read, unset]
  rfl

theorem ofVariable_unread {value : Option (List UInt8)} {failure : Unread}
    (unread : read value = .error failure) : ofVariable value = standing := by
  rw [ofVariable, unread]
  rfl

/-- The filter shows no record of the more detailed levels that is of one of `targets`. -/
def Silences (filter : Filter) (targets : List String) : Prop :=
  ∀ target ∈ targets, ¬filter.Enables .debug target ∧ ¬filter.Enables .trace target

instance (filter : Filter) (targets : List String) : Decidable (filter.Silences targets) :=
  inferInstanceAs (Decidable (∀ target ∈ targets, _))

theorem silences_standing (targets : List String) : standing.Silences targets := by
  intro target _
  unfold Enables
  rw [threshold_standing]
  decide

end Filter

namespace Display

/-- The log is made of the lines of the records that are shown. -/
theorem log_eq (display : Display) (records : List Record) :
    display.log records =
      (records.filter display.filter.shows).flatMap fun record =>
        Utf8.encode (record.line display.color) := by
  induction records with
  | nil => rfl
  | cons record records ih =>
    unfold log at ih ⊢
    by_cases shown : display.filter.shows record = true
    · rw [List.filter_cons_of_pos shown, List.flatMap_cons, List.flatMap_cons, ih, text,
        if_pos shown]
    · rw [List.filter_cons_of_neg shown, List.flatMap_cons, ih, text, if_neg shown,
        List.nil_append]

end Display

end Log

end InterpreterHost
