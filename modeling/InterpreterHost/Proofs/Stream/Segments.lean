import InterpreterHost.Stream

/-! Inputs without their chunks. `Input.signals` are the bytes, ends and failures that reads of an
input show, and `Signal.cut` cuts them into segments, a segment being a line or what an end leaves
of one. The main statements are about `Input.readLine`: it takes the first segment of its input or
finds where the cutting stops (`cutting_of_segment`, `cutting_of_end`, `cutting_of_failure`), and
what its calls showed is cut in the same way (`cut_readLine`). -/

namespace InterpreterHost

/-- What reads show of an input, byte by byte. -/
inductive Signal where
  | byte (b : UInt8)
  | ended
  | failed (failure : Failure)
deriving DecidableEq

/-- Why nothing more is taken from an input. -/
inductive Stop where
  | ended
  | failed (failure : Failure)
deriving DecidableEq

/-- Signals cut into segments: those that are complete, the bytes of one that is not, and where the
cutting stopped, if it did. -/
structure Cutting where
  segments : List (List UInt8)
  opened : List UInt8
  stop : Option Stop

/-- The same cutting with one more segment before it. -/
def Cutting.after (cutting : Cutting) (segment : List UInt8) : Cutting :=
  { cutting with segments := segment :: cutting.segments }

/-- Cuts signals into segments, the first of which has begun with `opened`. A segment is complete
after its first newline or, if it is not empty, at an end. The cutting stops at an end that is
shown while the segment is empty, and at a failure; only interruptions are passed over. -/
def Signal.cut (opened : List UInt8) : List Signal → Cutting
  | [] => ⟨[], opened, none⟩
  | byte b :: later =>
    if b = newline then (cut [] later).after (opened ++ [b]) else cut (opened ++ [b]) later
  | ended :: later => if opened = [] then ⟨[], [], some .ended⟩ else (cut [] later).after opened
  | failed failure :: later =>
    if failure.kind = .interrupted then cut opened later else ⟨[], opened, some (.failed failure)⟩

/-- What a read call showed. A call that failed showed no byte and no end. -/
def InputEvent.signals : InputEvent → List Signal
  | took bytes => bytes.map .byte
  | ended => [.ended]
  | failed _ => []

/-- What the read calls of a trace showed. -/
def Event.shown (trace : List Event) : List Signal :=
  (trace.filterMap input?).flatMap InputEvent.signals

namespace Input

/-- What is still to come from an input before it is exhausted. -/
def signals : Input → List Signal
  | exhausted => []
  | chunk first others later => (first :: others).map .byte ++ later.signals
  | ended later => .ended :: later.signals
  | failing failure later => .failed failure :: later.signals

/-- The bytes still to come from an input. -/
def bytes : Input → List UInt8
  | exhausted => []
  | chunk first others later => first :: others ++ later.bytes
  | ended later => later.bytes
  | failing _ later => later.bytes

/-- All that is still to come from an input, cut into segments. An exhausted input ends for ever;
two ends are as good as any number of them. -/
def cutting (input : Input) : Cutting :=
  Signal.cut [] (input.signals ++ [.ended, .ended])

@[simp] theorem signals_push (bytes : List UInt8) (later : Input) :
    (push bytes later).signals = bytes.map .byte ++ later.signals := by
  cases bytes <;> rfl

theorem signals_ofBytes (bytes : List UInt8) : (ofBytes bytes).signals = bytes.map .byte := by
  rw [ofBytes, signals_push, signals, List.append_nil]

@[simp] theorem bytes_push (bytes : List UInt8) (later : Input) :
    (push bytes later).bytes = bytes ++ later.bytes := by
  cases bytes <;> rfl

end Input

namespace Signal

theorem cut_bytes {bytes : List UInt8} (h : cutLine? bytes = none) (opened : List UInt8)
    (later : List Signal) : cut opened (bytes.map byte ++ later) = cut (opened ++ bytes) later := by
  induction bytes generalizing opened with
  | nil => simp
  | cons b bs ih =>
    have hb : b ≠ newline := fun hb => by simp [cutLine?, hb] at h
    have hbs : cutLine? bs = none := by simpa [cutLine?, hb] using h
    simp [cut, hb, ih hbs]

/-- A line is its newline alone, or goes on after its first byte. -/
theorem cutLine?_cons {b : UInt8} {bs line rest : List UInt8}
    (h : cutLine? (b :: bs) = some (line, rest)) :
    b = newline ∧ line = [b] ∨
      b ≠ newline ∧ ∃ others, cutLine? bs = some (others, rest) ∧ line = b :: others := by
  by_cases hb : b = newline
  · rw [cutLine?, if_pos hb, Option.some.injEq, Prod.mk.injEq] at h
    exact .inl ⟨hb, h.1.symm⟩
  · rw [cutLine?, if_neg hb, Option.map_eq_some_iff] at h
    obtain ⟨⟨others, rest'⟩, hothers, heq⟩ := h
    obtain ⟨rfl, rfl⟩ := Prod.mk.inj heq
    exact .inr ⟨hb, others, hothers, rfl⟩

theorem cut_line {bytes line rest : List UInt8} (h : cutLine? bytes = some (line, rest))
    (opened : List UInt8) (later : List Signal) :
    cut opened (line.map byte ++ later) = (cut [] later).after (opened ++ line) := by
  induction bytes generalizing opened line with
  | nil => simp [cutLine?] at h
  | cons b bs ih =>
    rcases cutLine?_cons h with ⟨hb, rfl⟩ | ⟨hb, others, hothers, rfl⟩
    · simp [cut, hb]
    · simp [cut, hb, ih hothers]

theorem line_ne_nil {bytes line rest : List UInt8} (h : cutLine? bytes = some (line, rest)) :
    line ≠ [] := by
  cases bytes with
  | nil => simp [cutLine?] at h
  | cons b bs =>
    rcases cutLine?_cons h with ⟨-, rfl⟩ | ⟨-, others, -, rfl⟩
    · exact List.cons_ne_nil b []
    · exact List.cons_ne_nil b others

theorem cut_ended (opened : List UInt8) (later : List Signal) :
    cut opened (ended :: later) =
      if opened = [] then ⟨[], [], some .ended⟩ else (cut [] later).after opened := rfl

theorem cut_append_of_stop {opened : List UInt8} {signals : List Signal}
    (h : (cut opened signals).stop ≠ none) (more : List Signal) :
    cut opened (signals ++ more) = cut opened signals := by
  fun_induction cut opened signals with
  | case1 => exact absurd rfl h
  | case2 opened later ih => simp [cut, ih h]
  | case3 opened b later hb ih => simp [cut, hb, ih h]
  | case4 => simp [cut]
  | case5 opened later ho ih => simp [cut, ho, ih h]
  | case6 opened failure later hk ih => simp [cut, hk, ih h]
  | case7 opened failure later hk => simp [cut, hk]

/-- Two ends stop every cutting: one may complete a segment, the next finds nothing begun. -/
theorem stop_cut_ended (opened : List UInt8) (signals : List Signal) :
    (cut opened (signals ++ [ended, ended])).stop ≠ none := by
  fun_induction cut opened signals with
  | case1 opened =>
    by_cases ho : opened = [] <;> simp [cut, Cutting.after, ho]
  | case2 opened later ih => simpa [cut, Cutting.after] using ih
  | case3 opened b later hb ih => simpa [cut, hb] using ih
  | case4 => simp [cut]
  | case5 opened later ho ih => simpa [cut, ho, Cutting.after] using ih
  | case6 opened failure later hk ih => simpa [cut, hk] using ih
  | case7 opened failure later hk => simp [cut, hk]

end Signal

namespace Input

open Signal

/-- However often an input is found at its end, it is cut in the same way: two ends stop the
cutting, and what comes later is not seen. -/
theorem cut_endless (input : Input) (ends : Nat) :
    cut [] (input.signals ++ List.replicate (ends + 2) .ended) = input.cutting := by
  rw [Nat.add_comm, ← List.replicate_append_replicate, ← List.append_assoc]
  exact cut_append_of_stop (stop_cut_ended [] input.signals) _

theorem Taken.result_afterBytes_ok {taken : Taken} {bytes line : List UInt8} :
    (taken.afterBytes bytes).result = .ok line ↔
      ∃ rest, taken.result = .ok rest ∧ bytes ++ rest = line := by
  unfold Taken.afterBytes
  cases taken.result <;> simp [Except.map]

theorem Taken.result_afterBytes_error {taken : Taken} {bytes : List UInt8} {failure : Failure} :
    (taken.afterBytes bytes).result = .error failure ↔ taken.result = .error failure := by
  unfold Taken.afterBytes
  cases taken.result <;> simp [Except.map]

/-- What the calls of a line that was read showed is cut into that line, or stops the cutting if
the line is empty. Chunks without a newline are left open, so this is said of whatever is open. -/
theorem cut_readLine {input : Input} {line : List UInt8} (h : input.readLine.result = .ok line)
    (opened : List UInt8) (more : List Signal) :
    cut opened (input.readLine.events.flatMap InputEvent.signals ++ more) =
      if opened ++ line = [] then ⟨[], [], some .ended⟩
      else (cut [] more).after (opened ++ line) := by
  fun_induction readLine input generalizing opened line with
  | case1 | case2 =>
    obtain rfl : [] = line := Except.ok.inj h
    simp [InputEvent.signals, cut_ended]
  | case3 failure later hk ih => exact ih h opened
  | case4 => simp at h
  | case5 first others later l rest hc =>
    obtain rfl : l = line := Except.ok.inj h
    simp [InputEvent.signals, cut_line hc, line_ne_nil hc]
  | case6 first others later hc ih =>
    obtain ⟨rest, hr, rfl⟩ := Taken.result_afterBytes_ok.mp h
    simp only [Taken.afterBytes, Taken.after, List.flatMap_cons, InputEvent.signals]
    rw [List.append_assoc, cut_bytes hc, ih hr, List.append_assoc]

theorem cut_of_readLine {input : Input} {line : List UInt8} (h : input.readLine.result = .ok line)
    (opened : List UInt8) :
    cut opened (input.signals ++ [.ended, .ended]) =
      if opened ++ line = [] then ⟨[], [], some .ended⟩
      else input.readLine.input.cutting.after (opened ++ line) := by
  fun_induction readLine input generalizing opened line with
  | case1 | case2 =>
    obtain rfl : [] = line := Except.ok.inj h
    simp [signals, cutting, cut_ended]
  | case3 failure later hk ih =>
    simp only [signals, List.cons_append, cut, if_pos hk]
    exact ih h opened
  | case4 => simp at h
  | case5 first others later l rest hc =>
    obtain rfl : l = line := Except.ok.inj h
    rw [signals, ← append_of_cutLine? hc, List.map_append, List.append_assoc, List.append_assoc,
      cut_line hc, if_neg (by simp [line_ne_nil hc]), cutting, signals_push, List.append_assoc]
  | case6 first others later hc ih =>
    obtain ⟨rest, hr, rfl⟩ := Taken.result_afterBytes_ok.mp h
    rw [signals, List.append_assoc, cut_bytes hc, ih hr, List.append_assoc]
    rfl

/-- A line that was read is the first segment of its input. -/
theorem cutting_of_segment {input : Input} {segment : List UInt8}
    (h : input.readLine.result = .ok segment) (some : segment ≠ []) :
    input.cutting = input.readLine.input.cutting.after segment := by
  rw [cutting, cut_of_readLine h, List.nil_append, if_neg some]

theorem cutting_of_end {input : Input} (h : input.readLine.result = .ok []) :
    input.cutting = ⟨[], [], some .ended⟩ := by
  rw [cutting, cut_of_readLine h, List.nil_append, if_pos rfl]

theorem cut_of_failure {input : Input} {failure : Failure}
    (h : input.readLine.result = .error failure) (opened : List UInt8) (more : List Signal) :
    cut opened (input.signals ++ more) =
      ⟨[], opened ++ input.readLine.events.flatMap InputEvent.bytes, some (.failed failure)⟩ := by
  fun_induction readLine input generalizing opened with
  | case1 | case2 => simp at h
  | case3 cause later hk ih =>
    simpa [signals, cut, hk, Taken.after, InputEvent.bytes] using ih h opened
  | case4 cause later hk =>
    obtain rfl : cause = failure := Except.error.inj h
    simp [signals, cut, hk, InputEvent.bytes]
  | case5 => simp at h
  | case6 first others later hc ih =>
    have hr := Taken.result_afterBytes_error.mp h
    rw [signals, List.append_assoc, cut_bytes hc, ih hr, List.append_assoc]
    rfl

/-- A read that fails for good stops the cutting, and what was taken stays open. -/
theorem cutting_of_failure {input : Input} {failure : Failure}
    (h : input.readLine.result = .error failure) :
    input.cutting =
      ⟨[], input.readLine.events.flatMap InputEvent.bytes, some (.failed failure)⟩ :=
  cut_of_failure h [] _

/-- The first calls of a line complete no segment, and all of them together one at most. -/
theorem segments_readLine {input : Input} {before after : List InputEvent}
    (h : input.readLine.events = before ++ after) (opened : List UInt8) :
    (cut opened (before.flatMap InputEvent.signals)).segments.length ≤
      if after = [] then 1 else 0 := by
  fun_induction readLine input generalizing before opened with
  | case1 | case2 =>
    rcases List.append_eq_singleton_iff.mp h.symm with ⟨rfl, rfl⟩ | ⟨rfl, rfl⟩
    · exact Nat.zero_le _
    · by_cases ho : opened = [] <;> simp [InputEvent.signals, cut, Cutting.after, ho]
  | case4 =>
    rcases List.append_eq_singleton_iff.mp h.symm with ⟨rfl, rfl⟩ | ⟨rfl, rfl⟩ <;>
    exact Nat.zero_le _
  | case5 first others later line rest hc =>
    rcases List.append_eq_singleton_iff.mp h.symm with ⟨rfl, rfl⟩ | ⟨rfl, rfl⟩
    · exact Nat.zero_le _
    · have hcut := cut_line hc opened []
      rw [List.append_nil] at hcut
      rw [List.flatMap_singleton, InputEvent.signals, hcut]
      exact Nat.le_refl 1
  | case3 failure later hk ih =>
    cases before with
    | nil => exact Nat.zero_le _
    | cons head before =>
      obtain ⟨rfl, hrest⟩ := List.cons.inj h
      exact ih hrest opened
  | case6 first others later hc ih =>
    cases before with
    | nil => exact Nat.zero_le _
    | cons head before =>
      obtain ⟨rfl, hrest⟩ := List.cons.inj h
      rw [List.flatMap_cons, InputEvent.signals, cut_bytes hc]
      exact ih hrest (opened ++ first :: others)

theorem events_readLine {input : Input} {line : List UInt8} (h : input.readLine.result = .ok line) :
    input.readLine.events.flatMap InputEvent.bytes = line := by
  fun_induction readLine input generalizing line with
  | case1 | case2 =>
    obtain rfl : [] = line := Except.ok.inj h
    rfl
  | case3 failure later hk ih => exact ih h
  | case4 => simp at h
  | case5 first others later l rest hc =>
    obtain rfl : l = line := Except.ok.inj h
    simp [InputEvent.bytes]
  | case6 first others later hc ih =>
    obtain ⟨rest, hr, rfl⟩ := Taken.result_afterBytes_ok.mp h
    simp only [Taken.afterBytes, Taken.after, List.flatMap_cons, InputEvent.bytes, ih hr]

theorem bytes_readLine (input : Input) :
    input.readLine.events.flatMap InputEvent.bytes ++ input.readLine.input.bytes = input.bytes := by
  fun_induction readLine input with
  | case1 | case2 | case4 => rfl
  | case3 failure later hk ih => exact ih
  | case5 first others later line rest hc =>
    simp [InputEvent.bytes, bytes, ← append_of_cutLine? hc]
  | case6 first others later hc ih =>
    simp only [Taken.afterBytes, Taken.after, List.flatMap_cons, InputEvent.bytes,
      List.append_assoc, ih]
    rfl

end Input

/-! ### Up to the first end

The part of an input before its first end: its bytes (`Input.body`) and what stops it
(`Input.stop`). `Input.took_of_read`, `Input.ended_of_read` and `Input.failed_of_read` say what one
read call does to them, by its result. -/

namespace Input

/-- The bytes before the first end or failure for good. Interruptions are passed over. -/
def body : Input → List UInt8
  | exhausted | ended _ => []
  | chunk first others later => first :: others ++ later.body
  | failing failure later => if failure.kind = .interrupted then later.body else []

/-- What comes after the body. -/
def stop : Input → Stop
  | exhausted | ended _ => .ended
  | chunk _ _ later => later.stop
  | failing failure later => if failure.kind = .interrupted then later.stop else .failed failure

@[simp] theorem body_push (bytes : List UInt8) (later : Input) :
    (push bytes later).body = bytes ++ later.body := by
  cases bytes <;> rfl

@[simp] theorem stop_push (bytes : List UInt8) (later : Input) :
    (push bytes later).stop = later.stop := by
  cases bytes <;> rfl

variable {input : Input} {limit : Nat}

/-- A read call that took bytes took the first ones of the body, and no more than its limit. -/
theorem took_of_read {taken : List UInt8} (h : (input.read limit).result = .ok taken)
    (some : taken ≠ []) :
    (input.read limit).events = [.took taken] ∧ taken.length ≤ limit ∧
      taken ++ (input.read limit).input.body = input.body ∧
      (input.read limit).input.stop = input.stop := by
  cases input with
  | exhausted | ended => exact absurd (Except.ok.inj h).symm some
  | failing => simp [read] at h
  | chunk first others later =>
    obtain rfl : (first :: others).take limit = taken := Except.ok.inj h
    refine ⟨rfl, List.length_take_le limit _, ?_, ?_⟩
    · rw [read, body_push, ← List.append_assoc, List.take_append_drop, body]
    · rw [read, stop_push, stop]

/-- A read call that took nothing stood at the end. -/
theorem ended_of_read (positive : 0 < limit) (h : (input.read limit).result = .ok []) :
    (input.read limit).events = [.ended] ∧ input.body = [] ∧ input.stop = .ended := by
  cases input with
  | exhausted | ended => exact ⟨rfl, rfl, rfl⟩
  | failing => simp [read] at h
  | chunk first others later =>
    have := congrArg List.length (Except.ok.inj h)
    simp only [List.length_take, List.length_cons, List.length_nil] at this
    omega

/-- A read call that failed met a failure, which stops the body if it is not an interruption. -/
theorem failed_of_read {failure : Failure} (h : (input.read limit).result = .error failure) :
    (input.read limit).events = [.failed failure.kind] ∧
      input = .failing failure (input.read limit).input := by
  cases input with
  | exhausted | ended | chunk => simp [read] at h
  | failing cause later =>
    obtain rfl : cause = failure := Except.error.inj h
    exact ⟨rfl, rfl⟩

theorem bytes_read (limit : Nat) (input : Input) :
    (input.read limit).events.flatMap InputEvent.bytes ++ (input.read limit).input.bytes =
      input.bytes := by
  cases input with
  | exhausted | ended | failing => rfl
  | chunk first others later =>
    rw [read, bytes_push, List.flatMap_singleton, InputEvent.bytes, ← List.append_assoc,
      List.take_append_drop, bytes]

end Input

end InterpreterHost
