import InterpreterHost.Proofs.Launch.Insulation
import InterpreterHost.Proofs.Log.Filters

/-! What the filter of the log decides about a run of the program. The repeater remarks on the end
of an operation that went well and on nothing else (`Repeater.converse_remarks`,
`Repeater.copy_remarks`). A launch adds the notes of its host (`Host.forall_journal_launch`) and the
program two records of its own, so all records are `Detailed`
(`Surroundings.detailed_programRecords`): only a filter that goes into that detail shows any. -/

namespace InterpreterHost

/-! ### Remarks of the repeater -/

namespace Repeater

theorem converse_remarks (lines : Nat) (input : Input) (output : Output) :
    ∃ n, (converse lines input output).remarks =
      if (converse lines input output).result.isOk then [conversationOver n] else [] := by
  fun_induction converse lines input output with
  | case1 lines input output asked failure unsent => exact ⟨lines, rfl⟩
  | case2 lines input output asked sent taken failure read => exact ⟨lines, rfl⟩
  | case3 lines input output asked sent taken read closed => exact ⟨lines, rfl⟩
  | case4 lines input output asked sent taken b bs read repeated failure unsent =>
    exact ⟨lines, rfl⟩
  | case5 lines input output asked sent taken b bs read repeated resent ih => exact ih

theorem copy_remarks (copied : Nat) (source : Input) (output : Output) :
    ∃ n, (copy copied source output).remarks =
      if (copy copied source output).result.isOk then [scriptOver n] else [] := by
  fun_induction copy copied source output with
  | case1 copied source output taken failure read interrupted ih => exact ih
  | case2 copied source output taken failure read lasting => exact ⟨copied, rfl⟩
  | case3 copied source output taken read flushed => exact ⟨copied, rfl⟩
  | case4 copied source output taken b bs read written failure writing => exact ⟨copied, rfl⟩
  | case5 copied source output taken b bs read written writing ih => exact ih

end Repeater

/-! ### Journals of launches -/

/-- Whatever the interpreter remarks satisfies `P`. -/
structure Interpreter.Remarks {σ : Type} (interpreter : Interpreter σ) (P : Log.Record → Prop) :
    Prop where
  converse : ∀ state input output,
    ∀ remark ∈ (interpreter.converse state input output).remarks, P remark
  execute : ∀ state source output,
    ∀ remark ∈ (interpreter.execute state source output).remarks, P remark

section Journals

variable {σ : Type} {P : Log.Record → Prop}

theorem forall_notes (hosts : ∀ note : Note, P note.record) (result : Except Failure Unit)
    (failed : Failure → Note) : ∀ line ∈ notes result failed, P line.record := by
  cases result with
  | ok _ => exact List.forall_mem_nil _
  | error failure => exact List.forall_mem_singleton.mpr (hosts (failed failure))

theorem Passage.forall_journal (hosts : ∀ note : Note, P note.record) {passage : Passage σ}
    (remarks : ∀ remark ∈ passage.remarks, P remark) (failed : Failure → Note) :
    ∀ line ∈ passage.journal failed, P line.record := by
  rw [journal, List.forall_mem_append, List.forall_mem_map]
  exact ⟨remarks, forall_notes hosts passage.result failed⟩

/-- What holds of the notes of hosts and of an interpreter's remarks holds of all records of its
launches. -/
theorem Host.forall_journal_launch (hosts : ∀ note : Note, P note.record) {host : Host σ}
    (remarks : host.interpreter.Remarks P) (scripts : Path → Except Failure (List UInt8))
    (args : List Path) : ∀ line ∈ (host.launch scripts args).journal, P line.record := by
  cases host.launchCourse scripts args with
  | nobody cause lookup =>
    rw [launch_nobody lookup]
    exact List.forall_mem_nil _
  | conversed identity lookup many =>
    rw [launch_conversed lookup many]
    refine List.forall_mem_cons.mpr ⟨hosts _, List.forall_mem_append.mpr ⟨?_, ?_⟩⟩
    · exact forall_notes hosts _ _
    · exact List.forall_mem_cons.mpr
        ⟨hosts _, Passage.forall_journal hosts (remarks.converse _ _ _) _⟩
  | unavailable identity path failure lookup opening =>
    rw [launch_unavailable lookup opening]
    exact List.forall_mem_cons.mpr
      ⟨hosts _, List.forall_mem_singleton.mpr (hosts (.scriptUnavailable path failure))⟩
  | executed identity path data lookup opening =>
    rw [launch_executed lookup opening]
    exact List.forall_mem_cons.mpr ⟨hosts _, List.forall_mem_cons.mpr
      ⟨hosts _, Passage.forall_journal hosts (remarks.execute _ _ _) _⟩⟩

end Journals

/-! ### Records of the program -/

/-- The parts of the program that have something to log. -/
def targets : List String :=
  ["monkey", "monkey_cli::common::account", Note.target, Repeater.target]

/-- The record is of a part of the program, and of one of the two most detailed levels. -/
structure Log.Record.Detailed (record : Record) : Prop where
  level : record.level = .debug ∨ record.level = .trace
  target : record.target ∈ targets

theorem Note.detailed_record (note : Note) : note.record.Detailed where
  level := .inl rfl
  target := by
    show Note.target ∈ targets
    decide

theorem Repeater.detailed_remarks : interpreter.Remarks Log.Record.Detailed where
  converse state input output := by
    obtain ⟨n, remarks⟩ := converse_remarks 0 input output
    show ∀ remark ∈ (Repeater.converse 0 input output).remarks, remark.Detailed
    rw [remarks]
    split
    · exact List.forall_mem_singleton.mpr ⟨.inr rfl, (by decide : target ∈ targets)⟩
    · exact List.forall_mem_nil _
  execute state source output := by
    obtain ⟨n, remarks⟩ := copy_remarks 0 source output
    show ∀ remark ∈ (Repeater.copy 0 source output).remarks, remark.Detailed
    rw [remarks]
    split
    · exact List.forall_mem_singleton.mpr ⟨.inr rfl, (by decide : target ∈ targets)⟩
    · exact List.forall_mem_nil _

namespace Surroundings

theorem detailed_launchRecords (s : Surroundings) :
    ∀ record ∈ s.launchRecords, record.Detailed := by
  rw [launchRecords, List.forall_mem_map]
  exact Host.forall_journal_launch Note.detailed_record Repeater.detailed_remarks s.scripts s.args

theorem detailed_programRecords (s : Surroundings) :
    ∀ record ∈ s.programRecords, record.Detailed := by
  unfold programRecords
  refine List.forall_mem_append.mpr
    ⟨List.forall_mem_append.mpr ⟨?_, s.detailed_launchRecords⟩, ?_⟩
  · split
    · exact List.forall_mem_singleton.mpr
        ⟨.inr rfl, (by decide : "monkey_cli::common::account" ∈ targets)⟩
    · exact List.forall_mem_nil _
  · split
    · exact List.forall_mem_singleton.mpr ⟨.inl rfl, (by decide : "monkey" ∈ targets)⟩
    · exact List.forall_mem_nil _

/-- A launch that fails has nothing to log: the lookup comes before anything that is noted. -/
theorem programRecords_of_error {s : Surroundings} {failure : LaunchFailure}
    (failed : s.launch.result = .error failure) : s.programRecords = [] := by
  have verdict := s.launch_verdict
  rw [failed] at verdict
  cases verdict with
  | nobody absent =>
    have lookup : (Roster.ofList s.identity []).current = .error _ := absent
    have launched : s.launch.journal = [] := by
      rw [launch, Host.launch_nobody lookup]
    rw [programRecords, absent, failed, launchRecords, launched]
    rfl

/-- The same surroundings but for the variable of the filter. -/
def filtered (s : Surroundings) (value : Option (List UInt8)) : Surroundings :=
  { s with filterVariable := value }

theorem errors_exit (s : Surroundings) (records : List Log.Record) :
    (s.exit records).errors = (records.filter s.display.filter.shows).flatMap
      (fun record => Utf8.encode (record.line s.display.color)) ++ report s.launch.result := by
  rw [exit, Log.Display.log_eq]

/-- Two values of the variable make the same run, error stream apart, if they both stop it or both
do not. -/
theorem run_alike_iff (s : Surroundings) (value other : Option (List UInt8)) :
    ((s.filtered value).run.status = (s.filtered other).run.status ∧
      (s.filtered value).run.output = (s.filtered other).run.output ∧
      (s.filtered value).run.taken = (s.filtered other).run.taken ∧
      (s.filtered value).run.left = (s.filtered other).run.left) ↔
    ((Log.Filter.tear? value).isSome ↔ (Log.Filter.tear? other).isSome) := by
  have launches {v : Option (List UInt8)} (h : Log.Filter.tear? v = none) :
      (s.filtered v).run = (s.filtered v).exit (s.filtered v).programRecords := run_of_launch h
  have stops {v : Option (List UInt8)} {tear : Log.Tear} (h : Log.Filter.tear? v = some tear) :
      (s.filtered v).run = (s.filtered v).stopped tear := run_of_tear h
  cases h : Log.Filter.tear? value with
  | none =>
    rw [launches h]
    cases h' : Log.Filter.tear? other with
    | none =>
      rw [launches h']
      exact iff_of_true ⟨rfl, rfl, rfl, rfl⟩ Iff.rfl
    | some tear =>
      rw [stops h']
      exact iff_of_false (fun same => status_ne_stoppedStatus _ same.1) (by simp)
  | some tear =>
    rw [stops h]
    cases h' : Log.Filter.tear? other with
    | none =>
      rw [launches h']
      exact iff_of_false (fun same => status_ne_stoppedStatus _ same.1.symm) (by simp)
    | some tear' =>
      rw [stops h']
      exact iff_of_true ⟨rfl, rfl, rfl, rfl⟩ (by simp)

theorem filter_shows_eq_nil (s : Surroundings) {filter : Log.Filter}
    (silent : filter.Silences targets) : s.programRecords.filter filter.shows = [] := by
  rw [List.filter_eq_nil_iff]
  intro record member shown
  obtain ⟨level, target⟩ := s.detailed_programRecords record member
  obtain ⟨debug, trace⟩ := silent record.target target
  rw [Log.Filter.shows_iff] at shown
  rcases level with level | level
  · exact debug (level ▸ shown)
  · exact trace (level ▸ shown)

theorem silences_standing {s : Surroundings}
    (quiet : s.filterVariable.bind Utf8.decode? = none ∨
      ∃ failure, Log.Filter.read s.filterVariable = .error failure) :
    s.display.filter.Silences targets := by
  have standing : Log.Filter.ofVariable s.filterVariable = .standing := by
    obtain unset | ⟨failure, unread⟩ := quiet
    · exact Log.Filter.ofVariable_unset unset
    · exact Log.Filter.ofVariable_unread unread
  show (Log.Filter.ofVariable s.filterVariable).Silences targets
  rw [standing]
  exact Log.Filter.silences_standing targets

/-- Only a run that reading the variable has stopped ends with that status. -/
theorem run_of_status_ne {s : Surroundings} (ended : s.run.status ≠ stoppedStatus) :
    s.run = s.exit s.programRecords := by
  cases torn : Log.Filter.tear? s.filterVariable with
  | none => exact run_of_launch torn
  | some tear =>
    rw [run_of_tear torn] at ended
    exact absurd rfl ended

theorem errors_of_status_one {s : Surroundings} (ended : s.run.status = 1) :
    ∃ failure, s.launch.result = .error failure ∧
      s.run.errors = Report.bytes ⟨false, .unicode⟩ failure.diagnostic := by
  have launched : s.run = s.exit s.programRecords := run_of_status_ne (by rw [ended]; decide)
  have status : status s.launch.result = 1 := by rwa [launched] at ended
  cases failed : s.launch.result with
  | ok ending =>
    rw [failed] at status
    cases status
  | error failure =>
    refine ⟨failure, rfl, ?_⟩
    rw [launched, errors_exit, programRecords_of_error failed, failed, List.filter_nil,
      List.flatMap_nil, List.nil_append, report, appearance]

theorem errors_eq_nil {s : Surroundings} (silent : s.display.filter.Silences targets)
    (ended : s.run.status = 0) : s.run.errors = [] := by
  have launched : s.run = s.exit s.programRecords := run_of_status_ne (by rw [ended]; decide)
  have status : status s.launch.result = 0 := by rwa [launched] at ended
  obtain ⟨ending, found⟩ := (status_eq_zero_iff s.launch.result).mp status
  rw [launched, errors_exit, s.filter_shows_eq_nil silent, found]
  rfl

/-- Two runs that differ in the variable of the filter end with the same status and the same output
and take the same of the input just if reading the variable stops both or neither. If it stops a
run, nothing is said or taken, and the variable has a directive that begins with a blank and has a
character of several bytes. If it does not, the error stream has the lines of those records that
the filter shows, out of records that are the same for all filters and `Detailed`, and then the
report of a failed launch, which is alone there whatever the variable is. If the variable is not
set or cannot be read, or its filter shows no detailed record of the program, the error stream of a
run that ends with status 0 is empty. -/
theorem run_blind_to_filter (s : Surroundings) (value other : Option (List UInt8)) :
    let first := s.filtered value
    let second := s.filtered other
    ((first.run.status = second.run.status ∧ first.run.output = second.run.output ∧
        first.run.taken = second.run.taken ∧ first.run.left = second.run.left) ↔
      ((Log.Filter.tear? value).isSome ↔ (Log.Filter.tear? other).isSome)) ∧
    (∀ tear, Log.Filter.tear? value = some tear →
      (first.run.status = 101 ∧ first.run.output = [] ∧ first.run.taken = []) ∧
      ∃ text, value.bind Utf8.decode? = some text ∧ ∃ piece ∈ fields ',' text.toList,
        (∃ c ∈ piece.head?, isBlank c) ∧ tear.Within piece) ∧
    (Log.Filter.tear? value = none →
      first.run.errors = (s.programRecords.filter first.display.filter.shows).flatMap
        (fun record => Utf8.encode (record.line s.display.color)) ++ report s.launch.result) ∧
    (∀ record ∈ s.programRecords, record.Detailed) ∧
    (first.run.status = 1 → ∃ failure, first.launch.result = .error failure ∧
      first.run.errors = Report.bytes ⟨false, .unicode⟩ failure.diagnostic) ∧
    (value.bind Utf8.decode? = none ∨ (∃ failure, Log.Filter.read value = .error failure) ∨
        first.display.filter.Silences targets →
      first.run.status = 0 → first.run.errors = []) := by
  intro first second
  refine ⟨s.run_alike_iff value other, ?_, ?_, s.detailed_programRecords, errors_of_status_one, ?_⟩
  · intro tear torn
    have stops : first.run = first.stopped tear := run_of_tear torn
    rw [stops]
    exact ⟨⟨rfl, rfl, rfl⟩, Log.Filter.exists_torn_directive torn⟩
  · intro whole
    have launches : first.run = first.exit s.programRecords := run_of_launch whole
    rw [launches]
    exact first.errors_exit s.programRecords
  · intro quiet
    obtain unset | unread | silent := quiet
    · exact errors_eq_nil (silences_standing (.inl unset))
    · exact errors_eq_nil (silences_standing (.inr unread))
    · exact errors_eq_nil silent

/-- Filters that show nothing, or all, of what a launch logs, and one that cannot be read. -/
theorem silent_below_debug :
    let s : Surroundings :=
      { args := [[0x66]], scripts := fun _ => .error (.system .noEntry), identity := .ok ⟨"bob"⟩,
        input := .exhausted, output := {} }
    let nobody : Surroundings := { s with identity := .error ⟨.plain .notFound⟩ }
    let brief := some (Utf8.encode "info,monkey_core=warn")
    let full := some (Utf8.encode "trace")
    let unreadable := some (Utf8.encode "trace,a=b")
    (s.filtered brief).run.output = (s.filtered full).run.output ∧
      (s.filtered brief).run.errors = [] ∧ (s.filtered none).run.errors = [] ∧
      (s.filtered unreadable).run.errors = [] ∧ (s.filtered full).run.errors ≠ [] ∧
      ∃ failure, (nobody.filtered full).run.errors =
        Report.bytes ⟨false, .unicode⟩ (LaunchFailure.nobody failure).diagnostic := by
  intro s nobody brief full unreadable
  obtain ⟨same, -, -, -, -, silent⟩ := s.run_blind_to_filter brief full
  obtain ⟨-, -, -, -, -, unset⟩ := s.run_blind_to_filter none full
  obtain ⟨-, -, -, -, -, unread⟩ := s.run_blind_to_filter unreadable full
  obtain ⟨-, -, -, -, failed, -⟩ := nobody.run_blind_to_filter full none
  have whole : Log.Filter.tear? brief = none := by decide +kernel
  have whole' : Log.Filter.tear? full = none := by decide +kernel
  have malformed : ∃ failure, Log.Filter.read unreadable = .error failure := by
    have nothing : (Log.Filter.read unreadable).toOption = none := by decide +kernel
    cases reading : Log.Filter.read unreadable with
    | error failure => exact ⟨failure, rfl⟩
    | ok filter =>
      rw [reading] at nothing
      cases nothing
  have quiet : (s.filtered brief).display.filter.Silences targets := by decide +kernel
  obtain ⟨-, output, -⟩ := same.mpr (by rw [whole, whole'])
  obtain ⟨⟨cause⟩, -, reported⟩ := failed (by decide +kernel)
  refine ⟨output, silent (.inr (.inr quiet)) (by decide +kernel), unset (.inl rfl) rfl,
    unread (.inr (.inl malformed)) (by decide +kernel), ?_, cause, reported⟩
  decide +kernel

/-- A directive with a blank in front of it and a character of two bytes: the program does not fall
back on the standing filter, it stops before it has said anything. -/
theorem stopped_by_torn_directive :
    let s : Surroundings :=
      { args := [], scripts := fun _ => .error (.system .noEntry), identity := .ok ⟨"bob"⟩,
        input := .ofBytes [0x78], output := {} }
    let torn := some (Utf8.encode "warn, café=debug")
    (¬∀ value other, (s.filtered value).run.status = (s.filtered other).run.status ∧
      (s.filtered value).run.output = (s.filtered other).run.output ∧
      (s.filtered value).run.taken = (s.filtered other).run.taken) ∧
    Log.Filter.tear? torn = some ⟨.stop, 5, 'é', 4⟩ ∧
    (s.filtered torn).run.status = 101 ∧ (s.filtered torn).run.output = [] ∧
    (s.filtered none).run.status = 0 ∧ (s.filtered none).run.output ≠ [] := by
  intro s torn
  have tear : Log.Filter.tear? torn = some ⟨.stop, 5, 'é', 4⟩ := by decide +kernel
  have stops : (s.filtered torn).run = (s.filtered torn).stopped _ := run_of_tear tear
  have launches : (s.filtered none).run.status = 0 := rfl
  have ends : (s.filtered torn).run.status = 101 := by
    rw [stops]
    rfl
  refine ⟨?_, tear, ends, by rw [stops]; rfl, launches, ?_⟩
  · intro same
    have alike := (same torn none).1
    rw [ends, launches] at alike
    cases alike
  · have greeted : (s.filtered none).run.output.length ≠ 0 := by decide +kernel
    intro nothing
    rw [nothing] at greeted
    exact greeted rfl

end Surroundings

end InterpreterHost
