import InterpreterHost.Launch
import InterpreterHost.Proofs.Log.Filters
import Mathlib.Data.List.Basic

/-! What a launch notes. Its journal holds the notes of the host among the remarks of the
interpreter, and a filter that goes into the detail of the host's notes shows all of them
(`Launch.notesShown_eq`). For each course of a launch the notes are said in order: every failure
that the launch does not end in is in one of them, and no other is. -/

namespace InterpreterHost

variable {σ : Type}

/-- The note that a line of a journal is, if it is one of the host's. -/
def JournalLine.note? : JournalLine → Option Note
  | host note => some note
  | interpreter _ => none

/-- The notes of a launch that a filter shows. -/
def Launch.notesShown (launched : Launch σ) (filter : Log.Filter) : List Note :=
  (launched.journal.filter (filter.shows ·.record)).filterMap JournalLine.note?

/-- A filter that shows records as detailed as the host's notes hides none of them. -/
theorem Launch.notesShown_eq {filter : Log.Filter} (enabled : filter.Enables .debug Note.target)
    (launched : Launch σ) :
    launched.notesShown filter = launched.journal.filterMap JournalLine.note? := by
  have shown (note : Note) : filter.shows note.record = true :=
    (filter.shows_iff note.record).mpr enabled
  rw [notesShown, List.filterMap_filter]
  refine List.filterMap_congr fun line _ => ?_
  cases line with
  | host note => exact if_pos (shown note)
  | interpreter remark => exact ite_self none

theorem filterMap_note?_notes (result : Except Failure Unit) (failed : Failure → Note) :
    (notes result failed).filterMap JournalLine.note? = (failure? result).toList.map failed := by
  rcases result with failure | ⟨⟩ <;> rfl

/-- Of an operation's journal only the note of its failure is the host's. -/
theorem Passage.filterMap_note?_journal (passage : Passage σ) (failed : Failure → Note) :
    (passage.journal failed).filterMap JournalLine.note? =
      (failure? passage.result).toList.map failed := by
  have remarks :
      (passage.remarks.map JournalLine.interpreter).filterMap JournalLine.note? = [] := by
    simp [List.filterMap_map, Function.comp_def, JournalLine.note?]
  rw [journal, List.filterMap_append, remarks, filterMap_note?_notes, List.nil_append]

/-- The failure that a note tells of, if it tells of one. -/
def Note.failure? : Note → Option Failure
  | scriptUnavailable _ failure => some failure
  | scriptFailed failure => some failure
  | greetingFailed failure => some failure
  | conversationFailed failure => some failure
  | _ => none

theorem Note.error_mem_fields {note : Note} {failure : Failure}
    (tells : note.failure? = some failure) : ("error", failure.text) ∈ note.record.fields := by
  cases note <;> cases tells <;> simp [record, values]

namespace Host

variable {host : Host σ} {scripts : Path → Except Failure (List UInt8)} {args : List Path}
  {identity : Identity} {path : Path} {failure : Failure} {data : List UInt8}

theorem notes_executed (lookup : host.roster.current = .ok identity)
    (opening : scripts path = .ok data) :
    (host.launch scripts [path]).journal.filterMap JournalLine.note? =
      [.chosen (.script path), .scriptStarting path] ++
        (failure?
          (host.interpreter.execute host.state (.ofBytes data) host.output).result).toList.map
            .scriptFailed := by
  rw [launch_executed lookup opening]
  exact congrArg (_ :: _ :: ·) (Passage.filterMap_note?_journal _ _)

theorem notes_conversed (lookup : host.roster.current = .ok identity) (many : args.length ≠ 1) :
    let greeted := Greeting.write identity host.output
    (host.launch scripts args).journal.filterMap JournalLine.note? =
      .chosen .conversation :: (failure? greeted.result).toList.map .greetingFailed ++
        .conversationStarting :: (failure? (host.interpreter.converse host.state host.input
          greeted.output).result).toList.map .conversationFailed := by
  intro greeted
  rw [launch_conversed lookup many]
  have told : ((host.asked.converse identity).journal).filterMap JournalLine.note? =
      (failure? greeted.result).toList.map .greetingFailed ++ .conversationStarting ::
        (failure? (host.interpreter.converse host.state host.input
          greeted.output).result).toList.map .conversationFailed := by
    rw [converse, List.filterMap_append, filterMap_note?_notes]
    exact congrArg (_ ++ _ :: ·) (Passage.filterMap_note?_journal _ _)
  exact congrArg (_ :: ·) told

/-- For every interpreter, roster, scripts and state of the streams: the notes of a launch that a
filter shows, if it goes into their detail, are in order the following. If nobody is found there is
none. Else there is one of the mode. After it, a script that cannot be opened has one with the
failure to open it, and nothing else is in the journal; a script that is executed has one of its
start and one with the failure of the interpreter, just if it failed; and a conversation has one
with the failure of the greeting, just if that failed, one of its start and one with the failure of
the interpreter, just if it failed. A note with a failure has the text of it. -/
theorem launch_notes (host : Host σ) (scripts : Path → Except Failure (List UInt8))
    (args : List Path) {filter : Log.Filter} (enabled : filter.Enables .debug Note.target) :
    let launched := host.launch scripts args
    let shown := launched.notesShown filter
    (∀ cause, host.roster.current = .error cause → shown = [] ∧ launched.journal = []) ∧
    (∀ identity, host.roster.current = .ok identity →
      (∀ path failure, args = [path] → scripts path = .error failure →
        shown = [.chosen (.script path), .scriptUnavailable path failure] ∧
          launched.journal = shown.map .host) ∧
      (∀ path data, args = [path] → scripts path = .ok data →
        let result := (host.interpreter.execute host.state (.ofBytes data) host.output).result
        shown = [.chosen (.script path), .scriptStarting path] ++
          (failure? result).toList.map .scriptFailed) ∧
      (args.length ≠ 1 →
        let greeted := Greeting.write identity host.output
        let result := (host.interpreter.converse host.state host.input greeted.output).result
        shown = .chosen .conversation :: (failure? greeted.result).toList.map .greetingFailed ++
          .conversationStarting :: (failure? result).toList.map .conversationFailed)) ∧
    ∀ note ∈ shown, ∀ failure, note.failure? = some failure →
      ("error", failure.text) ∈ note.record.fields := by
  intro launched shown
  have shows : shown = launched.journal.filterMap JournalLine.note? :=
    launched.notesShown_eq enabled
  refine ⟨fun cause lookup => ?_, fun identity lookup => ⟨?_, ?_, ?_⟩, ?_⟩
  · have hlaunched : launched = _ := launch_nobody lookup
    rw [shows, hlaunched]
    exact ⟨rfl, rfl⟩
  · rintro path failure rfl opening
    have hlaunched : launched = _ := launch_unavailable lookup opening
    rw [shows, hlaunched]
    exact ⟨rfl, rfl⟩
  · rintro path data rfl opening
    exact shows.trans (notes_executed lookup opening)
  · intro many
    exact shows.trans (notes_conversed lookup many)
  · intro note _ failure tells
    exact Note.error_mem_fields tells

/-- What is noted of a conversation after a greeting that failed, of a script that failed and of a
script that is missing. -/
theorem notes_of_failed_greeting :
    let output : Output := ⟨0, some 4, [WriteFault.refusing 6 none], 0, []⟩
    let interpreter : Interpreter Unit :=
      .ofCourses { failure := some (.plain .other) } { failure := some (.system .noSpace) }
    let bob : Host Unit := ⟨.ofList (.ok ⟨"bob"⟩) [], interpreter, (), .exhausted, output⟩
    let scripts (path : Path) : Except Failure (List UInt8) :=
      if path = [0x66] then .ok [0x61] else .error (.system .noEntry)
    let filter := Log.Filter.empty.add ⟨none, some .debug⟩
    filter.Enables .debug Note.target ∧
      (bob.launch scripts []).notesShown filter =
        [.chosen .conversation, .greetingFailed .nothingAccepted, .conversationStarting,
          .conversationFailed (.plain .other)] ∧
      (bob.launch scripts [[0x66]]).notesShown filter =
        [.chosen (.script [0x66]), .scriptStarting [0x66], .scriptFailed (.system .noSpace)] ∧
      (bob.launch scripts [[]]).notesShown filter =
        [.chosen (.script []), .scriptUnavailable [] (.system .noEntry)] := by
  intro output interpreter bob scripts filter
  have enabled : filter.Enables .debug Note.target := by decide +kernel
  have greeted : (Greeting.write ⟨"bob"⟩ bob.output).result = .error .nothingAccepted := by
    decide +kernel
  have conversed : (bob.interpreter.converse bob.state bob.input
      (Greeting.write ⟨"bob"⟩ bob.output).output).result = .error (.plain .other) := by
    decide +kernel
  have executed : (bob.interpreter.execute bob.state (.ofBytes [0x61]) bob.output).result =
      .error (.system .noSpace) := by
    decide +kernel
  obtain ⟨-, talk, -⟩ := bob.launch_notes scripts [] enabled
  obtain ⟨-, file, -⟩ := bob.launch_notes scripts [[0x66]] enabled
  obtain ⟨-, missing, -⟩ := bob.launch_notes scripts [[]] enabled
  refine ⟨enabled, ?_, ?_, ?_⟩
  · rw [(talk ⟨"bob"⟩ rfl).2.2 (by decide), greeted, conversed]
    rfl
  · rw [(file ⟨"bob"⟩ rfl).2.1 [0x66] [0x61] rfl rfl, executed]
    rfl
  · exact ((missing ⟨"bob"⟩ rfl).1 [] (.system .noEntry) rfl rfl).1

end Host

end InterpreterHost
