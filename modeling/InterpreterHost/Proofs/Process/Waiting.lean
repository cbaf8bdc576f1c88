import InterpreterHost.Process
import InterpreterHost.Proofs.Repeater.Correspondence

/-! Runs of the program on a part of its input, after which a read fails. A run that gets there has
delivered a start of what it delivers on more input; one that does not is over, and does the same on
more (`Surroundings.run_foretells`). So what a run says on input that has arrived may be shown
before more of it is asked for, and the program run again from its start then. -/

namespace InterpreterHost

/-! ### Lines -/

theorem cutLine?_append {bytes line rest : List UInt8} (h : cutLine? bytes = some (line, rest))
    (more : List UInt8) : cutLine? (bytes ++ more) = some (line, rest ++ more) := by
  induction bytes generalizing line with
  | nil => cases h
  | cons b bs ih =>
    rw [List.cons_append]
    by_cases hb : b = newline
    · rw [cutLine?, if_pos hb] at h ⊢
      cases h
      rfl
    · rw [cutLine?, if_neg hb, Option.map_eq_some_iff] at h
      obtain ⟨⟨others, rest'⟩, hothers, heq⟩ := h
      cases heq
      rw [cutLine?, if_neg hb, ih hothers, Option.map_some]

namespace Input

variable {bytes line rest : List UInt8} {failure : Failure}

/-- A line that has arrived is read, whatever comes after it. -/
theorem readLine_push (h : cutLine? bytes = some (line, rest)) (later : Input) :
    (push bytes later).readLine = ⟨.ok line, push rest later, [.took line]⟩ := by
  cases bytes with
  | nil => cases h
  | cons b bs => rw [push, readLine, h]

/-- A line that has not arrived as a whole is not read, and what there is of it is lost. -/
theorem readLine_push_failing (h : cutLine? bytes = none) (lasting : failure.kind ≠ .interrupted) :
    let taken := (push bytes (.failing failure .exhausted)).readLine
    taken.result = .error failure ∧ taken.input = .exhausted := by
  cases bytes with
  | nil =>
    rw [push, readLine, if_neg lasting]
    exact ⟨rfl, rfl⟩
  | cons b bs =>
    rw [push, readLine, h]
    dsimp only
    rw [readLine, if_neg lasting]
    exact ⟨rfl, rfl⟩

end Input

/-! ### Conversations -/

namespace Repeater

variable {output : Output}

/-- A conversation whose prompt was sent starts with that. -/
theorem asking_isPrefix (asked : (output.send (Utf8.encode prompt)).result = .ok ()) (lines : Nat)
    (input : Input) :
    (output.send (Utf8.encode prompt)).trace <+: (converse lines input output).events := by
  cases read : input.readLine.result with
  | error failure =>
    rw [converse_unread asked read]
    exact List.prefix_append _ _
  | ok line =>
    cases line with
    | nil =>
      rw [converse_ended asked read]
      exact (List.prefix_append _ _).trans (List.prefix_append _ _)
    | cons b bs =>
      cases repeated :
          ((output.send (Utf8.encode prompt)).output.send (complete (b :: bs))).result with
      | error failure =>
        rw [converse_unrepeated asked read repeated]
        exact (List.prefix_append _ _).trans (List.prefix_append _ _)
      | ok _ =>
        rw [converse_next asked read repeated]
        exact ((List.prefix_append _ _).trans (List.prefix_append _ _)).trans
          (List.prefix_append _ _)

end Repeater

/-- The first passage delivers a start of what the second one does, and unless it used its input up
the second one does no more and ends in the same way. -/
structure Passage.Foretells (first second : Passage Unit) : Prop where
  start : Event.delivered first.events <+: Event.delivered second.events
  whole : first.input ≠ .exhausted →
    second.result = first.result ∧ second.events = first.events ∧ second.remarks = first.remarks

theorem Passage.journal_eq {first second : Passage Unit} (result : second.result = first.result)
    (remarks : second.remarks = first.remarks) (failed : Failure → Note) :
    second.journal failed = first.journal failed := by
  rw [journal, journal, result, remarks]

theorem Passage.Foretells.after {first second : Passage Unit} (h : first.Foretells second)
    (events : List Event) : (first.after events).Foretells (second.after events) where
  start := by
    rw [Passage.after, Passage.after, Event.delivered_append, Event.delivered_append]
    exact (List.prefix_append_right_inj _).mpr h.start
  whole unused := by
    obtain ⟨result, same, remarks⟩ := h.whole unused
    exact ⟨result, congrArg (events ++ ·) same, remarks⟩

/-- A conversation over what has arrived foretells those over more. Each line that has arrived makes
a turn that is the same in both; the first that has not ends one of them, after a prompt with which
the other goes on. -/
theorem Repeater.converse_foretells {failure : Failure} (lasting : failure.kind ≠ .interrupted)
    (arrived more : List UInt8) (later : Input) (lines : Nat) (output : Output) :
    (converse lines (.push arrived (.failing failure .exhausted)) output).Foretells
      (converse lines (.push (arrived ++ more) later) output) := by
  induction hn : arrived.length using Nat.strongRecOn generalizing arrived lines output with
  | ind n ih =>
    cases asked : (output.send (Utf8.encode prompt)).result with
    | error cause =>
      rw [converse_unasked asked, converse_unasked asked]
      exact ⟨List.prefix_rfl, fun _ => ⟨rfl, rfl, rfl⟩⟩
    | ok _ =>
      cases cut : cutLine? arrived with
      | none =>
        obtain ⟨read, used⟩ := Input.readLine_push_failing cut lasting
        rw [converse_unread asked read]
        refine ⟨?_, fun unused => absurd used unused⟩
        obtain ⟨rest, starts⟩ := asking_isPrefix asked lines (.push (arrived ++ more) later)
        rw [← starts]
        simp [Input.Taken.trace]
      | some found =>
        obtain ⟨line, rest⟩ := found
        have taken := Input.readLine_push cut (.failing failure .exhausted)
        have taken' := Input.readLine_push (cutLine?_append cut more) later
        obtain ⟨b, bs, rfl⟩ := List.exists_cons_of_ne_nil (Signal.line_ne_nil cut)
        have read := congrArg Input.Taken.result taken
        have read' := congrArg Input.Taken.result taken'
        cases repeated :
            ((output.send (Utf8.encode prompt)).output.send (complete (b :: bs))).result with
        | error cause =>
          rw [converse_unrepeated asked read repeated, converse_unrepeated asked read' repeated,
            taken, taken']
          exact ⟨List.prefix_rfl, fun _ => ⟨rfl, rfl, rfl⟩⟩
        | ok _ =>
          have shorter : rest.length < n := by
            have := congrArg List.length (append_of_cutLine? cut)
            rw [List.length_append, List.length_cons] at this
            omega
          rw [converse_next asked read repeated, converse_next asked read' repeated, taken, taken']
          exact (ih _ shorter rest _ _ rfl).after _

/-! ### Launches and runs -/

/-- The first launch delivers a start of what the second one does, and unless it used its input up
the second one does no more, ends in the same way and has the same journal. -/
structure Launch.Foretells (first second : Launch Unit) : Prop where
  start : Event.delivered first.events <+: Event.delivered second.events
  whole : first.host.input ≠ .exhausted →
    second.result = first.result ∧ second.events = first.events ∧ second.journal = first.journal

section Runs

variable {failure : Failure} {arrived more : List UInt8} {later : Input}

/-- A launch of the repeater on what has arrived foretells those on more: without a conversation the
input is not asked for. -/
theorem Host.launch_foretells {host : Host Unit} (repeater : host.interpreter = Repeater.interpreter)
    (lasting : failure.kind ≠ .interrupted) (scripts : Path → Except Failure (List UInt8))
    (args : List Path) :
    ({ host with input := .push arrived (.failing failure .exhausted) }.launch scripts
        args).Foretells
      ({ host with input := .push (arrived ++ more) later }.launch scripts args) := by
  have found (input : Input) : { host with input }.roster.current = host.roster.current := rfl
  cases host.launchCourse scripts args with
  | nobody cause lookup =>
    rw [launch_nobody ((found _).trans lookup), launch_nobody ((found _).trans lookup)]
    exact ⟨List.prefix_rfl, fun _ => ⟨rfl, rfl, rfl⟩⟩
  | unavailable identity path failure lookup opening =>
    rw [launch_unavailable ((found _).trans lookup) opening,
      launch_unavailable ((found _).trans lookup) opening]
    exact ⟨List.prefix_rfl, fun _ => ⟨rfl, rfl, rfl⟩⟩
  | executed identity path data lookup opening =>
    rw [launch_executed ((found _).trans lookup) opening,
      launch_executed ((found _).trans lookup) opening]
    exact ⟨List.prefix_rfl, fun _ => ⟨rfl, rfl, rfl⟩⟩
  | conversed identity lookup many =>
    rw [launch_conversed ((found _).trans lookup) many,
      launch_conversed ((found _).trans lookup) many]
    have talk := (Repeater.converse_foretells lasting arrived more later 0
      (Greeting.write identity host.output).output).after
        (Greeting.write identity host.output).trace
    obtain ⟨roster, interpreter, state, input, output⟩ := host
    obtain rfl : interpreter = Repeater.interpreter := repeater
    refine ⟨talk.start, fun unused => ?_⟩
    obtain ⟨result, events, remarks⟩ := talk.whole unused
    have journal := Passage.journal_eq result remarks .conversationFailed
    exact ⟨rfl, events, congrArg (_ :: _ ++ _ :: ·) journal⟩

/-- What a run of the program on a part of its input has said is a start of what it says on more of
it, whatever comes after. A run that did not use up what had arrived is over: on more input it ends
with the same status and has said the same, on both of its streams. -/
theorem Surroundings.run_foretells (s : Surroundings) (lasting : failure.kind ≠ .interrupted)
    (arrived more : List UInt8) (later : Input) :
    let waiting := { s with input := .push arrived (.failing failure .exhausted) }.run
    let resumed := { s with input := .push (arrived ++ more) later }.run
    waiting.output <+: resumed.output ∧
    (waiting.left ≠ .exhausted → resumed.status = waiting.status ∧
      resumed.output = waiting.output ∧ resumed.errors = waiting.errors) := by
  intro waiting resumed
  cases torn : Log.Filter.tear? s.filterVariable with
  | some tear =>
    have stops (input : Input) : { s with input }.run = { s with input }.stopped tear :=
      run_of_tear torn
    have waits : waiting = _ := stops _
    have resumes : resumed = _ := stops _
    rw [waits, resumes]
    exact ⟨List.prefix_rfl, fun _ => ⟨rfl, rfl, rfl⟩⟩
  | none =>
    let host : Host Unit :=
      ⟨.ofList s.identity [], Repeater.interpreter, (), s.input, s.output⟩
    let first : Surroundings := { s with input := .push arrived (.failing failure .exhausted) }
    let second : Surroundings := { s with input := .push (arrived ++ more) later }
    have launched : first.launch.Foretells second.launch :=
      host.launch_foretells rfl lasting s.scripts s.args
    have waits : waiting = first.exit first.programRecords := run_of_launch torn
    have resumes : resumed = second.exit second.programRecords := run_of_launch torn
    rw [waits, resumes]
    refine ⟨launched.start, fun unused => ?_⟩
    obtain ⟨result, events, journal⟩ := launched.whole unused
    have records : second.programRecords = first.programRecords := by
      unfold programRecords launchRecords
      rw [result, journal]
    refine ⟨congrArg status result, congrArg Event.delivered events, ?_⟩
    show second.display.log _ ++ report _ = first.display.log _ ++ report _
    rw [records, result]
    rfl

end Runs

end InterpreterHost
