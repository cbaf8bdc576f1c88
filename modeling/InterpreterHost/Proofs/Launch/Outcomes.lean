import InterpreterHost.Launch
import InterpreterHost.Proofs.Stream.Pieces

/-! What a launch does to the world. To tell what an interpreter is asked to do, it is watched: it
keeps a list of the operations and of the streams it was handed (`Interpreter.watched`), and does
all else as before (`Host.watched_launch`). For each course of a launch it is then said what was
handed over and what became of the host. -/

namespace InterpreterHost

variable {σ : Type}

/-- An operation that an interpreter was asked for, and the streams it was handed. -/
structure Handover where
  operation : Operation
  input : Input
  output : Output
deriving DecidableEq

/-- The same operation, with what was handed over kept beside the state. -/
def Passage.listing (passage : Passage σ) (handed : List Handover) :
    Passage (σ × List Handover) :=
  ⟨passage.result, (passage.state, handed), passage.input, passage.output, passage.events,
    passage.remarks⟩

/-- The interpreter that also lists what it is handed. -/
def Interpreter.watched (interpreter : Interpreter σ) : Interpreter (σ × List Handover) where
  converse state input output :=
    (interpreter.converse state.1 input output).listing (state.2 ++ [⟨.converse, input, output⟩])
  execute state input output :=
    (interpreter.execute state.1 input output).listing (state.2 ++ [⟨.execute, input, output⟩])

/-- The host with its interpreter watched, after it was handed `handed`. -/
def Host.watched (host : Host σ) (handed : List Handover) : Host (σ × List Handover) :=
  ⟨host.roster, host.interpreter.watched, (host.state, handed), host.input, host.output⟩

/-- The launch with the host's interpreter watched, after it was handed `handed`. -/
def Launch.watched (launched : Launch σ) (handed : List Handover) : Launch (σ × List Handover) :=
  ⟨launched.result, launched.host.watched handed, launched.events, launched.calls,
    launched.journal⟩

/-- A file lies where `path` leads, so that it can be opened. -/
def FileTree.Opens (tree : FileTree) (path : Path) : Prop :=
  ∃ data, tree.follow path = .ok (.file data)

/-- A name leads to the file that lies there. -/
theorem FileTree.walk_file {tree : FileTree} {links : Nat} {here : Place} {name : Name}
    {data : List UInt8} (stays : name.isIdle = false) (climbs : name ≠ Name.dotDot)
    (short : name.length ≤ nameLimit) (entry : tree.entry? (name :: here) = some (.file data)) :
    tree.walk links here [name] = .ok (.file data) := by
  have hshort : ¬nameLimit < name.length := Nat.not_lt.mpr short
  rw [walk, stays, if_neg Bool.false_ne_true, if_neg climbs, if_neg hshort, entry]
  simp only [if_true]

theorem FileTree.script_of_file {tree : FileTree} {path : Path} {data : List UInt8}
    (found : tree.follow path = .ok (.file data)) : tree.script path = .ok data := by
  rw [script, found]

/-- What cannot be followed is not opened, nor is a directory. -/
theorem FileTree.script_of_not_opens {tree : FileTree} {path : Path} (closed : ¬tree.Opens path) :
    ∃ failure, tree.script path = .error failure := by
  unfold script
  cases hfollow : tree.follow path with
  | error failure => exact ⟨failure, rfl⟩
  | ok found =>
    cases found with
    | file data => exact absurd ⟨data, hfollow⟩ closed
    | directory place => exact ⟨directoryFailure, rfl⟩

/-- The scripts of a tree are its files. -/
theorem FileTree.script_eq_ok_iff {tree : FileTree} {path : Path} {data : List UInt8} :
    tree.script path = .ok data ↔ tree.follow path = .ok (.file data) := by
  constructor
  · intro opening
    by_cases opened : tree.Opens path
    · obtain ⟨data', found⟩ := opened
      rw [← Except.ok.inj ((script_of_file found).symm.trans opening)]
      exact found
    · obtain ⟨failure, closed⟩ := script_of_not_opens opened
      cases opening.symm.trans closed
  · exact script_of_file

theorem FileTree.script_fails_iff {tree : FileTree} {path : Path} :
    (∃ failure, tree.script path = .error failure) ↔ ¬tree.Opens path := by
  constructor
  · rintro ⟨failure, closed⟩ ⟨data, found⟩
    cases closed.symm.trans (script_of_file found)
  · exact script_of_not_opens

/-- The script at `path` can be opened. -/
def Available (scripts : Path → Except Failure (List UInt8)) (path : Path) : Prop :=
  ∃ data, scripts path = .ok data

theorem exists_failure_of_not_available {scripts : Path → Except Failure (List UInt8)} {path : Path}
    (closed : ¬Available scripts path) : ∃ failure, scripts path = .error failure := by
  cases opening : scripts path with
  | error failure => exact ⟨failure, rfl⟩
  | ok data => exact absurd ⟨data, opening⟩ closed

theorem FileTree.available_script (tree : FileTree) : Available tree.script = tree.Opens := by
  funext path
  exact propext (exists_congr fun data => script_eq_ok_iff)

namespace Host

/-- What the interpreter is handed in a launch. -/
def handovers (host : Host σ) (scripts : Path → Except Failure (List UInt8)) (args : List Path) :
    List Handover :=
  ((host.watched []).launch scripts args).host.state.2

variable {host : Host σ} {scripts : Path → Except Failure (List UInt8)} {args : List Path}
  {cause : LookupFailure} {identity : Identity} {path : Path} {failure : Failure}
  {data : List UInt8}

theorem handovers_nobody (lookup : host.roster.current = .error cause) :
    host.handovers scripts args = [] := by
  have watched : (host.watched []).roster.current = .error cause := lookup
  rw [handovers, launch_nobody watched]
  rfl

theorem handovers_unavailable (lookup : host.roster.current = .ok identity)
    (opening : scripts path = .error failure) : host.handovers scripts [path] = [] := by
  have watched : (host.watched []).roster.current = .ok identity := lookup
  rw [handovers, launch_unavailable watched opening]
  rfl

theorem handovers_executed (lookup : host.roster.current = .ok identity)
    (opening : scripts path = .ok data) :
    host.handovers scripts [path] = [⟨.execute, .ofBytes data, host.output⟩] := by
  have watched : (host.watched []).roster.current = .ok identity := lookup
  rw [handovers, launch_executed watched opening]
  rfl

theorem handovers_conversed (lookup : host.roster.current = .ok identity)
    (many : args.length ≠ 1) :
    host.handovers scripts args =
      [⟨.converse, host.input, (Greeting.write identity host.output).output⟩] := by
  have watched : (host.watched []).roster.current = .ok identity := lookup
  rw [handovers, launch_conversed watched many]
  rfl

/-- Watching an interpreter changes nothing in a launch but the list. -/
theorem watched_launch (host : Host σ) (scripts : Path → Except Failure (List UInt8))
    (args : List Path) (handed : List Handover) :
    (host.watched handed).launch scripts args =
      (host.launch scripts args).watched (handed ++ host.handovers scripts args) := by
  cases host.launchCourse scripts args with
  | nobody cause lookup =>
    rw [launch_nobody lookup, handovers_nobody lookup, List.append_nil]
    exact launch_nobody lookup
  | conversed identity lookup many =>
    rw [launch_conversed lookup many, handovers_conversed lookup many]
    exact launch_conversed lookup many
  | unavailable identity path failure lookup opening =>
    rw [launch_unavailable lookup opening, handovers_unavailable lookup opening, List.append_nil]
    exact launch_unavailable lookup opening
  | executed identity path data lookup opening =>
    rw [launch_executed lookup opening, handovers_executed lookup opening]
    exact launch_executed lookup opening

/-! ### What becomes of the host -/

/-- The launch made a lookup and nothing else. -/
structure Untouched (host : Host σ) (launched : Launch σ) : Prop where
  remains : launched.host = host.asked
  events : launched.events = []
  calls : launched.calls = []

/-- The launch was the one operation `passage` on a script, and did not use the host's input. -/
structure Executed (host : Host σ) (passage : Passage σ) (launched : Launch σ) : Prop where
  result : launched.result = .ok .executed
  becomes : launched.host = { host.asked with state := passage.state, output := passage.output }
  events : launched.events = (Event.calls passage.events).map .output
  calls : launched.calls = [passage.call .execute]

/-- The launch was a greeting and then the conversation `passage`. -/
structure Conversed (host : Host σ) (greeted : Output.Sent) (passage : Passage σ)
    (launched : Launch σ) : Prop where
  result : launched.result = .ok .conversed
  becomes : launched.host =
    { host.asked with state := passage.state, input := passage.input, output := passage.output }
  events : launched.events = greeted.trace ++ passage.events
  calls : launched.calls = [passage.call .converse]

end Host

/-- The first `bytes` of a greeting arrived, and the output stands right after them. -/
structure Greeting.Arrives (identity : Identity) (output : Output) (greeted : Output.Sent) :
    Prop where
  start : greeted.bytes <+: Greeting.bytes identity
  complete : greeted.result = .ok () → greeted.bytes = Greeting.bytes identity
  accepted : greeted.output.accepted = output.accepted + greeted.bytes.length

theorem Greeting.write_arrives (identity : Identity) (output : Output) :
    Greeting.Arrives identity output (Greeting.write identity output) := by
  have sent := Output.Sent.From.sendPieces output ((pieces identity).map Utf8.encode)
  obtain ⟨start, complete⟩ := output.sendPieces_bytes ((pieces identity).map Utf8.encode)
  exact ⟨start, complete, sent.accepted_eq⟩

/-- For every interpreter, roster and state of the streams and whatever scripts can be opened, a
launch does the following, and no other operation is asked of the interpreter. If nobody is found or
the one argument names nothing that opens, nothing is touched. If it names a script, that is
executed: the source is the script's bytes and then its end, the output is the host's as it is.
Otherwise the interpreter converses on the host's input and on the output as the greeting left it,
wherever that broke off. Of a file tree the files open, and nothing else does. -/
theorem Host.launch_outcome (host : Host σ) (scripts : Path → Except Failure (List UInt8))
    (args : List Path) :
    let launched := host.launch scripts args
    let handed := host.handovers scripts args
    (host.watched []).launch scripts args = launched.watched handed ∧
    (∀ cause, host.roster.current = .error cause →
      launched.result = .error (.nobody cause) ∧ handed = [] ∧ host.Untouched launched) ∧
    (∀ identity, host.roster.current = .ok identity →
      (∀ path failure, args = [path] → scripts path = .error failure →
        launched.result = .ok .unavailable ∧ handed = [] ∧ host.Untouched launched) ∧
      (∀ path data, args = [path] → scripts path = .ok data →
        let source := Input.ofBytes data
        source.signals = data.map .byte ∧ handed = [⟨.execute, source, host.output⟩] ∧
        host.Executed (host.interpreter.execute host.state source host.output) launched) ∧
      (args.length ≠ 1 →
        let greeted := Greeting.write identity host.output
        Greeting.Arrives identity host.output greeted ∧
        handed = [⟨.converse, host.input, greeted.output⟩] ∧
        host.Conversed greeted (host.interpreter.converse host.state host.input greeted.output)
          launched)) ∧
    ∀ tree : FileTree, scripts = tree.script → ∀ path,
      (∀ data, scripts path = .ok data ↔ tree.follow path = .ok (.file data)) ∧
      ((∃ failure, scripts path = .error failure) ↔ ¬tree.Opens path) := by
  intro launched handed
  refine ⟨host.watched_launch _ _ [], fun cause lookup => ?_,
    fun identity lookup => ⟨?_, ?_, ?_⟩, ?_⟩
  · have hlaunched : launched = _ := launch_nobody lookup
    rw [hlaunched]
    exact ⟨rfl, handovers_nobody lookup, rfl, rfl, rfl⟩
  · rintro path failure rfl opening
    have hlaunched : launched = _ := launch_unavailable lookup opening
    rw [hlaunched]
    exact ⟨rfl, handovers_unavailable lookup opening, rfl, rfl, rfl⟩
  · rintro path data rfl opening source
    have hlaunched : launched = _ := launch_executed lookup opening
    rw [hlaunched]
    exact ⟨Input.signals_ofBytes data, handovers_executed lookup opening, rfl, rfl, rfl, rfl⟩
  · intro many greeted
    have hlaunched : launched = _ := launch_conversed lookup many
    rw [hlaunched]
    exact ⟨Greeting.write_arrives identity host.output, handovers_conversed lookup many, rfl, rfl,
      rfl, rfl⟩
  · rintro tree rfl path
    exact ⟨fun data => FileTree.script_eq_ok_iff, FileTree.script_fails_iff⟩

/-- Nobody, then a name that may not be read, a file and a conversation, on an output that stops in
the greeting. -/
theorem Host.outcomes_on_refusing_output :
    let tree : FileTree := ⟨[([[0x66]], .file [0x61, 0x62]), ([[0x67]], .sealedFile)], []⟩
    let output : Output := ⟨0, some 4, [WriteFault.refusing 6 none], 0, []⟩
    let interpreter : Interpreter Unit :=
      .ofCourses { failure := some (.plain .other) } { write := [0x21] }
    let nobody : LookupFailure := ⟨.plain .notFound⟩
    let host (lookup : Except LookupFailure Identity) : Host Unit :=
      ⟨.ofList lookup [], interpreter, (), .ofBytes [0x63], output⟩
    let bob := host (.ok ⟨"bob"⟩)
    ((host (.error nobody)).launch tree.script []).result = .error (.nobody nobody) ∧
      tree.script [0x67] = .error (.system .accessDenied) ∧
      (bob.launch tree.script [[0x67]]).result = .ok .unavailable ∧
      bob.handovers tree.script [[0x67]] = [] ∧
      bob.handovers tree.script [[0x66]] = [⟨.execute, .ofBytes [0x61, 0x62], output⟩] ∧
      bob.handovers tree.script [] =
        [⟨.converse, .ofBytes [0x63], { output with accepted := 6 }⟩] := by
  intro tree output interpreter nobody host bob
  have denied : tree.script [0x67] = .error (.system .accessDenied) := by
    have found : tree.follow [0x67] = .error (.system .accessDenied) := by
      simp [tree, FileTree.follow, FileTree.pathBound, FileTree.start, FileTree.walk,
        FileTree.nameLimit, FileTree.entry?, Path.isAbsolute, Path.slash, Path.names, fields,
        Name.isIdle, Name.dot, Name.dotDot]
    rw [FileTree.script, found]
  have opens : tree.script [0x66] = .ok [0x61, 0x62] :=
    FileTree.script_of_file (FileTree.walk_file rfl (by decide) (by decide) rfl)
  have broken : (Greeting.write ⟨"bob"⟩ output).output = { output with accepted := 6 } := by
    decide +kernel
  obtain ⟨-, failed, -⟩ := (host (.error nobody)).launch_outcome tree.script []
  obtain ⟨-, -, closed, -⟩ := bob.launch_outcome tree.script [[0x67]]
  obtain ⟨-, -, file, -⟩ := bob.launch_outcome tree.script [[0x66]]
  obtain ⟨-, -, talk, -⟩ := bob.launch_outcome tree.script []
  obtain ⟨unavailable, unasked, -⟩ := (closed ⟨"bob"⟩ rfl).1 _ _ rfl denied
  obtain ⟨-, executed, -⟩ := (file ⟨"bob"⟩ rfl).2.1 _ _ rfl opens
  obtain ⟨-, conversed, -⟩ := (talk ⟨"bob"⟩ rfl).2.2 (by decide)
  exact ⟨(failed nobody rfl).1, denied, unavailable, unasked, executed, broken ▸ conversed⟩

end InterpreterHost
