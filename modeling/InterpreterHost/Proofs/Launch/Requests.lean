import InterpreterHost.Proofs.Launch.Outcomes

/-! What a launch takes from its arguments and from the files. Of a script that opens only the
contents count, of one that does not open nothing, and of any other number of arguments nothing
either (`SameRequest`). Hosts that agree in all but their rosters and find the same identity then
launch the same (`Host.Alike.launch`): only journals tell the paths. -/

namespace InterpreterHost

variable {σ : Type}

/-- Two hosts agree in all but their rosters. -/
structure Host.Alike (host other : Host σ) : Prop where
  interpreter : host.interpreter = other.interpreter
  state : host.state = other.state
  input : host.input = other.input
  output : host.output = other.output

/-- Two launches ended in the same way, did the same, and left hosts behind that agree. -/
structure Launch.Same (first second : Launch σ) : Prop where
  result : first.result = second.result
  calls : first.calls = second.calls
  events : first.events = second.events
  host : first.host.Alike second.host

theorem Launch.Same.with_journals {first second : Launch σ} (same : first.Same second)
    (journal journal' : List JournalLine) :
    { first with journal := journal }.Same { second with journal := journal' } :=
  ⟨same.result, same.calls, same.events, same.host⟩

/-- Some arguments and what opens ask for the same as some others. -/
inductive SameRequest (scripts scripts' : Path → Except Failure (List UInt8)) :
    List Path → List Path → Prop
  | conversation {args args' : List Path} (many : args.length ≠ 1) (many' : args'.length ≠ 1) :
      SameRequest scripts scripts' args args'
  | nothing {path path' : Path} {failure failure' : Failure}
      (closed : scripts path = .error failure) (closed' : scripts' path' = .error failure') :
      SameRequest scripts scripts' [path] [path']
  | script {path path' : Path} {data : List UInt8} (opened : scripts path = .ok data)
      (opened' : scripts' path' = .ok data) : SameRequest scripts scripts' [path] [path']

theorem SameRequest.refl (scripts : Path → Except Failure (List UInt8)) (args : List Path) :
    SameRequest scripts scripts args args := by
  by_cases single : args.length = 1
  · obtain ⟨path, rfl⟩ := List.length_eq_one_iff.mp single
    cases opening : scripts path with
    | error failure => exact .nothing opening opening
    | ok data => exact .script opening opening
  · exact .conversation single single

namespace Host.Alike

variable {host other : Host σ} {scripts scripts' : Path → Except Failure (List UInt8)}
  {args args' : List Path}

theorem asked (alike : host.Alike other) : host.asked.Alike other.asked :=
  ⟨alike.interpreter, alike.state, alike.input, alike.output⟩

theorem converse (alike : host.Alike other) (identity : Identity) :
    (host.converse identity).Same (other.converse identity) := by
  obtain ⟨roster, interpreter, state, input, output⟩ := host
  obtain ⟨roster', interpreter', state', input', output'⟩ := other
  obtain ⟨rfl, rfl, rfl, rfl⟩ := alike
  exact ⟨rfl, rfl, rfl, rfl, rfl, rfl, rfl⟩

theorem execute (alike : host.Alike other) (path path' : Path) (data : List UInt8) :
    (host.execute path data).Same (other.execute path' data) := by
  obtain ⟨roster, interpreter, state, input, output⟩ := host
  obtain ⟨roster', interpreter', state', input', output'⟩ := other
  obtain ⟨rfl, rfl, rfl, rfl⟩ := alike
  exact ⟨rfl, rfl, rfl, rfl, rfl, rfl, rfl⟩

/-- Hosts that agree and find the same identity launch the same when asked for the same. -/
theorem launch (alike : host.Alike other)
    (lookup : host.roster.current = other.roster.current)
    (request : SameRequest scripts scripts' args args') :
    (host.launch scripts args).Same (other.launch scripts' args') := by
  cases found : host.roster.current with
  | error cause =>
    rw [launch_nobody found, launch_nobody (lookup ▸ found)]
    exact ⟨rfl, rfl, rfl, alike.asked⟩
  | ok identity =>
    have found' : other.roster.current = .ok identity := lookup ▸ found
    cases request with
    | conversation many many' =>
      rw [launch_conversed found many, launch_conversed found' many']
      exact (alike.asked.converse identity).with_journals _ _
    | nothing closed closed' =>
      rw [launch_unavailable found closed, launch_unavailable found' closed']
      exact ⟨rfl, rfl, rfl, alike.asked⟩
    | script opened opened' =>
      rw [launch_executed found opened, launch_executed found' opened']
      exact (alike.asked.execute _ _ _).with_journals _ _

/-- So do they hand the same over to their interpreters. -/
theorem handovers (alike : host.Alike other)
    (lookup : host.roster.current = other.roster.current)
    (request : SameRequest scripts scripts' args args') :
    host.handovers scripts args = other.handovers scripts' args' := by
  cases found : host.roster.current with
  | error cause => rw [handovers_nobody found, handovers_nobody (lookup ▸ found)]
  | ok identity =>
    have found' : other.roster.current = .ok identity := lookup ▸ found
    cases request with
    | conversation many many' =>
      rw [handovers_conversed found many, handovers_conversed found' many', alike.input,
        alike.output]
    | nothing closed closed' =>
      rw [handovers_unavailable found closed, handovers_unavailable found' closed']
    | script opened opened' =>
      rw [handovers_executed found opened, handovers_executed found' opened', alike.output]

end Host.Alike

/-- For two launches that start with the same lookup, interpreter, state and streams, whatever
their arguments and whatever scripts they can open: if both have other than one argument, or one
each that names nothing that opens, or one each that names a script, with the same bytes in both,
then they end in the same way, with the same calls, the same events and the same state and streams,
and the interpreter is handed the same. Scripts may be those of two file trees, of which the files
open and nothing else does. -/
theorem Host.launch_blind_to_paths {host other : Host σ} (alike : host.Alike other)
    (lookup : host.roster.current = other.roster.current)
    (scripts scripts' : Path → Except Failure (List UInt8)) (args args' : List Path)
    (request : (args.length ≠ 1 ∧ args'.length ≠ 1) ∨
      (∃ path path', args = [path] ∧ args' = [path'] ∧
        ¬Available scripts path ∧ ¬Available scripts' path') ∨
      ∃ path path' data, args = [path] ∧ args' = [path'] ∧
        scripts path = .ok data ∧ scripts' path' = .ok data) :
    (host.launch scripts args).Same (other.launch scripts' args') ∧
      host.handovers scripts args = other.handovers scripts' args' ∧
      ∀ tree : FileTree, Available tree.script = tree.Opens ∧
        ∀ path data, tree.script path = .ok data ↔ tree.follow path = .ok (.file data) := by
  have same : SameRequest scripts scripts' args args' := by
    obtain ⟨many, many'⟩ | ⟨path, path', rfl, rfl, closed, closed'⟩ |
      ⟨path, path', data, rfl, rfl, opened, opened'⟩ := request
    · exact .conversation many many'
    · obtain ⟨failure, closing⟩ := exists_failure_of_not_available closed
      obtain ⟨failure', closing'⟩ := exists_failure_of_not_available closed'
      exact .nothing closing closing'
    · exact .script opened opened'
  exact ⟨alike.launch lookup same, alike.handovers lookup same,
    fun tree => ⟨tree.available_script, fun _ _ => FileTree.script_eq_ok_iff⟩⟩

/-- One file behind a link and one under a device's name, then a file that may not be read and a
directory that may not be entered. -/
theorem Host.same_by_link_and_device :
    let link : Path := [0x64, 0x2F, 0x2E, 0x2E, 0x2F, 0x66]
    let tree : FileTree :=
      ⟨[([[0x66]], .file [0x61]), ([[0x6C]], .link link), ([[0x64]], .directory),
        ([[0x73]], .sealedFile)], []⟩
    let tree' : FileTree :=
      (FileTree.bare.put ([0x74] :: FileTree.devices) (.file [0x61])).put [[0x63]] .closedDirectory
    let device : Path := [0x2F, 0x64, 0x65, 0x76, 0x2F, 0x2E, 0x2F, 0x74]
    let within : Path := [0x2F, 0x63, 0x2F, 0x66]
    let interpreter : Interpreter Unit := .ofCourses {} { failure := some (.plain .brokenPipe) }
    let refusing : Output := ⟨0, none, [WriteFault.refusing 1 none], 0, [(1, .plain .other)]⟩
    let host (others : List (Except LookupFailure Identity)) : Host Unit :=
      ⟨.ofList (.ok ⟨"bob"⟩) others, interpreter, (), .failing (.plain .other) .exhausted, refusing⟩
    let other := host [.error ⟨.plain .other⟩]
    tree.script [0x6C] = .ok [0x61] ∧ tree'.script device = .ok [0x61] ∧
      ((host []).launch tree.script [[0x6C]]).Same (other.launch tree'.script [device]) ∧
      tree.script [0x73] = .error (.system .accessDenied) ∧
      tree'.script within = .error (.system .accessDenied) ∧
      ((host []).launch tree.script [[0x73]]).Same (other.launch tree'.script [within]) := by
  intro link tree tree' device within interpreter refusing host other
  have found : tree.script [0x6C] = .ok [0x61] := by
    rw [FileTree.script_eq_ok_iff]
    simp [tree, link, FileTree.follow, FileTree.pathBound, FileTree.linkLimit, FileTree.start,
      FileTree.walk, FileTree.nameLimit, FileTree.entry?, Path.isAbsolute, Path.slash, Path.names,
      fields, Name.isIdle, Name.dot, Name.dotDot]
  have found' : tree'.script device = .ok [0x61] := by
    rw [FileTree.script_eq_ok_iff]
    simp [tree', device, FileTree.bare, FileTree.put, FileTree.devices, FileTree.nullDevice,
      FileTree.follow, FileTree.pathBound, FileTree.start, FileTree.walk, FileTree.nameLimit,
      FileTree.entry?, Path.isAbsolute, Path.slash, Path.names, fields, Name.isIdle, Name.dot,
      Name.dotDot]
  have denied : tree.script [0x73] = .error (.system .accessDenied) := by
    simp [tree, FileTree.script, FileTree.follow, FileTree.pathBound, FileTree.start,
      FileTree.walk, FileTree.nameLimit, FileTree.entry?, Path.isAbsolute, Path.slash, Path.names,
      fields, Name.isIdle, Name.dot, Name.dotDot]
  have denied' : tree'.script within = .error (.system .accessDenied) := by
    simp [tree', within, FileTree.script, FileTree.bare, FileTree.put, FileTree.follow,
      FileTree.pathBound, FileTree.start, FileTree.walk, FileTree.nameLimit, FileTree.entry?,
      Path.isAbsolute, Path.slash, Path.names, fields, Name.isIdle, Name.dot, Name.dotDot]
  have closed : ¬Available tree.script [0x73] := by
    rintro ⟨data, opened⟩
    cases denied.symm.trans opened
  have closed' : ¬Available tree'.script within := by
    rintro ⟨data, opened⟩
    cases denied'.symm.trans opened
  have alike : (host []).Alike other := ⟨rfl, rfl, rfl, rfl⟩
  obtain ⟨same, -⟩ := Host.launch_blind_to_paths alike rfl tree.script tree'.script [[0x6C]]
    [device] (.inr (.inr ⟨_, _, _, rfl, rfl, found, found'⟩))
  obtain ⟨same', -⟩ := Host.launch_blind_to_paths alike rfl tree.script tree'.script [[0x73]]
    [within] (.inr (.inl ⟨_, _, rfl, rfl, closed, closed'⟩))
  exact ⟨found, found', same, denied, denied', same'⟩

end InterpreterHost
