import InterpreterHost.Process
import InterpreterHost.Proofs.Launch.Outcomes

/-! How a launch ends depends on little: on the lookup, on whether there is one argument, and on
whether that opens. `Verdict` is the rule by which these decide. A launch follows it
(`Host.launch_verdict`), and it has one answer for all launches that agree on the three
(`Verdict.unique`), so what interpreters and streams do never reaches the result or the exit
status. -/

namespace InterpreterHost

/-- The result that a launch must have by its lookup, its arguments and what opens. -/
inductive Verdict (lookup : Except LookupFailure Identity) (opens : Path → Prop)
    (args : List Path) : Except LaunchFailure Ending → Prop
  | nobody {cause : LookupFailure} (absent : lookup = .error cause) :
      Verdict lookup opens args (.error (.nobody cause))
  | conversed {identity : Identity} (found : lookup = .ok identity) (many : args.length ≠ 1) :
      Verdict lookup opens args (.ok .conversed)
  | executed {identity : Identity} {path : Path} (found : lookup = .ok identity)
      (single : args = [path]) (opened : opens path) : Verdict lookup opens args (.ok .executed)
  | unavailable {identity : Identity} {path : Path} (found : lookup = .ok identity)
      (single : args = [path]) (closed : ¬opens path) :
      Verdict lookup opens args (.ok .unavailable)

/-- Two launches agree on what decides how they end. -/
structure Agree (lookup lookup' : Except LookupFailure Identity) (opens opens' : Path → Prop)
    (args args' : List Path) : Prop where
  lookup : lookup = lookup'
  single : args.length = 1 ↔ args'.length = 1
  opens : ∀ path path', args = [path] → args' = [path'] → (opens path ↔ opens' path')

section Verdict

variable {lookup lookup' : Except LookupFailure Identity} {opens opens' : Path → Prop}
  {args args' : List Path} {result result' : Except LaunchFailure Ending}

theorem length_of_single {path : Path} (single : args = [path]) : args.length = 1 := by
  rw [single, List.length_singleton]

/-- Launches that agree have one verdict. -/
theorem Verdict.unique (h : Verdict lookup opens args result)
    (h' : Verdict lookup' opens' args' result')
    (agree : Agree lookup lookup' opens opens' args args') : result = result' := by
  obtain ⟨rfl, single, open_iff⟩ := agree
  cases h with
  | nobody absent =>
    cases h' with
    | nobody absent' => rw [Except.error.inj (absent.symm.trans absent')]
    | conversed found | executed found | unavailable found => cases absent.symm.trans found
  | conversed found many =>
    cases h' with
    | nobody absent => cases absent.symm.trans found
    | conversed => rfl
    | executed _ one | unavailable _ one => exact absurd (single.mpr (length_of_single one)) many
  | executed found one opened =>
    cases h' with
    | nobody absent => cases absent.symm.trans found
    | conversed _ many => exact absurd (single.mp (length_of_single one)) many
    | executed => rfl
    | unavailable _ one' closed => exact absurd ((open_iff _ _ one one').mp opened) closed
  | unavailable found one closed =>
    cases h' with
    | nobody absent => cases absent.symm.trans found
    | conversed _ many => exact absurd (single.mp (length_of_single one)) many
    | executed _ one' opened => exact absurd ((open_iff _ _ one one').mpr opened) closed
    | unavailable => rfl

theorem Agree.refl (lookup : Except LookupFailure Identity) (opens : Path → Prop)
    (args : List Path) : Agree lookup lookup opens opens args args := by
  refine ⟨rfl, Iff.rfl, fun path path' h h' => ?_⟩
  obtain rfl : path = path' := List.head_eq_of_cons_eq (h.symm.trans h')
  exact Iff.rfl

/-- A verdict is an error for a failed lookup alone. -/
theorem Verdict.status_eq_one_iff (h : Verdict lookup opens args result) :
    Surroundings.status result = 1 ↔ ∃ cause, lookup = .error cause := by
  cases h with
  | nobody absent => exact ⟨fun _ => ⟨_, absent⟩, fun _ => rfl⟩
  | conversed found | executed found | unavailable found =>
    constructor
    · intro h
      cases h
    · rintro ⟨cause, absent⟩
      cases absent.symm.trans found

end Verdict

theorem Surroundings.status_eq_zero_iff (result : Except LaunchFailure Ending) :
    status result = 0 ↔ ∃ ending, result = .ok ending := by
  cases result with
  | error failure =>
    constructor
    · intro h
      cases h
    · rintro ⟨ending, h⟩
      cases h
  | ok ending => exact ⟨fun _ => ⟨ending, rfl⟩, fun _ => rfl⟩

variable {σ τ : Type}

theorem Host.launch_verdict (host : Host σ) (scripts : Path → Except Failure (List UInt8))
    (args : List Path) :
    Verdict host.roster.current (Available scripts) args (host.launch scripts args).result := by
  cases host.launchCourse scripts args with
  | nobody cause lookup =>
    rw [launch_nobody lookup]
    exact .nobody lookup
  | conversed identity lookup many =>
    rw [launch_conversed lookup many]
    exact .conversed lookup many
  | unavailable identity path failure lookup opening =>
    rw [launch_unavailable lookup opening]
    refine .unavailable lookup rfl ?_
    rintro ⟨data, opened⟩
    cases opening.symm.trans opened
  | executed identity path data lookup opening =>
    rw [launch_executed lookup opening]
    exact .executed lookup rfl ⟨data, opening⟩

theorem Surroundings.launch_verdict (surroundings : Surroundings) :
    Verdict surroundings.identity (Available surroundings.scripts) surroundings.args
      surroundings.launch.result := by
  let host : Host Unit := ⟨.ofList surroundings.identity [], Repeater.interpreter, (),
    surroundings.input, surroundings.output⟩
  exact host.launch_verdict surroundings.scripts surroundings.args

/-- Two launches that agree on the lookup, on whether there is one argument and on whether that
opens have the same result, whatever their interpreters, states and streams, and it is the one that
these three call for. A program that starts in surroundings that agree with them has that result if
it launches, and exits with status 0 just if it is no failure, with status 1 just if the lookup
failed. It launches unless the filter of its log stops it, which has a status of its own. -/
theorem Host.launch_insulated (host : Host σ) (other : Host τ)
    {scripts scripts' : Path → Except Failure (List UInt8)} {args args' : List Path}
    (agree : Agree host.roster.current other.roster.current (Available scripts)
      (Available scripts') args args') :
    let result := (host.launch scripts args).result
    (other.launch scripts' args').result = result ∧
    (∀ called, Verdict host.roster.current (Available scripts) args called ↔ called = result) ∧
    (∀ tree : FileTree, scripts = tree.script → Available scripts = tree.Opens) ∧
    ∀ surroundings : Surroundings,
      Agree host.roster.current surroundings.identity (Available scripts)
        (Available surroundings.scripts) args surroundings.args →
      surroundings.launch.result = result ∧
      (Log.Filter.tear? surroundings.filterVariable = none →
        (surroundings.run.status = 0 ↔ ∃ ending, result = .ok ending) ∧
        (surroundings.run.status = 1 ↔ ∃ cause, host.roster.current = .error cause)) ∧
      ∀ tear, Log.Filter.tear? surroundings.filterVariable = some tear →
        surroundings.run.status = 101 := by
  intro result
  have verdict : Verdict host.roster.current (Available scripts) args result :=
    host.launch_verdict scripts args
  have verdict' : Verdict other.roster.current (Available scripts') args'
      (other.launch scripts' args').result := other.launch_verdict scripts' args'
  refine ⟨(verdict.unique verdict' agree).symm, ?_, ?_, ?_⟩
  · intro called
    constructor
    · intro h
      exact h.unique verdict (.refl _ _ _)
    · rintro rfl
      exact verdict
  · rintro tree rfl
    exact tree.available_script
  · intro surroundings alike
    have same : surroundings.launch.result = result :=
      (verdict.unique surroundings.launch_verdict alike).symm
    refine ⟨same, ?_, ?_⟩
    · intro whole
      have status : surroundings.run.status = Surroundings.status result := by
        rw [Surroundings.run_of_launch whole, ← same]
        rfl
      rw [status]
      exact ⟨Surroundings.status_eq_zero_iff result, verdict.status_eq_one_iff⟩
    · intro tear torn
      rw [Surroundings.run_of_tear torn]
      rfl

/-- Two scripts that open, for interpreters and outputs of which one fails at once, and the program
with that output. -/
theorem Host.insulated_from_failing_script :
    let tree : FileTree := ⟨[([[0x66]], .file [])], []⟩
    let tree' : FileTree := ⟨[([[0x67]], .file [0x61])], []⟩
    let refusing : Output := ⟨0, none, [WriteFault.refusing 0 none], 0, [(1, .plain .other)]⟩
    let failing : Interpreter Unit := .ofCourses {} { failure := some (.plain .brokenPipe) }
    let host : Host Unit := ⟨.ofList (.ok ⟨"bob"⟩) [], Repeater.interpreter, (), .exhausted, {}⟩
    let other : Host Unit := ⟨.ofList (.ok ⟨"bob"⟩) [], failing, (),
      .failing (.plain .inputOutput) .exhausted, refusing⟩
    let surroundings : Surroundings :=
      { args := [[0x66]], scripts := tree.script, identity := .ok ⟨"bob"⟩,
        input := .exhausted, output := refusing }
    (host.launch tree.script [[0x66]]).result = .ok .executed ∧
      (other.launch tree'.script [[0x67]]).result = .ok .executed ∧
      surroundings.run.status = 0 := by
  intro tree tree' refusing failing host other surroundings
  have opened : Available tree.script [0x66] :=
    ⟨[], FileTree.script_of_file (FileTree.walk_file rfl (by decide) (by decide) rfl)⟩
  have opened' : Available tree'.script [0x67] :=
    ⟨[0x61], FileTree.script_of_file (FileTree.walk_file rfl (by decide) (by decide) rfl)⟩
  have agree : Agree host.roster.current other.roster.current (Available tree.script)
      (Available tree'.script) [[0x66]] [[0x67]] := by
    refine ⟨rfl, by decide, ?_⟩
    rintro _ _ ⟨⟩ ⟨⟩
    exact iff_of_true opened opened'
  obtain ⟨same, called, -, program⟩ := host.launch_insulated other agree
  have result := (called _).mp (.executed rfl rfl opened)
  obtain ⟨-, ends, -⟩ := program surroundings (.refl _ _ _)
  exact ⟨result.symm, same.trans result.symm, (ends rfl).1.mpr ⟨_, result.symm⟩⟩

end InterpreterHost
