import InterpreterHost.Proofs.Launch.Insulation
import InterpreterHost.Proofs.Launch.Requests
import InterpreterHost.Proofs.Repeater.Chunking
import Mathlib.Data.List.Forall2
import Mathlib.Data.Stream.Defs

/-! Histories of launches on one host. Each launch makes one lookup, so the results of a roster go
to the launches in order. Launches that left the host as it was may be left out of a history along
with their lookups, and the others do not notice. What makes a launch one that may be left out is a
relation between the hosts of the two histories (`Erasing`): it lasts through launches that both
make, and through one that only the first one makes. The induction along the history is made once
(`Erasing.spared`), for any interpreter (`erasing_idle`) and for the repeater on an output with
nothing in the way (`erasing_scripts`). -/

namespace InterpreterHost

variable {σ : Type}

/-- The results that a roster has still to give, in order. -/
def Roster.upcoming (roster : Roster) : Stream' (Except LookupFailure Identity) :=
  fun n => roster.results (roster.lookups + n)

theorem Roster.upcoming_advance (roster : Roster) :
    roster.advance.upcoming = roster.upcoming.tail := by
  funext n
  show roster.results (roster.lookups + 1 + n) = roster.results (roster.lookups + (n + 1))
  rw [Nat.add_assoc, Nat.add_comm 1 n]

section Marks

variable {α : Type}

/-- The members of a list that are not marked; those past the last mark are not. -/
def spared : List Bool → List α → List α
  | _, [] => []
  | [], x :: xs => x :: xs
  | true :: marks, _ :: xs => spared marks xs
  | false :: marks, x :: xs => x :: spared marks xs

@[simp] theorem spared_nil (xs : List α) : spared [] xs = xs := by
  cases xs <;> rw [spared]

/-- The members of a stream that are not marked. -/
def sparedStream : List Bool → Stream' α → Stream' α
  | [], xs => xs
  | true :: marks, xs => sparedStream marks xs.tail
  | false :: marks, xs => Stream'.cons xs.head (sparedStream marks xs.tail)

end Marks

/-! ### What one launch leaves -/

/-- How a launch leaves its host, by its result. -/
inductive Host.Leaves (host : Host σ) : Except LaunchFailure Ending → Host σ → Prop
  | failed (failure : LaunchFailure) : Leaves host (.error failure) host.asked
  | unavailable : Leaves host (.ok .unavailable) host.asked
  | executed (path : Path) (data : List UInt8) :
      Leaves host (.ok .executed) (host.asked.execute path data).host
  | conversed (identity : Identity) :
      Leaves host (.ok .conversed) (host.asked.converse identity).host

namespace Host.Leaves

variable {host later : Host σ} {result : Except LaunchFailure Ending}

theorem roster (leaves : host.Leaves result later) : later.roster = host.roster.advance := by
  cases leaves <;> rfl

theorem input (leaves : host.Leaves result later) (silent : result ≠ .ok .conversed) :
    later.input = host.input := by
  cases leaves with
  | failed | unavailable | executed => rfl
  | conversed => exact absurd rfl silent

/-- Only the lookup was made if there was nobody or nothing to execute. -/
theorem asked (leaves : host.Leaves result later)
    (idle : (∃ failure, result = .error failure) ∨ result = .ok .unavailable) :
    later = host.asked := by
  cases leaves with
  | failed | unavailable => rfl
  | executed | conversed => rcases idle with ⟨_, h⟩ | h <;> cases h

end Host.Leaves

namespace Host

variable {host : Host σ} {scripts : Path → Except Failure (List UInt8)}

theorem launch_leaves (host : Host σ) (scripts : Path → Except Failure (List UInt8))
    (args : List Path) :
    host.Leaves (host.launch scripts args).result (host.launch scripts args).host := by
  cases host.launchCourse scripts args with
  | nobody cause lookup =>
    rw [launch_nobody lookup]
    exact .failed (.nobody cause)
  | conversed identity lookup many =>
    rw [launch_conversed lookup many]
    exact .conversed identity
  | unavailable identity path failure lookup opening =>
    rw [launch_unavailable lookup opening]
    exact .unavailable
  | executed identity path data lookup opening =>
    rw [launch_executed lookup opening]
    exact .executed path data

/-! ### The launches of a history, by number -/

/-- The host after a launch with each of the argument lists. -/
def later (host : Host σ) (scripts : Path → Except Failure (List UInt8)) :
    List (List Path) → Host σ
  | [] => host
  | args :: runs => (host.launch scripts args).host.later scripts runs

theorem lookups_later (host : Host σ) (scripts : Path → Except Failure (List UInt8))
    (runs : List (List Path)) :
    (host.later scripts runs).roster =
      { host.roster with lookups := host.roster.lookups + runs.length } := by
  induction runs generalizing host with
  | nil => rfl
  | cons args runs ih =>
    rw [later, ih, (host.launch_leaves scripts args).roster, Roster.advance, List.length_cons,
      Nat.add_assoc, Nat.add_comm 1]

/-- Every launch starts from the host that those before it leave. -/
theorem getElem?_launches (host : Host σ) (scripts : Path → Except Failure (List UInt8))
    {runs : List (List Path)} {k : Nat} {args : List Path} (h : runs[k]? = some args) :
    (host.launches scripts runs)[k]? =
      some ((host.later scripts (runs.take k)).launch scripts args) := by
  induction runs generalizing host k with
  | nil => simp at h
  | cons first runs ih =>
    cases k with
    | zero =>
      obtain rfl : first = args := by simpa using h
      rfl
    | succ k =>
      rw [List.getElem?_cons_succ] at h
      rw [launches, List.getElem?_cons_succ, List.take_succ_cons, later]
      exact ih _ h

theorem greeting_prefix {identity : Identity} {args : List Path}
    (lookup : host.roster.current = .ok identity) (many : args.length ≠ 1) :
    (Greeting.write identity host.output).trace <+: (host.launch scripts args).events := by
  rw [launch_conversed lookup many]
  exact List.prefix_append _ _

end Host

/-! ### Leaving launches out -/

/-- What a relation between the hosts of two histories owes if the second history leaves out
launches that `idle` allows: launches that both make are `alike`. -/
structure Erasing (scripts : Path → Except Failure (List UInt8))
    (related : Host σ → Host σ → Prop) (alike : Launch σ → Launch σ → Prop)
    (idle : Launch σ → Prop) : Prop where
  both : ∀ {host other} args, related host other → host.roster.current = other.roster.current →
    alike (host.launch scripts args) (other.launch scripts args) ∧
      related (host.launch scripts args).host (other.launch scripts args).host
  first : ∀ {host other} args, related host other → idle (host.launch scripts args) →
    related (host.launch scripts args).host other

theorem upcoming_launch (host : Host σ) (scripts : Path → Except Failure (List UInt8))
    (args : List Path) :
    (host.launch scripts args).host.roster.upcoming = host.roster.upcoming.tail := by
  rw [(host.launch_leaves scripts args).roster, Roster.upcoming_advance]

/-- The launches that are not left out are as they were. -/
theorem Erasing.spared {scripts : Path → Except Failure (List UInt8)}
    {related : Host σ → Host σ → Prop} {alike : Launch σ → Launch σ → Prop}
    {idle : Launch σ → Prop} (erasing : Erasing scripts related alike idle)
    {host other : Host σ} (marks : List Bool) (runs : List (List Path)) (h : related host other)
    (rosters : other.roster.upcoming = sparedStream marks host.roster.upcoming)
    (erased : ∀ launched, (true, launched) ∈ marks.zip (host.launches scripts runs) →
      idle launched) :
    List.Forall₂ alike (spared marks (host.launches scripts runs))
      (other.launches scripts (spared marks runs)) := by
  induction runs generalizing host other marks with
  | nil =>
    rw [Host.launches, InterpreterHost.spared, InterpreterHost.spared, Host.launches]
    exact .nil
  | cons args runs ih =>
    have hfirst := upcoming_launch host scripts args
    have hsecond := upcoming_launch other scripts args
    cases marks with
    | nil =>
      have current : host.roster.current = other.roster.current :=
        congrArg Stream'.head rosters.symm
      obtain ⟨launched, hosts⟩ := erasing.both args h current
      have others := ih [] hosts (by rw [hfirst, hsecond, rosters]; rfl) (by simp)
      rw [spared_nil, spared_nil] at others
      exact .cons launched others
    | cons mark marks =>
      have others : ∀ launched,
          (true, launched) ∈ marks.zip ((host.launch scripts args).host.launches scripts runs) →
            idle launched := by
        intro launched hm
        exact erased launched (.tail _ hm)
      cases mark with
      | false =>
        have current : host.roster.current = other.roster.current :=
          congrArg Stream'.head rosters.symm
        obtain ⟨launched, hosts⟩ := erasing.both args h current
        exact .cons launched (ih marks hosts (by rw [hfirst, hsecond, rosters]; rfl) others)
      | true =>
        have hosts := erasing.first args h (erased _ (.head _))
        exact ih marks hosts (by rw [hfirst, rosters]; rfl) others

/-- For any interpreter and any streams, launches that found nobody or nothing to execute may be
left out. -/
theorem erasing_idle (scripts : Path → Except Failure (List UInt8)) :
    @Erasing σ scripts Host.Alike Launch.Same fun launched =>
      (∃ failure, launched.result = .error failure) ∨ launched.result = .ok .unavailable where
  both args alike lookup :=
    have same := alike.launch lookup (.refl scripts args)
    ⟨same, same.host⟩
  first {host other} args alike idle := by
    rw [(host.launch_leaves scripts args).asked idle]
    exact ⟨alike.interpreter, alike.state, alike.input, alike.output⟩

/-! ### Scripts of the repeater -/

/-- Two launches ended in the same way, with as much left, the same calls of the interpreter, and
the same trace but for how many calls carried a run of bytes. -/
structure Launch.Alike (first second : Launch σ) : Prop where
  result : first.result = second.result
  calls : first.calls = second.calls
  events : Event.join first.events = Event.join second.events
  left : first.host.input.left = second.host.input.left

/-- Two hosts of the repeater have one input, and nothing is in the way on their outputs. -/
structure Host.Unhindered (host other : Host Unit) : Prop where
  interpreter : host.interpreter = Repeater.interpreter
  interpreter' : other.interpreter = Repeater.interpreter
  input : host.input = other.input
  outputs : Correspondence.clear.outputs host.output other.output

namespace Correspondence

theorem clear_conclude (stop : Stop) {first second : Output}
    (outputs : clear.outputs first second) :
    clear.Sends (stop.conclude first) (stop.conclude second) := by
  cases stop with
  | ended => exact clear_flush outputs
  | failed failure => exact ⟨rfl, outputs, clear_traces.mpr (.refl _)⟩

/-- A copy does the same on both outputs. -/
theorem clear_copy {first second : Output} (outputs : clear.outputs first second)
    (source : Input) :
    Event.Alike (Repeater.copy 0 source first).sent.trace
      (Repeater.copy 0 source second).sent.trace := by
  have written := (clear_writeAll outputs source.body).andThen
    fun later => clear_conclude source.stop later
  exact (Repeater.copy_alike_write 0 source first).events.trans
    ((clear_traces.mp written.traces).trans
      (Repeater.copy_alike_write 0 source second).events.symm)

end Correspondence

theorem Passage.call_eq {first second : Passage Unit} (result : first.result = second.result)
    (events : Event.Alike first.events second.events) (operation : Operation) :
    first.call operation = second.call operation := by
  rw [Passage.call, Passage.call, result, events.taken]

namespace Host.Unhindered

variable {host other : Host Unit}

theorem asked (h : host.Unhindered other) : host.asked.Unhindered other.asked :=
  ⟨h.interpreter, h.interpreter', h.input, h.outputs⟩

theorem converse (h : host.Unhindered other) (identity : Identity) :
    (host.converse identity).Alike (other.converse identity) ∧
      (host.converse identity).host.Unhindered (other.converse identity).host := by
  have greeting := Correspondence.clear_lawful.greet identity h.outputs
  have talk : Correspondence.clear.Passages
      (host.interpreter.converse host.state host.input (Greeting.write identity host.output).output)
      (other.interpreter.converse other.state other.input
        (Greeting.write identity other.output).output) := by
    rw [h.interpreter, h.interpreter']
    exact Correspondence.clear_lawful.converse 0 _ _ _ _ h.input greeting.outputs
  have traces := Correspondence.clear_traces.mp (greeting.traces.append talk.traces)
  have call := Passage.call_eq talk.result (Correspondence.clear_traces.mp talk.traces) .converse
  exact ⟨⟨rfl, congrArg ([·]) call, traces, congrArg Input.left talk.inputs⟩, h.interpreter,
    h.interpreter', talk.inputs, talk.outputs⟩

theorem execute (h : host.Unhindered other) (path path' : Path) (data : List UInt8) :
    (host.execute path data).Alike (other.execute path' data) ∧
      (host.execute path data).host.Unhindered (other.execute path' data).host := by
  have run : Correspondence.clear.Passages
      (host.interpreter.execute host.state (.ofBytes data) host.output)
      (other.interpreter.execute other.state (.ofBytes data) other.output) := by
    rw [h.interpreter, h.interpreter']
    exact Correspondence.clear_lawful.copy 0 _ _ _ _ rfl h.outputs
  have written : Event.Alike (host.execute path data).events (other.execute path' data).events := by
    rw [Host.execute, Host.execute, h.interpreter, h.interpreter']
    exact Correspondence.clear_copy h.outputs (.ofBytes data)
  have call := Passage.call_eq run.result (Correspondence.clear_traces.mp run.traces) .execute
  exact ⟨⟨rfl, congrArg ([·]) call, written, congrArg Input.left h.input⟩, h.interpreter,
    h.interpreter', h.input, run.outputs⟩

/-- A launch that is no conversation may be left out. -/
theorem leaves {result : Except LaunchFailure Ending} {later : Host Unit}
    (h : host.Unhindered other) (leaves : host.Leaves result later)
    (silent : result ≠ .ok .conversed) : later.Unhindered other := by
  cases leaves with
  | failed | unavailable => exact ⟨h.interpreter, h.interpreter', h.input, h.outputs⟩
  | executed path data =>
    have hself : host.asked.Unhindered host.asked :=
      ⟨h.interpreter, h.interpreter, rfl, h.outputs.1, h.outputs.1⟩
    obtain ⟨-, executed⟩ := hself.execute path path data
    exact ⟨h.interpreter, h.interpreter', h.input, executed.outputs.1, h.outputs.2⟩
  | conversed => exact absurd rfl silent

end Host.Unhindered

theorem Launch.Alike.with_journals {first second : Launch σ} (alike : first.Alike second)
    (journal journal' : List JournalLine) :
    { first with journal := journal }.Alike { second with journal := journal' } :=
  ⟨alike.result, alike.calls, alike.events, alike.left⟩

/-- For the repeater on an output with nothing in the way, all launches but conversations may be
left out. -/
theorem erasing_scripts (scripts : Path → Except Failure (List UInt8)) :
    Erasing scripts Host.Unhindered Launch.Alike fun launched =>
      launched.result ≠ .ok .conversed where
  both {host other} args h lookup := by
    cases host.launchCourse scripts args with
    | nobody cause found =>
      rw [Host.launch_nobody found, Host.launch_nobody (lookup ▸ found)]
      exact ⟨⟨rfl, rfl, rfl, congrArg Input.left h.input⟩, h.asked⟩
    | conversed identity found many =>
      rw [Host.launch_conversed found many, Host.launch_conversed (lookup ▸ found) many]
      obtain ⟨alike, hosts⟩ := h.asked.converse identity
      exact ⟨alike.with_journals _ _, hosts⟩
    | unavailable identity path failure found opening =>
      rw [Host.launch_unavailable found opening, Host.launch_unavailable (lookup ▸ found) opening]
      exact ⟨⟨rfl, rfl, rfl, congrArg Input.left h.input⟩, h.asked⟩
    | executed identity path data found opening =>
      rw [Host.launch_executed found opening, Host.launch_executed (lookup ▸ found) opening]
      obtain ⟨alike, hosts⟩ := h.asked.execute path path data
      exact ⟨alike.with_journals _ _, hosts⟩
  first {host other} args h silent := h.leaves (host.launch_leaves scripts args) silent

/-- For every host and all argument lists it launches with in turn: launch number `k`, counted from
0, makes one lookup, after which there were `k + 1`, and goes by the result with that number, in how
it ends and in whom it greets; if it is no conversation it does not touch the input. If launches
that found nobody or nothing to execute are left out, with their lookups, all others are the same.
If the interpreter is the repeater and nothing is in the way on its output, scripts may be left out
too: the others end in the same way, with the same events and as much left. -/
theorem Host.launches_erasable (host : Host σ) (scripts : Path → Except Failure (List UInt8))
    (runs : List (List Path)) :
    (∀ k args, runs[k]? = some args →
      let before := host.later scripts (runs.take k)
      let launched := before.launch scripts args
      let lookup := host.roster.results (host.roster.lookups + k)
      (host.launches scripts runs)[k]? = some launched ∧
        before.roster.current = lookup ∧
        launched.host.roster.lookups = host.roster.lookups + (k + 1) ∧
        Verdict lookup (Available scripts) args launched.result ∧
        (∀ identity, lookup = .ok identity → args.length ≠ 1 →
          (Greeting.write identity before.output).trace <+: launched.events) ∧
        (launched.result ≠ .ok .conversed → launched.host.input = before.input)) ∧
    (∀ (marks : List Bool) (other : Host σ), host.Alike other →
      other.roster.upcoming = sparedStream marks host.roster.upcoming →
      (∀ launched, (true, launched) ∈ marks.zip (host.launches scripts runs) →
        (∃ failure, launched.result = .error failure) ∨ launched.result = .ok .unavailable) →
      List.Forall₂ Launch.Same (spared marks (host.launches scripts runs))
        (other.launches scripts (spared marks runs))) ∧
    ∀ (marks : List Bool) (repeating other : Host Unit),
      repeating.interpreter = Repeater.interpreter → repeating.output.Clear →
      repeating.Alike other →
      other.roster.upcoming = sparedStream marks repeating.roster.upcoming →
      (∀ launched, (true, launched) ∈ marks.zip (repeating.launches scripts runs) →
        launched.result ≠ .ok .conversed) →
      List.Forall₂ Launch.Alike (spared marks (repeating.launches scripts runs))
        (other.launches scripts (spared marks runs)) := by
  refine ⟨?_, ?_, ?_⟩
  · intro k args hargs before launched lookup
    have roster : before.roster = { host.roster with lookups := host.roster.lookups + k } := by
      have hk : (runs.take k).length = k :=
        List.length_take_of_le (Nat.le_of_lt (List.getElem?_eq_some_iff.mp hargs).1)
      rw [host.lookups_later scripts (runs.take k), hk]
    have current : before.roster.current = lookup := by rw [Roster.current, roster]
    have leaves := before.launch_leaves scripts args
    refine ⟨host.getElem?_launches scripts hargs, current, ?_, ?_, ?_, leaves.input⟩
    · rw [leaves.roster, Roster.advance, roster, Nat.add_assoc]
    · exact current ▸ before.launch_verdict scripts args
    · intro identity found many
      exact greeting_prefix (current.trans found) many
  · intro marks other alike rosters erased
    exact (erasing_idle scripts).spared marks runs alike rosters erased
  · intro marks repeating other interpreter clear alike rosters erased
    have related : repeating.Unhindered other :=
      ⟨interpreter, alike.interpreter ▸ interpreter, alike.input, clear, alike.output ▸ clear⟩
    exact (erasing_scripts scripts).spared marks runs related rosters erased

/-- A failed lookup is left out of a history on an output that refuses. With the repeater and
nothing in the way a script and a failed lookup are left out. -/
theorem Host.history_without_scripts_and_failures :
    let scripts (path : Path) : Except Failure (List UInt8) :=
      if path = [0x66] then .ok [0x61] else .error (.plain .notFound)
    let roster : Roster := .ofList (.ok ⟨"ann"⟩) [.error ⟨.plain .notFound⟩, .ok ⟨"cy"⟩]
    let runs : List (List Path) := [[[0x66]], [], []]
    let failing : Interpreter Unit := .ofCourses {} { failure := some (.plain .brokenPipe) }
    let refusing : Output := ⟨0, none, [WriteFault.refusing 5 none], 0, [(1, .plain .other)]⟩
    let host : Host Unit := ⟨roster, failing, (), .ofBytes [0x62], refusing⟩
    let pairs : Output := { limit := some 2 }
    let repeating : Host Unit := ⟨roster, Repeater.interpreter, (), .ofBytes [0x62], pairs⟩
    let fewer : Roster := .ofList (.ok ⟨"ann"⟩) [.ok ⟨"cy"⟩]
    (host.later scripts [[[0x66]], []]).roster.current = .ok ⟨"cy"⟩ ∧
      List.Forall₂ Launch.Same (spared [false, true] (host.launches scripts runs))
        ({ host with roster := fewer }.launches scripts [[[0x66]], []]) ∧
      List.Forall₂ Launch.Alike (spared [true, true] (repeating.launches scripts runs))
        ({ repeating with roster := .ofList (.ok ⟨"cy"⟩) [] }.launches scripts [[]]) := by
  intro scripts roster runs failing refusing host pairs repeating fewer
  have clear : pairs.Clear := ⟨by simp [pairs], by simp [pairs], by simp [pairs]⟩
  obtain ⟨numbered, same, -⟩ := host.launches_erasable scripts runs
  obtain ⟨-, -, alike⟩ := repeating.launches_erasable scripts runs
  refine ⟨(numbered 2 [] rfl).2.1, same [false, true] _ ⟨rfl, rfl, rfl, rfl⟩ ?_ ?_,
    alike [true, true] repeating _ rfl clear ⟨rfl, rfl, rfl, rfl⟩ ?_ ?_⟩
  · funext n
    rcases n with _ | _ | n <;> rfl
  · intro launched hm
    obtain rfl : launched = ((host.launch scripts [[0x66]]).host.launch scripts []) := by
      simpa [runs, Host.launches] using hm
    exact .inl ⟨_, rfl⟩
  · funext n
    rcases n with _ | n <;> rfl
  · intro launched hm
    obtain rfl | rfl : launched = repeating.launch scripts [[0x66]] ∨
        launched = ((repeating.launch scripts [[0x66]]).host.launch scripts []) := by
      simpa [runs, Host.launches] using hm
    · rintro ⟨⟩
    · rintro ⟨⟩

end InterpreterHost
