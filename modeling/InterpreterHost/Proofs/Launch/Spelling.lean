import InterpreterHost.Proofs.Launch.Outcomes
import Mathlib.Tactic.SplitIfs

/-! Launches with two spellings of one script. Modes agree on paths of one shape, and such paths
lead to the same unless one of them ends in place, which no script does. So the spelling can keep a
script from being opened, but not make it another one: `Host.launch_same_spelling`. -/

namespace InterpreterHost

/-! ### Spellings of a path

Names that stay in place may be put in front of other names (`Padded`), since whatever follows a
name must be a directory anyway: `FileTree.walk_padded`. At the end of a path they ask for a
directory, so a path that ends in one opens no file: `FileTree.follow_ne_file`. -/

/-- The path ends in `/` or in `/.`. -/
def Path.EndsInPlace (path : Path) : Prop :=
  [slash] <:+ path ∨ [slash, 46] <:+ path

instance : DecidablePred Path.EndsInPlace := fun path =>
  inferInstanceAs (Decidable ([Path.slash] <:+ path ∨ [Path.slash, 46] <:+ path))

/-- The last of some names, if there is one, stays in place. -/
def EndsIdle (names : List Name) : Prop :=
  ∀ name ∈ names.getLast?, name.isIdle

/-- The first names are the second ones with idle names in front of some of them. -/
inductive Padded : List Name → List Name → Prop
  | nil : Padded [] []
  | cons {names names' : List Name} (name : Name) (padded : Padded names names') :
      Padded (name :: names) (name :: names')
  | idle {name : Name} {names names' : List Name} (idle : name.isIdle) (more : names ≠ [])
      (padded : Padded names names') : Padded (name :: names) names'

namespace Padded

variable {names names' : List Name}

theorem append_left (h : Padded names names') (before : List Name) :
    Padded (before ++ names) (before ++ names') := by
  induction before with
  | nil => exact h
  | cons name before ih => exact .cons name ih

theorem eq_nil_iff (h : Padded names names') : names = [] ↔ names' = [] := by
  induction h with
  | nil => exact Iff.rfl
  | cons => simp
  | idle _ more _ ih => simp [more, ih.symm]

theorem of_moving {name : Name} (h : Padded (name :: names) names') (moves : ¬name.isIdle) :
    ∃ rest, names' = name :: rest ∧ Padded names rest := by
  cases h with
  | cons _ padded => exact ⟨_, rfl, padded⟩
  | idle idle => exact absurd idle moves

end Padded

theorem EndsIdle.tail {name : Name} {names : List Name} (h : EndsIdle (name :: names)) :
    EndsIdle names := by
  cases names with
  | nil => exact fun _ hm => by simp at hm
  | cons => simpa [EndsIdle] using h

theorem EndsIdle.ne_nil {name : Name} {names : List Name} (h : EndsIdle (name :: names))
    (moves : ¬name.isIdle) : names ≠ [] := by
  rintro rfl
  exact moves (h name (by simp))

theorem EndsIdle.append_left {names : List Name} (h : EndsIdle names) (some : names ≠ [])
    (before : List Name) : EndsIdle (before ++ names) := by
  obtain ⟨last, hlast⟩ := List.getLast?_isSome.mpr some |> Option.isSome_iff_exists.mp
  intro name hm
  rw [List.getLast?_append, hlast] at hm
  exact h name (hlast.trans hm)

/-- Names of which the last one leads elsewhere have no idle ones but in front of others. -/
theorem padded_filter {names : List Name} (moves : ¬EndsIdle names) :
    Padded names (names.filter (!Name.isIdle ·)) := by
  induction names with
  | nil => exact .nil
  | cons name names ih =>
    by_cases more : names = []
    · subst more
      have moving : name.isIdle = false := by simpa [EndsIdle] using moves
      simpa [moving] using Padded.cons name .nil
    · have rest : Padded names (names.filter (!Name.isIdle ·)) :=
        ih fun idle => moves (idle.append_left more [name])
      by_cases idle : name.isIdle
      · simpa [idle] using Padded.idle idle more rest
      · simpa [idle] using Padded.cons name rest

/-! ### The last name of a path -/

namespace Path

variable {p q : Path}

theorem endsIdle_names (h : p.EndsInPlace) : EndsIdle p.names := by
  obtain ⟨before, rfl⟩ | ⟨before, rfl⟩ := h
  · simp [names, fields_append_cons, fields, EndsIdle, Name.isIdle]
  · rw [names, List.append_cons, List.append_assoc]
    simp [fields_append_cons, fields, slash, EndsIdle, Name.isIdle, Name.dot]

theorem ne_nil_of_not_endsIdle (moves : ¬EndsIdle p.names) : p ≠ [] := by
  rintro rfl
  exact moves (by simp [names, fields, EndsIdle, Name.isIdle])

/-- A path that does not end in place ends in a name that leads elsewhere, but for two. -/
theorem eq_of_endsIdle_names (idle : EndsIdle p.names) (h : ¬p.EndsInPlace) :
    p = [] ∨ p = Name.dot := by
  by_cases single : slash ∉ p
  · rw [names, fields_of_not_mem single] at idle
    simpa [EndsIdle, Name.isIdle] using idle
  · obtain ⟨before, last, rfl, hlast⟩ : ∃ before last, p = before ++ slash :: last ∧
        slash ∉ last := by
      obtain ⟨xs, ys, hsplit, hxs⟩ :=
        List.eq_append_cons_of_mem (List.mem_reverse.mpr (Decidable.not_not.mp single))
      refine ⟨ys.reverse, xs.reverse, ?_, by simpa using hxs⟩
      have reversed := congrArg List.reverse hsplit
      simpa using reversed
    rw [names, fields_append_cons, fields_of_not_mem hlast] at idle
    have ends : last = [] ∨ last = Name.dot := by
      simpa [EndsIdle, Name.isIdle] using idle
    exfalso
    rcases ends with rfl | rfl
    · exact h (.inl (List.suffix_append before _))
    · exact h (.inr (List.suffix_append before _))

theorem endsIdle_iff_shape (h : ¬p.EndsInPlace) : EndsIdle p.names ↔ p.shape.names = [] := by
  constructor
  · intro idle
    rcases eq_of_endsIdle_names idle h with rfl | rfl <;> decide
  · intro none name hname
    have idle := List.filter_eq_nil_iff.mp none name (List.mem_of_getLast? hname)
    simpa using idle

/-- Paths of one shape hold a zero both or neither. -/
theorem zero_mem_of_shape (same : p.shape = q.shape) (h : 0 ∈ p) : 0 ∈ q := by
  have apart : (0 : UInt8) ≠ slash := by decide
  obtain ⟨name, hname, hz⟩ := (exists_mem_fields apart p).mpr h
  have moves : Name.isIdle name = false := by
    have idle : ¬(name = [] ∨ name = Name.dot) := by
      rintro (rfl | rfl) <;> simp [Name.dot] at hz
    simpa [Name.isIdle] using idle
  have kept : name ∈ p.shape.names := by simpa [shape, names, moves] using hname
  rw [same] at kept
  have hq : name ∈ fields slash q := (List.mem_filter.mp kept).1
  exact (exists_mem_fields apart q).mp ⟨name, hq, hz⟩

end Path

/-! ### Following -/

namespace FileTree

/-- Idle names in front of others lead nowhere else. Any other name is first on both sides, so both
walks take the same step; past a link they go on with the names of its target in front. -/
theorem walk_padded (tree : FileTree) (links : Nat) (here : Place) {names names' : List Name}
    (h : Padded names names') : tree.walk links here names = tree.walk links here names' := by
  fun_induction walk tree links here names generalizing names' with
  | case1 =>
    cases h
    rw [walk]
  | case2 links here name names idle ih =>
    cases h with
    | cons _ padded => rw [walk, if_pos idle, ih padded]
    | idle _ _ padded => exact ih padded
  | case3 links here names moves ih =>
    obtain ⟨rest, rfl, padded⟩ := h.of_moving moves
    rw [walk, if_neg moves, if_pos rfl, ih padded]
  | case4 links here name names moves down long =>
    obtain ⟨rest, rfl, -⟩ := h.of_moving moves
    rw [walk, if_neg moves, if_neg down, if_pos long]
  | case5 links here name names moves down short missing =>
    obtain ⟨rest, rfl, -⟩ := h.of_moving moves
    rw [walk, if_neg moves, if_neg down, if_neg short, missing]
  | case6 links here name names moves down short entered ih =>
    obtain ⟨rest, rfl, padded⟩ := h.of_moving moves
    rw [walk, if_neg moves, if_neg down, if_neg short, entered]
    exact ih padded
  | case7 links here name moves down short data found =>
    obtain ⟨rest, rfl, padded⟩ := h.of_moving moves
    simp [walk, moves, down, short, found, padded.eq_nil_iff.mp rfl]
  | case8 links here name names moves down short data found more =>
    obtain ⟨rest, rfl, padded⟩ := h.of_moving moves
    simp [walk, moves, down, short, found, mt padded.eq_nil_iff.mpr more]
  | case9 here name names moves down short target found =>
    obtain ⟨rest, rfl, -⟩ := h.of_moving moves
    rw [walk, if_neg moves, if_neg down, if_neg short, found]
  | case10 here name names moves down short target found n ih =>
    obtain ⟨rest, rfl, padded⟩ := h.of_moving moves
    rw [walk, if_neg moves, if_neg down, if_neg short, found]
    exact ih (padded.append_left target.names)
  | case11 links here name names moves down short found =>
    obtain ⟨rest, rfl, padded⟩ := h.of_moving moves
    rw [walk, if_neg moves, if_neg down, if_neg short, found]
    simp only [padded.eq_nil_iff]
  | case12 links here name names moves down short found =>
    obtain ⟨rest, rfl, -⟩ := h.of_moving moves
    rw [walk, if_neg moves, if_neg down, if_neg short, found]

/-- Where names end in an idle one, there is no file. -/
theorem walk_ne_file (tree : FileTree) (links : Nat) (here : Place) {names : List Name}
    (h : EndsIdle names) (data : List UInt8) : tree.walk links here names ≠ .ok (.file data) := by
  fun_induction walk tree links here names with
  | case1 => simp
  | case2 _ _ _ _ _ ih => exact ih h.tail
  | case3 _ _ _ _ ih => exact ih h.tail
  | case4 => simp
  | case5 => simp
  | case6 _ _ _ _ _ _ _ _ ih => exact ih h.tail
  | case7 _ _ _ moves => exact absurd rfl (h.ne_nil moves)
  | case8 => simp
  | case9 => simp
  | case10 _ _ _ moves _ _ target _ _ ih =>
    exact ih (h.tail.append_left (h.ne_nil moves) target.names)
  | case11 => simp
  | case12 => simp

/-- A path that ends in place leads to no file. -/
theorem follow_ne_file (tree : FileTree) {path : Path} (h : path.EndsInPlace)
    (data : List UInt8) : tree.follow path ≠ .ok (.file data) := by
  unfold follow
  split_ifs
  · simp
  · simp
  · simp
  · exact tree.walk_ne_file _ _ (Path.endsIdle_names h) data

/-- Paths of one shape lead to the same, unless one of them ends in place. -/
theorem follow_of_shape (tree : FileTree) {p q : Path} (short : p.length < pathBound)
    (short' : q.length < pathBound) (same : p.shape = q.shape) (h : ¬p.EndsInPlace)
    (h' : ¬q.EndsInPlace) : tree.follow p = tree.follow q := by
  by_cases idle : EndsIdle p.names
  · have idle' : EndsIdle q.names := by
      rwa [Path.endsIdle_iff_shape h', ← same, ← Path.endsIdle_iff_shape h]
    rcases Path.eq_of_endsIdle_names idle h with rfl | rfl <;>
      rcases Path.eq_of_endsIdle_names idle' h' with rfl | rfl
    · rfl
    · exact absurd same (by decide)
    · exact absurd same (by decide)
    · rfl
  · have idle' : ¬EndsIdle q.names := by
      rwa [Path.endsIdle_iff_shape h', ← same, ← Path.endsIdle_iff_shape h]
    have zero : 0 ∈ p ↔ 0 ∈ q := ⟨Path.zero_mem_of_shape same, Path.zero_mem_of_shape same.symm⟩
    have starts : start tree.home p = start tree.home q := by
      have absolute : p.isAbsolute = q.isAbsolute := congrArg Path.Shape.absolute same
      rw [start, start, absolute]
    have leads : tree.walk linkLimit (start tree.home q) p.names =
        tree.walk linkLimit (start tree.home q) q.names := by
      have names : p.names.filter (!Name.isIdle ·) = q.names.filter (!Name.isIdle ·) :=
        congrArg Path.Shape.names same
      rw [tree.walk_padded _ _ (padded_filter idle), names,
        ← tree.walk_padded _ _ (padded_filter idle')]
    rw [follow, follow, if_neg (Path.ne_nil_of_not_endsIdle idle),
      if_neg (Path.ne_nil_of_not_endsIdle idle'), if_neg (Nat.not_le.mpr short),
      if_neg (Nat.not_le.mpr short'), starts, leads]
    simp only [zero]

end FileTree

/-! ### Launches -/

theorem Mode.shape_of_agrees {p q : Path} (h : (script p).agrees (script q)) :
    p.shape = q.shape := by
  simpa [agrees] using h

namespace FileTree

variable {tree : FileTree} {p q : Path}

theorem not_opens_of_endsInPlace (tree : FileTree) (h : p.EndsInPlace) : ¬tree.Opens p := by
  rintro ⟨data, found⟩
  exact tree.follow_ne_file h data found

theorem not_endsInPlace_of_script {data : List UInt8} (opened : tree.script p = .ok data) :
    ¬p.EndsInPlace := by
  intro ends
  obtain ⟨failure, closing⟩ := script_of_not_opens (tree.not_opens_of_endsInPlace ends)
  cases opened.symm.trans closing

theorem script_of_agrees (short : p.length < pathBound) (short' : q.length < pathBound)
    (h : (Mode.script p).agrees (.script q)) (ends : ¬p.EndsInPlace) (ends' : ¬q.EndsInPlace) :
    tree.script p = tree.script q := by
  rw [script, script, tree.follow_of_shape short short' (Mode.shape_of_agrees h) ends ends']

end FileTree

/-- The launch without its journal. -/
def Launch.unnoted {σ : Type} (launched : Launch σ) : Launch σ :=
  { launched with journal := [] }

namespace Host

variable {σ : Type} {scripts : Path → Except Failure (List UInt8)} {p q : Path}

/-- What opens in the same way launches the same; only the journal tells the path. -/
theorem launch_of_scripts_eq (host : Host σ) (h : scripts p = scripts q) :
    (host.launch scripts [p]).unnoted = (host.launch scripts [q]).unnoted := by
  cases lookup : host.roster.current with
  | error cause => rw [launch_nobody lookup, launch_nobody lookup]
  | ok identity =>
    cases opening : scripts p with
    | error failure =>
      rw [launch_unavailable lookup opening, launch_unavailable lookup (h ▸ opening)]
      rfl
    | ok data =>
      rw [launch_executed lookup opening, launch_executed lookup (h ▸ opening)]
      rfl

theorem launch_endsInPlace {host : Host σ} {identity : Identity}
    (lookup : host.roster.current = .ok identity) (tree : FileTree) (ends : p.EndsInPlace) :
    (host.launch tree.script [p]).result = .ok .unavailable := by
  obtain ⟨failure, closing⟩ :=
    FileTree.script_of_not_opens (tree.not_opens_of_endsInPlace ends)
  rw [launch_unavailable lookup closing]
  rfl

/-- For every file tree, a launch with one path that ends in `/` or in `/.` touches nothing and asks
nothing of the interpreter: the script is unavailable, if anybody is found to launch for. Let two
paths be shorter than the bound and their modes agree. If neither ends so, launches with them from
any one host are the same, journals apart. In any case scripts that open under both are the same,
and so are the launches unless the script is unavailable under one of the paths. -/
theorem launch_same_spelling (tree : FileTree) :
    (∀ (path : Path) (host : Host σ), path.EndsInPlace →
      let launched := host.launch tree.script [path]
      host.Untouched launched ∧ host.handovers tree.script [path] = [] ∧
        (∀ identity, host.roster.current = .ok identity → launched.result = .ok .unavailable) ∧
        (∀ cause, host.roster.current = .error cause →
          launched.result = .error (.nobody cause))) ∧
    ∀ p q : Path, p.length < FileTree.pathBound → q.length < FileTree.pathBound →
      (Mode.ofArguments [p]).agrees (Mode.ofArguments [q]) →
      (¬p.EndsInPlace → ¬q.EndsInPlace → ∀ host : Host σ,
        (host.launch tree.script [p]).unnoted = (host.launch tree.script [q]).unnoted) ∧
      (∀ data data', tree.script p = .ok data → tree.script q = .ok data' → data = data') ∧
      ∀ host : Host σ,
        (host.launch tree.script [p]).unnoted = (host.launch tree.script [q]).unnoted ∨
          (host.launch tree.script [p]).result = .ok .unavailable ∨
          (host.launch tree.script [q]).result = .ok .unavailable := by
  constructor
  · intro path host ends launched
    obtain ⟨failure, closing⟩ :=
      FileTree.script_of_not_opens (tree.not_opens_of_endsInPlace ends)
    cases lookup : host.roster.current with
    | error cause =>
      have hlaunched : launched = _ := launch_nobody lookup
      rw [hlaunched]
      refine ⟨⟨rfl, rfl, rfl⟩, handovers_nobody lookup, ?_, ?_⟩
      · rintro identity ⟨⟩
      · rintro _ ⟨⟩
        rfl
    | ok identity =>
      have hlaunched : launched = _ := launch_unavailable lookup closing
      rw [hlaunched]
      refine ⟨⟨rfl, rfl, rfl⟩, handovers_unavailable lookup closing, fun _ _ => rfl, ?_⟩
      rintro cause ⟨⟩
  · intro p q short short' agree
    have same (ends : ¬p.EndsInPlace) (ends' : ¬q.EndsInPlace) : tree.script p = tree.script q :=
      FileTree.script_of_agrees short short' agree ends ends'
    refine ⟨fun ends ends' host => host.launch_of_scripts_eq (same ends ends'), ?_, ?_⟩
    · intro data data' opened opened'
      have ends := FileTree.not_endsInPlace_of_script opened
      have ends' := FileTree.not_endsInPlace_of_script opened'
      exact Except.ok.inj (opened.symm.trans ((same ends ends').trans opened'))
    · intro host
      cases lookup : host.roster.current with
      | error cause => exact .inl (by rw [launch_nobody lookup, launch_nobody lookup])
      | ok identity =>
        by_cases ends : p.EndsInPlace
        · exact .inr (.inl (launch_endsInPlace lookup tree ends))
        by_cases ends' : q.EndsInPlace
        · exact .inr (.inr (launch_endsInPlace lookup tree ends'))
        · exact .inl (host.launch_of_scripts_eq (same ends ends'))

/-- The file `f`, reached through the link `l` and back, spelled in three ways. -/
theorem same_by_link_and_dots :
    let tree : FileTree :=
      ⟨[([[0x66]], .file [0x61]), ([[0x6C]], .link [0x2E, 0x2F, 0x64]), ([[0x64]], .directory)], []⟩
    let p : Path := [0x6C, 0x2F, 0x2E, 0x2E, 0x2F, 0x66]
    let q : Path := [0x6C, 0x2F, 0x2F, 0x2E, 0x2F, 0x2E, 0x2E, 0x2F, 0x66]
    let closed : Path := p ++ [0x2F, 0x2E]
    let refusing : Output := ⟨0, none, [WriteFault.refusing 1 none], 0, []⟩
    let host : Host Unit :=
      ⟨.ofList (.ok ⟨"bob"⟩) [], .ofCourses {} { write := [0x62, 0x63] }, (), .ofBytes [], refusing⟩
    tree.script p = .ok [0x61] ∧ (Mode.script p).agrees (.script q) ∧
      (Mode.script p).agrees (.script closed) ∧
      (host.launch tree.script [p]).unnoted = (host.launch tree.script [q]).unnoted ∧
      (host.launch tree.script [p]).result = .ok .executed ∧
      (host.launch tree.script [closed]).result = .ok .unavailable ∧
      tree.script q = .ok [0x61] := by
  intro tree p q closed refusing host
  have found : tree.follow p = .ok (.file [0x61]) := by
    simp [tree, p, FileTree.follow, FileTree.pathBound, FileTree.linkLimit, FileTree.start,
      FileTree.walk, FileTree.nameLimit, FileTree.entry?, Path.isAbsolute, Path.slash, Path.names,
      fields, Name.isIdle, Name.dot, Name.dotDot]
  have agreed : tree.follow p = tree.follow q :=
    tree.follow_of_shape (by decide) (by decide) (by decide) (by decide) (by decide)
  have found' : tree.follow q = .ok (.file [0x61]) := agreed ▸ found
  have opened : tree.script p = .ok [0x61] := FileTree.script_of_file found
  have agree : (Mode.script p).agrees (.script q) := by decide
  have agree' : (Mode.script p).agrees (.script closed) := by decide
  obtain ⟨ending, spelled⟩ := @Host.launch_same_spelling Unit tree
  obtain ⟨-, -, unavailable, -⟩ := ending closed host (by decide)
  obtain ⟨same, -, -⟩ := spelled p q (by decide) (by decide) agree
  have executed : (host.launch tree.script [p]).result = .ok .executed := by
    rw [launch_executed rfl opened]
    rfl
  exact ⟨opened, agree, agree', same (by decide) (by decide) host, executed,
    unavailable ⟨"bob"⟩ rfl, FileTree.script_of_file found'⟩

end Host

end InterpreterHost
