import CellScript.Proofs.Eval.Hook

/-!
# Counted runs

A run that counts calls shows whether a function has been called that looks at diagnostics. Until
then, it does the same as a run from a machine that is alike: one that differs in what monitors it,
and in nothing else.

## Main definitions

* `Machine.Alike` — machines that differ in what monitors them.
* `Machine.counts`, `Machine.Counting` — calls that were counted; machines in which calls are
  counted.
* `Machine.HasCalled` — a function of some name has been called.
* `Run.counted` — the relation between counted runs and others.

## Main statements

* `Run.Counted.of_blind` — a computation that does not look at its monitor is related to itself.
* `Run.Counted.bind`, `Run.Counted.attempt` — related computations go on to related ones, also after
  a stop.
-/

namespace CellScript

namespace Machine

/-- The machines differ in what monitors them, and in nothing else. -/
def Alike (m m' : Machine) : Prop :=
  ∃ o, m' = m.under o

/-- Whether a script has counted a call of a name. -/
def counts (m : Machine) (name : String) : Bool :=
  m.scripts.any fun s => (s.profiler.byName.get? name).isSome

/-- A call of one of some names has been counted. -/
def HasCalled (names : List String) (m : Machine) : Prop :=
  ∃ name ∈ names, m.counts name

instance (names : List String) (m : Machine) : Decidable (m.HasCalled names) :=
  inferInstanceAs (Decidable (∃ name ∈ names, m.counts name))

/-- Calls are counted in all scripts, and in the current context. -/
structure Counting (m : Machine) : Prop where
  scripts : ∀ s : ScriptRef, s.index < m.scripts.size →
    (m.scripts.getD s.index default).config.debug.profile
  context : m.context.script.index < m.scripts.size → m.context.flags.profile

/-- The names that stand for functions that show or set diagnostics. -/
def diagnosticNames (m : Machine) : List String :=
  m.scripts.toList.flatMap fun s => (s.environment.functions.entries.filter (·.2.isDiagnostic)).map
    (·.1)

/-- Functions that show or set diagnostics are known by certain names in all scripts. -/
def Knows (names : List String) (m : Machine) : Prop :=
  ∀ s, ∀ name ∉ names, m.every (!·.isDiagnostic) s name

/-- All calls are still counted that were, and no functions that show diagnostics have become known
by other names. -/
structure KeepsCounts (m m' : Machine) : Prop where
  scripts : m'.scripts.size = m.scripts.size
  counts : ∀ name, m.counts name → m'.counts name
  knows : ∀ names, m.Knows names → m'.Knows names

variable {m m' m'' : Machine} {names : List String}

theorem counts_iff {name : String} :
    m.counts name ↔ ∃ s : ScriptRef,
    ((m.scripts.getD s.index default).profiler.byName.get? name).isSome := by
  simp only [counts, Array.any_eq_true]
  constructor
  · rintro ⟨i, bound, counted⟩
    exact ⟨⟨i⟩, by simpa [Array.getD_eq_getD_getElem?, bound] using counted⟩
  · rintro ⟨⟨i⟩, counted⟩
    by_cases bound : i < m.scripts.size
    · exact ⟨i, bound, by simpa [Array.getD_eq_getD_getElem?, bound] using counted⟩
    · rw [getD_missing bound] at counted
      cases counted

namespace Alike

theorem refl (m : Machine) : m.Alike m :=
  ⟨m.monitor, by simp⟩

theorem symm : m.Alike m' → m'.Alike m
  | ⟨o, same⟩ => ⟨m.monitor, by simp [same]⟩

theorem trans : m.Alike m' → m'.Alike m'' → m.Alike m''
  | ⟨o, same⟩, ⟨o', same'⟩ => ⟨o', by simp [same, same']⟩

/-- Machines that become the same under a monitor. -/
theorem of_under {o : Monitor} (h : m.under o = m'.under o) : m.Alike m' :=
  ⟨m'.monitor, by rw [← under_under m o, h, under_under, under_monitor]⟩

theorem heap (h : m.Alike m') : m'.heap = m.heap := by
  obtain ⟨o, rfl⟩ := h
  rfl

theorem console (h : m.Alike m') : m'.console = m.console := by
  obtain ⟨o, rfl⟩ := h
  rfl

/-- Scripts differ in flags and counts of calls alone. -/
theorem script (h : m.Alike m') (i : Nat) :
    ∃ p, m'.scripts.getD i default = (m.scripts.getD i default).under p := by
  obtain ⟨o, rfl⟩ := h
  exact m.getD_under' o i

/-- Scripts have the same globals, and have reported the same. -/
theorem reported (h : m.Alike m') (i : Nat) :
    (m'.scripts.getD i default).globals = (m.scripts.getD i default).globals ∧
      (m'.scripts.getD i default).lastTrace = (m.scripts.getD i default).lastTrace ∧
      (m'.scripts.getD i default).lastStats = (m.scripts.getD i default).lastStats := by
  obtain ⟨p, same⟩ := h.script i
  rw [same]
  exact ⟨rfl, rfl, rfl⟩

end Alike

namespace KeepsCounts

theorem refl (m : Machine) : m.KeepsCounts m :=
  ⟨rfl, fun _ => id, fun _ => id⟩

theorem trans (h : m.KeepsCounts m') (h' : m'.KeepsCounts m'') : m.KeepsCounts m'' :=
  ⟨h'.scripts.trans h.scripts, fun name => h'.counts name ∘ h.counts name,
    fun names => h'.knows names ∘ h.knows names⟩

/-- Other things than scripts have changed. -/
theorem of_scripts (h : m'.scripts = m.scripts) : m.KeepsCounts m' where
  scripts := by rw [h]
  counts name := by
    unfold Machine.counts
    rw [h]
    exact id
  knows names := by
    unfold Knows every
    rw [h]
    exact id

/-- A script has changed that counts what it counted and has new definitions at most. -/
theorem of_modify (s : ScriptRef) {f : Script → Script}
    (counts : ∀ script name, (script.profiler.byName.get? name).isSome →
      ((f script).profiler.byName.get? name).isSome)
    (functions : ∀ script, (f script).environment = script.environment) :
    m.KeepsCounts { m with scripts := m.scripts.modify s.index f } where
  scripts := Array.size_modify
  counts name := by
    rw [counts_iff, counts_iff]
    rintro ⟨s', counted⟩
    refine ⟨s', ?_⟩
    dsimp only
    rcases getD_modify m.scripts s.index s'.index f with same | changed
    · rwa [same]
    · rw [changed]
      exact counts _ name counted
  knows names knows s' name unnamed := by
    have innocent := knows s' name unnamed
    unfold every at innocent ⊢
    dsimp only
    rcases getD_modify m.scripts s.index s'.index f with same | changed
    · rwa [same]
    · rwa [changed, functions]

theorem hasCalled (h : m.KeepsCounts m') : m.HasCalled names → m'.HasCalled names
  | ⟨name, named, counted⟩ => ⟨name, named, h.counts name counted⟩

end KeepsCounts

end Machine

namespace Run

variable {α β : Type} {names : List String} {m : Machine}

/-! ## Blind computations -/

/-- A blind computation leaves the monitor alone, but for logs. -/
theorem Blind.monitor {x : Run α} (blind : Blind x) (m : Machine) :
    ∃ logs, (x m).2 = (x m).2.under { m.monitor with logs } := by
  obtain ⟨logs, run⟩ := blind.runs m m.monitor
  rw [Machine.under_monitor] at run
  exact ⟨logs, congrArg Prod.snd run⟩

/-- The scripts are monitored as before after a blind computation. -/
theorem Blind.script {x : Run α} (blind : Blind x) (scripts : (x m).2.scripts.size = m.scripts.size)
    (i : Nat) :
    ((x m).2.scripts.getD i default).profiler = (m.scripts.getD i default).profiler ∧
      ((x m).2.scripts.getD i default).config.debug.profile =
      (m.scripts.getD i default).config.debug.profile := by
  obtain ⟨logs, same⟩ := blind.monitor m
  have there := (x m).2.getD_under { m.monitor with logs } i
  rw [← same, scripts] at there
  rw [there]
  by_cases bound : i < m.scripts.size
  · rw [if_pos bound]
    exact ⟨rfl, rfl⟩
  · rw [if_neg bound, Machine.getD_missing bound]
    exact ⟨rfl, rfl⟩

/-! ## Counted runs -/

/-- `x` keeps counts. Where calls are counted, it does the same as `y` does from a machine that is
alike, unless a call has been counted of a function that shows or sets diagnostics. -/
structure Counted (names : List String) (x y : Run α) (m : Machine) : Prop where
  keeps : m.KeepsCounts (x m).2
  follows : ∀ o, m.Counting → m.Knows names → (x m).2.HasCalled names ∨
    (x m).1 = (y (m.under o)).1 ∧ (x m).2.Alike (y (m.under o)).2 ∧ (x m).2.Counting

namespace Counted

theorem of_blind {x : Run α} (blind : Blind x) (upholds : m.Upholds (x m).2) :
    Counted names x x m where
  keeps :=
    { scripts := upholds.scripts
      counts := fun name => by
        rw [Machine.counts_iff, Machine.counts_iff]
        rintro ⟨s, counted⟩
        exact ⟨s, by rwa [(blind.script upholds.scripts s.index).1]⟩
      knows :=
        fun names knows s name unnamed =>
          upholds.functions _ (fun _ => rfl) s name (knows s name unnamed) }
  follows o counting _ := by
    obtain ⟨logs, run⟩ := blind.runs m o
    refine .inr ⟨by rw [run], ⟨_, by rw [run]⟩, fun s bound => ?_, fun bound => ?_⟩
    · rw [(blind.script upholds.scripts s.index).2]
      exact counting.scripts s (upholds.scripts ▸ bound)
    · rw [upholds.script, upholds.scripts] at bound
      obtain ⟨logs, same⟩ := blind.monitor m
      rw [same]
      exact counting.context bound

theorem bind {x y : Run α} {f g : α → Run β} (h : Counted names x y m)
    (next : ∀ a m', x m = (.ok a, m') → Counted names (f a) (g a) m') :
    Counted names (x >>= f) (y >>= g) m := by
  have keeps := h.keeps
  have follows := h.follows
  cases run : x m with
  | mk r m₁ =>
    rw [run] at keeps follows
    cases r with
    | error stop =>
      have stopped : (x >>= f) m = (.error stop, m₁) := by rw [bind_run, run]
      refine ⟨by rwa [stopped], fun o counting knows => ?_⟩
      rw [stopped, bind_run]
      refine (follows o counting knows).imp_right ?_
      cases y (m.under o) with
      | mk r' m₁' =>
        rintro ⟨rfl, alike, still⟩
        exact ⟨rfl, alike, still⟩
    | ok a =>
      have after := next a m₁ run
      have goes : (x >>= f) m = f a m₁ := by rw [bind_run, run]
      refine ⟨by rw [goes]; exact keeps.trans after.keeps, fun o counting knows => ?_⟩
      rw [goes, bind_run]
      obtain diagnosed | ⟨same, ⟨o', alike⟩, still⟩ := follows o counting knows
      · exact .inl (after.keeps.hasCalled diagnosed)
      · cases run' : y (m.under o) with
        | mk r' m₁' =>
          rw [run'] at same alike
          obtain rfl : m₁' = m₁.under o' := alike
          obtain rfl : .ok a = r' := same
          exact after.follows o' still (keeps.knows names knows)

theorem attempt {x y : Run α} (h : Counted names x y m) :
    Counted names (Run.attempt x) (Run.attempt y) m := by
  have keeps := h.keeps
  have follows := h.follows
  have last (x : Run α) (m : Machine) : (Run.attempt x m).2 = (x m).2 := by
    rw [attempt_run]
    rcases x m with ⟨(_ | _) | _, _⟩ <;> rfl
  refine ⟨by rwa [last], fun o counting knows => ?_⟩
  rw [last, last]
  refine (follows o counting knows).imp_right (And.imp_left fun same => ?_)
  rw [attempt_run, attempt_run]
  revert same
  rcases x m with ⟨r, m₁⟩
  rcases y (m.under o) with ⟨r', m₁'⟩
  rintro ⟨⟩
  rcases r with (_ | _) | _ <;> rfl

/-- Going on from another machine, in a way that may depend on the monitor. -/
theorem of_step {x y z : Run α} {m₁ : Machine} (run : x m = z m₁) (keeps : m.KeepsCounts m₁)
    (still : m.Counting → m₁.Counting)
    (h : ∀ o, ∃ z', y (m.under o) = z' (m₁.under o) ∧ Counted names z z' m₁) :
    Counted names x y m where
  keeps := by
    obtain ⟨z', -, after⟩ := h m.monitor
    rw [run]
    exact keeps.trans after.keeps
  follows o counting knows := by
    obtain ⟨z', run', after⟩ := h o
    rw [run, run']
    exact after.follows o (still counting) (keeps.knows names knows)

end Counted

/-- Runs in which calls are counted, and runs from machines that are alike. -/
def counted (names : List String) : Relation :=
  .plain (Counted names) (fun blind serves _ => .of_blind blind (.of_quiet serves.quiet))
    Counted.bind

instance : (counted names).IsRegular where
  keeps blind _ upholds := Counted.of_blind blind upholds
  attempt h _ next := Counted.bind h.attempt next

instance (x y : Run α) [h : Related (counted names) x y] :
    Related (counted names) (attempt x) (attempt y) :=
  ⟨fun m => Counted.attempt (h.holds m)⟩

end Run

end CellScript
