import CellScript.Proofs.Chronicle.Account
import CellScript.Proofs.Chronicle.Flags

/-!
# Accounts of requests

Where calls are traced and counted, each call in a run is told of when it has ended, and counted
once under its name and once at its line.

## Main statements

* `Engine.Request.calls_accounted` — traces and counts of the calls in a run.
-/

namespace CellScript.Engine.Request

open Eval (reentry)

/-- Calls are accounted for. The chronicle of a request says which calls are entered and how they
end, whatever is called: functions, closures and inline blocks, also in contexts of their own. Flags
are set in it only where a function is called that sets them. In a script in which calls are traced
and counted, and for which no other flags are set, each call ends once, after those that are made in
it; when it ends its trace is told, with its arguments as they were when it was made, and nothing
else is told as a trace unless other things are traced; it is counted once under its name and once
at the line where it is made; and so there are as many calls by name, and by line, as there are
traces. -/
theorem calls_accounted (n : Nat) (t : ScriptRef) (request : Request) (m : Machine) :
    ∃ h, (request.serve (reentry n) t).Chronicles m h ∧ SetBy m.diagnosticNames h ∧
      ∀ s more, s.index < m.scripts.size →
      (m.scripts.getD s.index default).config.debug.calls = (true, true, more) →
        (∀ flags, .set s flags ∈ h → flags.calls = (true, true, more)) →
        Accounted s more h m (request.serve (reentry n) t m) := by
  let inside : Run CellRef := Run.attempt (request.body (reentry n) t) >>= Eval.finish
  have body :
      Run.Related (Run.attributed m.diagnosticNames) (request.body (reentry n) t)
        (request.body (reentry n) t) := by
    cases request <;> unfold Engine.Request.body <;> infer_instance
  have attributed : Run.Related (Run.attributed m.diagnosticNames) inside inside := by
    unfold inside
    infer_instance
  have knows : (m.entered t).Knows m.diagnosticNames := m.knows_diagnosticNames
  obtain ⟨h, chronicles, setBy⟩ := (attributed.holds (m.entered t)).chronicle knows
  have served : (request.serve (reentry n) t).Chronicles m h := .detached chronicles
  refine ⟨h, served, setBy, fun s more known flags kept => served.accounted known ?_⟩
  exact (chronicles.under (.entered known flags t) kept).1

/-- A function that fails in a call from another one, and functions that do not. -/
def nested : Body :=
  .mk none 1
    [.define "&g" (.mk none 2 [.flow .throw (some (.var "$1"))]) false,
      .define "&f" (.mk none 3 [.flow .return (some (.call "&g" [.var "$1"]))]) false,
      .try (.mk none 5 [.expr (.call "&f" [.call "&typeOf" [.literal (.int 7)]])]) "$e"
        (.mk none 6 [.flow .return (some (.call "&typeOf" [.var "$e"]))])]

/-- A machine that has loaded it, in which calls are traced and counted and no function sets
flags. -/
def nestedMachine : Machine :=
  let config := { EngineConfig.standard with debug := .ofLevel 8 }
  let e := (Engine.load (.ofBlock "main" nested.build) (.create config (.ofInput []))).2
  (Engine.undefine ⟨0⟩ "&profile" (Engine.undefine ⟨0⟩ "&debug" e).2).2.machine

/-- The calls of a run, of which one fails in another. -/
theorem calls_accounted_nested :
    let ended := run.serve (reentry 30) ⟨0⟩ nestedMachine
    let profiler := (ended.2.scripts.getD 0 default).profiler
    ∃ h, (run.serve (reentry 30) ⟨0⟩).Chronicles nestedMachine h ∧
      Accounted ⟨0⟩ false h nestedMachine ended ∧
      (tracesIn ⟨0⟩ h).map (·.message) =
        ["&typeOf(7) = 'int'", "&g('int') - FAILED!", "&f('int') - FAILED!",
          "&typeOf('int') = 'string'"] ∧
      profiler.byNames = 4 ∧ profiler.byLines = 4 := by
  intro ended profiler
  have start : nestedMachine.diagnosticNames = [] ∧ nestedMachine.scripts.size = 1 ∧
      (nestedMachine.scripts.getD 0 default).config.debug.calls = (true, true, false) ∧
      (nestedMachine.scripts.getD 0 default).watchers = [0] ∧ nestedMachine.logs = #[[]] ∧
      (nestedMachine.scripts.getD 0 default).profiler.byName.entries = [] ∧
      (nestedMachine.scripts.getD 0 default).profiler.byLine = [] := by decide +kernel
  have finish : ((ended.2.logs.getD 0 []).filter (·.trace)).map (·.message) =
      ["&typeOf('int') = 'string'", "&f('int') - FAILED!", "&g('int') - FAILED!",
        "&typeOf(7) = 'int'"] := by
    decide +kernel
  subst profiler ended
  generalize nestedMachine = m at start finish ⊢
  obtain ⟨none, size, flags, watchers, logs, noNames, noLines⟩ := start
  obtain ⟨h, chronicles, setBy, accounted⟩ := calls_accounted 30 ⟨0⟩ .run m
  have kept (flags : DebugFlags) (set : .set ⟨0⟩ flags ∈ h) :
      flags.calls = (true, true, false) := by
    obtain ⟨c, -, named⟩ := setBy ⟨0⟩ flags set
    rw [none] at named
    cases named
  have account := accounted ⟨0⟩ false (size ▸ Nat.one_pos) flags kept
  have log := account.log 0 (by simp [logs]) ((congrArg (List.count 0) watchers).trans rfl)
    fun t other => by
    have missing : ¬ t.index < m.scripts.size :=
      fun bound => other (congrArg ScriptRef.mk (by omega : t.index = 0))
    rw [Machine.getD_missing missing]
    exact List.not_mem_nil
  have messages : (tracesIn ⟨0⟩ h).map (·.message) =
      ["&typeOf(7) = 'int'", "&g('int') - FAILED!", "&f('int') - FAILED!",
        "&typeOf('int') = 'string'"] := by
    have told : m.logs.getD 0 [] = [] := by rw [logs]; rfl
    rw [log, told, List.append_nil, List.filter_reverse, account.traced.2 rfl,
      List.map_reverse] at finish
    exact List.reverse_injective finish
  have sorted : (m.scripts.getD 0 default).profiler.byName.IsSorted := by
    unfold Dictionary.IsSorted
    rw [noNames]
    exact .nil
  obtain ⟨-, names, lines⟩ := account.totals sorted
  have four : (tracesIn ⟨0⟩ h).length = 4 := by simpa using congrArg List.length messages
  refine ⟨h, chronicles, account, messages, ?_, ?_⟩
  · rw [names, four, Profiler.byNames_eq, noNames]
    rfl
  · rw [lines, four, Profiler.byLines, noLines]
    rfl

end CellScript.Engine.Request
