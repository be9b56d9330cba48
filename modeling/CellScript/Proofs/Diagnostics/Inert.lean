import CellScript.Proofs.Diagnostics.Call
import CellScript.Proofs.Engine.Run

/-!
# Diagnostics are inert

Flags other than the one that throws warnings make no difference to a run that does not look at
them: its result, the console, the heap and the stack traces are the same, and only logs and counts
of calls differ. Whether a run calls a function that looks at diagnostics is seen from its own
counts of calls, in a run that counts them.

## Main definitions

* `Monitor.counting` — the monitor of a run that counts calls and reports nothing.

## Main statements

* `Machine.diagnosticNames_library` — the functions of the library that look at diagnostics.
* `Run.same_under` — a computation that evaluators carry does the same under any monitor.
* `Engine.Request.diagnostics_inert` — requests are served in the same way under any monitor.
-/

namespace CellScript

/-- Every call is counted, and nothing is reported. -/
def Monitor.counting : Monitor where
  flags := { (.ofLevel 0 : DebugFlags) with profile := true }
  scripts _ := ({ (.ofLevel 0 : DebugFlags) with profile := true }, .empty)
  logs := #[]

namespace Machine

theorem every_under (m : Machine) (o : Monitor) (kind : Function → Bool) (s : ScriptRef)
    (name : String) :
    (m.under o).every kind s name = m.every kind s name := by
  obtain ⟨p, same⟩ := m.getD_under' o s.index
  unfold every
  rw [same]
  rfl

/-- In its machine, a function that shows or sets diagnostics has one of their names. -/
theorem knows_diagnosticNames (m : Machine) : m.Knows m.diagnosticNames := by
  intro s name unnamed
  unfold every
  by_cases bound : s.index < m.scripts.size
  · cases found : (m.scripts.getD s.index default).environment.functions.get? name with
    | none => rfl
    | some f =>
      by_contra diagnostic
      refine unnamed (List.mem_flatMap.mpr ⟨m.scripts.getD s.index default, ?_, ?_⟩)
      · simp [Array.getD_eq_getD_getElem?, bound]
      · have entry := Dictionary.mem_of_find? found
        simp only [Option.all_some, Bool.not_eq_true', Bool.not_eq_false] at diagnostic
        exact List.mem_map.mpr ⟨(name, f), List.mem_filter.mpr ⟨entry, diagnostic⟩, rfl⟩
  · rw [getD_missing bound]
    rfl

/-- Of the library, these are the functions that show or set diagnostics, guarded or not. -/
theorem diagnosticNames_library (taint : Bool) :
    ((Environment.library taint).functions.entries.filter (·.2.isDiagnostic)).map (·.1) =
    ["&debug", "&profile"] := by
  cases taint <;> decide +kernel

theorem counting_under (m : Machine) : (m.under .counting).Counting where
  scripts s bound := by
    rw [getD_under, if_pos (by simpa using bound)]
    rfl
  context _ := rfl

end Machine

namespace Run

/-- A computation that evaluators carry does the same under any monitor, unless it calls a function
that shows or sets diagnostics. -/
theorem same_under {α : Type} (x : Run α) [related : ∀ names, Related (counted names) x x]
    (m : Machine) (o : Monitor) (calm : ¬ (x (m.under .counting)).2.HasCalled m.diagnosticNames) :
    (x (m.under o)).1 = (x m).1 ∧ (x m).2.Alike (x (m.under o)).2 := by
  have run := (related m.diagnosticNames).holds (m.under .counting)
  have knows : (m.under .counting).Knows m.diagnosticNames := fun s name unnamed => by
    rw [Machine.every_under]
    exact m.knows_diagnosticNames s name unnamed
  have follows (o : Monitor) := (run.follows o m.counting_under knows).resolve_left calm
  simp only [Machine.under_under] at follows
  obtain ⟨same, alike, -⟩ := follows m.monitor
  obtain ⟨same', alike', -⟩ := follows o
  rw [Machine.under_monitor] at same alike
  exact ⟨same'.symm.trans same, alike.symm.trans alike'⟩

end Run

namespace Eval

instance whole_counted (names : List String) (n : Nat) :
    Reentry.Whole (Run.counted names) (reentry n) (reentry n) := by
  rw [← hooked_none]
  infer_instance

end Eval

/-- Diagnostics are inert. A request is served in the same way under any two monitors, whatever they
show, count and trace, and whatever they have counted before: with the same result or fault, the
same console and the same heap, in which the global variables are; all scripts have the same
globals, stack traces and counts of frames, and what differs at the end is what monitors the
machine. All that is asked is that no function is called that shows or sets diagnostics, which is
seen from the counts of a run that counts its calls. -/
theorem Engine.Request.diagnostics_inert (n : Nat) (s : ScriptRef) (request : Engine.Request)
    (m : Machine) (o : Monitor)
    (calm : ¬ (request.serve (Eval.reentry n) s (m.under .counting)).2.HasCalled
      m.diagnosticNames) :
    let ended := request.serve (Eval.reentry n) s m
    let ended' := request.serve (Eval.reentry n) s (m.under o)
    ended'.1 = ended.1 ∧ ended'.2.console = ended.2.console ∧ ended'.2.heap = ended.2.heap ∧
      (∀ t : ScriptRef,
        let script := ended.2.scripts.getD t.index default
        let script' := ended'.2.scripts.getD t.index default
        script'.globals = script.globals ∧ script'.lastTrace = script.lastTrace ∧
          script'.lastStats = script.lastStats) ∧
      ended.2.Alike ended'.2 := by
  intro ended ended'
  obtain ⟨same, alike⟩ := Run.same_under (request.serve (Eval.reentry n) s) m o calm
  exact ⟨same, alike.console, alike.heap, fun t => alike.reported t.index, alike⟩

/-- Everything is reported, traced and counted. -/
def Monitor.loud : Monitor where
  flags := .ofLevel 207
  scripts _ := (.ofLevel 207, .empty)
  logs := #[[]]

/-- A call of a function with a variable that was not declared, loaded by an engine. -/
def Machine.loadedCall (function : String) : Machine :=
  let body : Body := .mk none 1 [.flow .return (some (.call function [.var "$level"]))]
  (Engine.load (.ofBlock "main" body.build) (.create .standard (.ofInput []))).2.machine

/-- What a loud monitor is told of a run, and the run itself is as it was. -/
theorem Engine.Request.diagnostics_inert_loud :
    let m := Machine.loadedCall "&typeOf"
    let ended := run.serve (Eval.reentry 8) ⟨0⟩ m
    let ended' := run.serve (Eval.reentry 8) ⟨0⟩ (m.under .loud)
    ¬ (run.serve (Eval.reentry 8) ⟨0⟩ (m.under .counting)).2.HasCalled m.diagnosticNames ∧
      (ended.2.logs.getD 0 []).length = 0 ∧ (ended'.2.logs.getD 0 []).length = 2 ∧
      ended'.1 = ended.1 := by
  intro m ended ended'
  have runs : ¬ (run.serve (Eval.reentry 8) ⟨0⟩ (m.under .counting)).2.HasCalled m.diagnosticNames ∧
      (ended.2.logs.getD 0 []).length = 0 ∧ (ended'.2.logs.getD 0 []).length = 2 := by
    decide +kernel
  obtain ⟨calm, silent, reported⟩ := runs
  exact ⟨calm, silent, reported, (diagnostics_inert 8 ⟨0⟩ .run m .loud calm).1⟩

/-- A call of `&debug` is counted. -/
example :
    (Engine.Request.run.serve (Eval.reentry 8) ⟨0⟩
      ((Machine.loadedCall "&debug").under .counting)).2.HasCalled
    (Machine.loadedCall "&debug").diagnosticNames := by
  decide +kernel

end CellScript
