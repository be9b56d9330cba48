import CellScript.Eval.Call
import CellScript.Proofs.Run.Relation

/-!
# What calls leave behind

Whatever is called by name or by value goes through `Eval.dispatch`. What it leaves behind, apart
from what the call itself has done, is said here once: calls are counted, the line is restored, and
a throw that passes through is recorded.

## Main definitions

* `Context.concluded`, `Machine.concluded` — a context and a machine after a call.

## Main statements

* `Eval.conclude_run`, `Eval.dispatch_run` — calls from their beginning to their end.
* `Eval.conclude_logs` — what is told of a call.
-/

namespace CellScript

/-- The context after a call that was made in a context and has ended in another. -/
def Context.concluded (name : String) (c inner : Context) : Except Fault CellRef → Context
  | .ok _ => { inner with line := c.line }
  | .error f =>
    let cut := inner.truncateFrames c.frameDepth
    { (if f.isFatal then cut else cut.recordFrame ⟨name, c.currentSource, c.line⟩) with
      line := c.line }

/-- A script that has counted a call. -/
def Script.counted (name : String) (c : Context) (s : Script) : Script :=
  { s with profiler := s.profiler.record name c.currentSource c.line 0 }

/-- The machine after a call, but for what was written to logs. -/
def Machine.concluded (name : String) (c : Context) (r : Except Fault CellRef) (m : Machine) :
    Machine :=
  { m with
    activeCalls := m.activeCalls - 1
    scripts :=
      if c.flags.profile then m.scripts.modify m.context.script.index (·.counted name c)
      else m.scripts
    context := c.concluded name m.context r }

theorem Context.concluded_here (name : String) (c inner : Context) (r : Except Fault CellRef) :
    (c.concluded name inner r).script = inner.script ∧
    (c.concluded name inner r).maxDepth = inner.maxDepth ∧
      (c.concluded name inner r).flags = inner.flags := by
  cases r with
  | ok _ => exact ⟨rfl, rfl, rfl⟩
  | error f => cases fatal : f.isFatal <;> simp [Context.concluded, fatal] <;> exact ⟨rfl, rfl, rfl⟩

/-- What counting a call leaves alone is the same of all scripts. -/
theorem Machine.map_concluded {β : Type} (g : Script → β) {name : String} {c : Context}
    (same : ∀ script : Script, g (script.counted name c) = g script) (r : Except Fault CellRef)
    (m : Machine) :
    (m.concluded name c r).scripts.map g = m.scripts.map g := by
  unfold concluded
  split
  · exact Script.map_modify g same m.scripts m.context.script.index
  · rfl

namespace Eval

theorem conclude_run (name : String) (c : Context) (described : Option String)
    (r : Except Fault CellRef) (m : Machine) :
    ∃ logs, conclude name c described r m =
      (r.mapError .fault, { m.concluded name c r with logs }) := by
  unfold conclude Machine.concluded
  cases profile : c.flags.profile <;>
  cases r with
  | ok value => cases described <;> exact ⟨_, rfl⟩
  | error f =>
    cases fatal : f.isFatal <;> cases described <;>
      exact ⟨_, by simp [fatal, Context.concluded]; rfl⟩

/-- The watchers are told of a call that has ended, if it was described. -/
theorem conclude_logs (name : String) (c : Context) (described : Option String)
    (r : Except Fault CellRef) (m : Machine) :
    (conclude name c described r m).2.logs = described.elim m.logs fun described =>
      m.told m.context.script ⟨match r with
        | .ok value => s!"{name}({described}) = {m.heap.describe value}"
        | .error _ => s!"{name}({described}) - FAILED!", c.line, m.context.currentSource,
          true⟩ := by
  -- to have counted the call makes no difference to who watches
  let m₁ : Machine :=
    { m with scripts := m.scripts.modify m.context.script.index (·.counted name c) }
  have watchers : m₁.scripts.map (·.watchers) = m.scripts.map (·.watchers) :=
    Script.map_modify Script.watchers (f := (·.counted name c)) (fun _ => rfl) m.scripts
      m.context.script.index
  have counted (w : Warning) : m₁.told m.context.script w = m.told m.context.script w :=
    Machine.told_congr watchers rfl m.context.script w
  unfold conclude
  cases profile : c.flags.profile <;>
  cases r with
  | ok value =>
    cases described with
    | none => rfl
    | some described => first | rfl | exact counted _
  | error f =>
    cases fatal : f.isFatal <;> cases described with
    | none => simp [fatal]; rfl
    | some described => simp [fatal]; first | rfl | exact counted _

/-- All that is told of it is a trace. -/
theorem conclude_traces (name : String) (c : Context) (described : Option String)
    (r : Except Fault CellRef) (m : Machine) :
    ∃ notes : List (ScriptRef × Warning), (∀ note ∈ notes, note.2.trace) ∧
      conclude name c described r m =
        (r.mapError .fault, { m.concluded name c r with logs := m.noted notes }) := by
  obtain ⟨logs, run⟩ := conclude_run name c described r m
  have told := conclude_logs name c described r m
  rw [run] at told
  change logs = _ at told
  rw [told] at run
  cases described with
  | none => exact ⟨[], nofun, run⟩
  | some described =>
    exact ⟨[(m.context.script, ⟨_, c.line, m.context.currentSource, true⟩)], by simp, run⟩

/-- A call beyond the depth limit fails; any other is made, with its arguments described for the
trace. -/
theorem dispatch_run (name : String) (args : List CellRef) (m : Machine) :
    ∃ described, ∀ x : Run CellRef, dispatch name args x m =
      if m.context.maxDepth ≤
        m.activeCalls then (.error (.fault (.runtime (.callDepth m.context.maxDepth))), m)
      else (Run.attempt x >>= conclude name m.context described)
        { m with activeCalls := m.activeCalls + 1 } := by
  unfold dispatch
  simp only [Run.bind_run (Run.askContext id), Run.bind_run (Run.ask _), Run.askContext_run,
    Run.ask_run, id]
  by_cases deep : m.context.maxDepth ≤ m.activeCalls
  · exact ⟨none, fun x => by simp [deep, Run.bind_run]⟩
  · cases traced : m.context.flags.traceCalls <;>
      exact ⟨_, fun x => by simp [deep, Run.bind_run]; rfl⟩

end Eval

end CellScript
