import CellScript.Engine
import CellScript.Proofs.Eval.Related
import CellScript.Proofs.Eval.Watch

/-!
# Runs of scripts

A run and a call of a script take place in a context of their own. When they end, all frames but the
base frame have been taken away, so that the counts that are kept of them are balanced.

## Main definitions

* `FrameStats.isBalanced` — as many frames were taken away as were made.
* `Machine.RunEnds` — what is left of a run in a context of its own.

## Main statements

* `agrees_runScript`, `agrees_callScript` — runs and calls end with balanced counts.
-/

namespace CellScript

/-- As many frames were taken away as were made. -/
def FrameStats.isBalanced (stats : FrameStats) : Prop :=
  stats.created = stats.killed

/-- The counts that a script has kept of its last run. -/
def Machine.lastStats (m : Machine) (s : ScriptRef) : FrameStats :=
  (m.scripts.getD s.index default).lastStats

/-- A run that began in `m` has come to its end, with all frames taken away that it made. -/
structure Machine.RunEnds (m m' : Machine) : Prop where
  sound : m'.Sound
  grows : m.Extends m'
  script : m'.context.script = m.context.script
  depth : m'.context.frameDepth = m.context.frameDepth

/-- A context that only has its base frame has balanced counts. -/
theorem Context.isBalanced_stats {c : Context} (h : c.frameDepth = 1) : c.stats.isBalanced := by
  have counted := c.counted
  simp only [Context.frameDepth, FrameStats.isBalanced] at *
  omega

theorem Context.frameDepth_of_stack {c d : Context} (h : d.stack = c.stack) :
    d.frameDepth = c.frameDepth := by
  rw [← Context.stack_length, ← Context.stack_length, h]

namespace Machine

variable {m m' m'' : Machine}

theorem RunEnds.of_left {α : Type} {r : Except Fault α} (h : m.Left r m') : m.RunEnds m' := by
  obtain ⟨own, h⟩ : ∃ own, m.Leaves own m' := by
    cases r with
    | ok _ => exact ⟨[], h⟩
    | error _ => exact h
  exact ⟨h.sound, h.grows, congrArg (·.1) h.rigid, Context.frameDepth_of_stack h.stack⟩

theorem RunEnds.of_ended {b : Block} {resume : Option Cursor} {outer : List IterState} {slack : Nat}
    {r : Except Fault Flow} (h : b.Ended resume m outer slack r m') : m.RunEnds m' :=
  ⟨h.ends.sound, h.ends.grows, congrArg (·.1) h.ends.rigid, h.level.frameDepth⟩

theorem RunEnds.trans (h : m.RunEnds m') (h' : m'.RunEnds m'') : m.RunEnds m'' :=
  ⟨h'.sound, h.grows.trans h'.grows, h'.script.trans h.script, h'.depth.trans h.depth⟩

end Machine

namespace Eval

open Run (Tidy Agrees)

variable {lax : Prop} {self self' : Reentry} {m : Machine}

/-! ## Related runs -/

section Related

variable {ρ : Run.Relation}

instance (flow : Flow) : Run.Related ρ (valueOfFlow flow) (valueOfFlow flow) := by
  cases flow <;> unfold valueOfFlow <;> infer_instance

instance [ρ.IsLocal] (line : UInt32) (outcome : Except Fault CellRef) :
    Run.Related ρ (reportUncaught line outcome) (reportUncaught line outcome) := by
  unfold reportUncaught
  split
  · exact .andThen fun text => .ofScript fun own => inferInstance
  · infer_instance

/-- Definitions are bound by plain operations. -/
theorem related_hoist [ρ.IsLocal] : ∀ list : List Step, Run.Related ρ (hoist list) (hoist list)
  | [] => by
    unfold hoist
    infer_instance
  | .mk line i :: rest => by
    have := related_hoist rest
    cases i <;> unfold hoist <;> infer_instance

/-- Nothing is reported of a fatal fault. -/
theorem reportUncaught_fatal {f : Fault} (fatal : f.isFatal) (line : UInt32) :
    reportUncaught line (.error f) = pure (.error f) := by
  cases f with
  | thrown _ => cases fatal
  | fatal _ | taintViolation _ | badIndex _ | badCast _ | nullDereference _
  | concurrentModification _ | runtime _
  | timeout _ => rfl

/-- The counts and the trace of a run that has failed fatally are kept. -/
instance : Run.GivesUp finish where
  fails f fatal := by
    have counted (c : Context) :
        Run.Cleans (Run.changeOwnScript ({ · with lastStats := c.stats })) :=
      .changeOwnScript fun _ => ⟨rfl, rfl⟩
    have traced (lastTrace : List StackFrame) :
        Run.Cleans (Run.changeOwnScript ({ · with lastTrace })) :=
      .changeOwnScript fun _ => ⟨rfl, rfl⟩
    unfold finish
    simp only [reportUncaught_fatal fatal, pure_bind]
    infer_instance

instance (stats : FrameStats) : Script.Steady ({ · with lastStats := stats }) :=
  ⟨fun _ => rfl, fun _ => rfl, fun _ _ _ _ => id, fun _ _ => rfl⟩

instance (trace : List StackFrame) : Script.Steady ({ · with lastTrace := trace }) :=
  ⟨fun _ => rfl, fun _ => rfl, fun _ _ _ _ => id, fun _ _ => rfl⟩

instance [ρ.IsLocal] (outcome : Except Fault CellRef) :
    Run.Related ρ (finish outcome) (finish outcome) :=
  .ofContext fun c => inferInstance

instance [ρ.IsAttentive] [ρ.IsCarried] (s : ScriptRef) (x y : Run CellRef) [Run.Related ρ x y] :
    Run.Related ρ (runInContext s x) (runInContext s y) := by
  have ended : Run.Related ρ (do finish (← Run.attempt x)) (do finish (← Run.attempt y)) :=
      .attemptThen inferInstance fun _ => inferInstance
  unfold runInContext
  infer_instance

instance [Reentry.Whole ρ self self'] (s : ScriptRef) :
    Run.Related ρ (runMain self s) (runMain self' s) := by
  have : Machine.Apart fun m => (m.scripts.getD s.index default).main := ⟨fun m o => by
    obtain ⟨p, same⟩ := m.getD_under' o s.index
    rw [same]
    rfl⟩
  unfold runMain
  infer_instance

end Related

/-! ## Agreement -/

/-- Reporting a throw changes no script. -/
theorem reportUncaught_run (line : UInt32) (outcome : Except Fault CellRef) (m : Machine) :
    ∃ result m', reportUncaught line outcome m = (.ok result, m') ∧ m.Quiet m' ∧ m'.scripts =
      m.scripts := by
  unfold reportUncaught
  split
  · exact ⟨_, _, rfl, ⟨rfl, rfl, rfl, rfl, rfl⟩, rfl⟩
  · exact ⟨_, _, rfl, ⟨rfl, rfl, rfl, rfl, rfl⟩, rfl⟩

/-- What is kept at the end of a run is the counts of its context. -/
theorem agrees_finish (outcome : Except Fault CellRef) (hm : m.Sound) :
    Agrees lax (finish outcome) (finish outcome)
      (fun _ m' => m.RunEnds m' ∧ (m'.lastStats m.context.script = m.context.stats ∨
        m'.lastStats m.context.script = ⟨0, 0⟩)) m := by
  refine .bind (.askContext (.bind (.changeOwnScript ?_)))
  have stored := hm.changeScript m.context.script ({ · with lastStats := m.context.stats })
    fun _ h => ⟨h.main, h.inlines⟩
  obtain ⟨result, m₂, run, quiet, same⟩ := reportUncaught_run m.context.line outcome
    { m with
      scripts := m.scripts.modify m.context.script.index ({ · with lastStats := m.context.stats }) }
  refine .bind (.of_run run (.bind (.changeOwnScript (.settle ?_))))
  have after : m₂.Sound := stored.of_code quiet.code
  have here : m₂.context.script = m.context.script := congrArg (·.1) quiet.rigid
  refine ⟨⟨after.changeScript _ _ fun _ h => ⟨h.main, h.inlines⟩, ?_, here,
    Context.frameDepth_of_stack quiet.stack⟩, ?_⟩
  · exact (Machine.Extends.changeScript m _ _).trans
      ((Machine.Extends.of_code quiet.code).trans (.changeScript _ _ _))
  · simp only [Machine.lastStats, here, same, Machine.getD_modify_self, Array.size_modify]
    split
    · exact .inl rfl
    · exact .inr rfl

/-- What a run or a call of a script leaves. -/
def Balanced (m : Machine) (s : ScriptRef) (_ : Except Fault CellRef) (m' : Machine) : Prop :=
  m.Leaves [] m' ∧ (m'.lastStats s).isBalanced

/-- Running something in a context of its own, with what is done at the end of a run. -/
theorem agrees_runInContext (s : ScriptRef) (hm : m.Sound) {x y : Run CellRef}
    (h : ∀ m' : Machine, m'.Sound → Agrees lax x y (fun _ m'' => m'.RunEnds m'') m') :
    Agrees lax (runInContext s x) (runInContext s y) (Balanced m s) m := by
  refine agrees_newContext s hm fun c m₁ h₁ script depth => ?_
  have entered : ({ m₁ with context := c } : Machine).Sound := h₁.sound.of_code rfl
  have inside : Agrees lax (do finish (← Run.attempt x)) (do finish (← Run.attempt y))
      (fun _ m₃ => ({ m₁ with context := c } : Machine).RunEnds m₃ ∧ (m₃.lastStats s).isBalanced)
      { m₁ with context := c } := by
    refine .attemptThen (h _ entered) fun r m₂ ended => (agrees_finish r ended.sound).mono ?_
    rintro r' m₃ ⟨ended', stats⟩
    refine ⟨ended.trans ended', ?_⟩
    have here : m₂.context.script = s := ended.script.trans script
    rw [here] at stats
    rcases stats with stats | stats
    · rw [stats]
      exact Context.isBalanced_stats (ended.depth.trans depth)
    · rw [stats]
      rfl
  refine agrees_inside inside fun r m₃ ⟨ended, stats⟩ => And.intro ?_ stats
  have back : m₁.Leaves [] { m₃ with context := m₁.context } :=
    ⟨ended.sound.of_code rfl, .around ended.grows rfl rfl, rfl, rfl, rfl, rfl⟩
  exact h₁.trans back

/-- The main block of a script. -/
theorem agrees_runMain [Reentry.Agree lax self self'] (s : ScriptRef) (hm : m.Sound) :
    Agrees lax (runMain self s) (runMain self' s) (fun _ m' => m.RunEnds m') m := by
  refine .bind
    (.ask (.andThen (Reentry.Agree.fresh (hm.scripts s.index).main hm) (fun flow m₁ ended => ?_)
      ?_))
  · have ended : m.RunEnds m₁ := .of_ended ended
    exact (Tidy.agrees m₁ ended.sound).mono fun _ _ h => ended.trans (.of_left h)
  · exact fun _ _ ended => .of_ended ended

end Eval

/-! ## Requests -/

namespace Engine

/-- What a host may ask of a script. -/
inductive Request where
  | run
  | call (function : String) (args : List CellRef)

namespace Request

/-- What is computed in the context of a request. -/
def body (self : Reentry) (s : ScriptRef) : Request → Run CellRef
  | .run => Eval.runMain self s
  | .call function args => Eval.callFunction self function args

/-- Serve a request with an evaluator. -/
def serve (self : Reentry) (s : ScriptRef) (request : Request) : Run CellRef :=
  Eval.runInContext s (request.body self s)

end Request

/-- Evaluators that are related serve requests in the same way. -/
instance {ρ : Run.Relation} [ρ.IsAttentive] [ρ.IsCarried] {self self' : Reentry}
    [Reentry.Whole ρ self self'] (s : ScriptRef) (request : Request) :
    Run.Related ρ (request.serve self s) (request.serve self' s) := by
  unfold Request.serve
  cases request <;> unfold Request.body <;> infer_instance

variable {lax : Prop} {self self' : Reentry} {m : Machine} [Reentry.Agree lax self self']

theorem agrees_body (s : ScriptRef) (hm : m.Sound) : ∀ request : Request,
    Run.Agrees lax (request.body self s) (request.body self' s) (fun _ m' => m.RunEnds m') m
  | .run => Eval.agrees_runMain s hm
  | .call function args =>
    have left :
        Run.Agrees lax (Eval.callFunction self function args)
          (Eval.callFunction self' function args) m.Left m :=
      Run.Tidy.agrees m hm
    left.mono fun _ _ => .of_left

theorem agrees_serve (s : ScriptRef) (request : Request) (hm : m.Sound) :
    Run.Agrees lax (request.serve self s) (request.serve self' s) (Eval.Balanced m s) m :=
  Eval.agrees_runInContext s hm fun _ sound => agrees_body s sound request

end Engine

end CellScript
