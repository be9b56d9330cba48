import CellScript.Eval.Step
import CellScript.Proofs.Host.Call
import CellScript.Proofs.Library.Function

/-!
# Plain parts of steps

The parts of steps and calls that neither evaluate blocks nor make calls, and that leave the context
as it was. Around the body of a handler they do not: the body is run with its handler on the stack
of handlers. When it has ended the handler is taken off again, and it is run in a scope of its own
if something was thrown.

## Main definitions

* `handled`, `caught` — where a body begins, and where the handler of a thrown value begins.
* `bodyEnd` — what is done at the end of a body.

## Main statements

* Instances of `Run.Related` for `Eval.interpolated`, `Eval.applyOperator`, `Eval.store`,
  `Eval.bindName` and `Eval.reply`.
-/

namespace CellScript.Eval

open Run (Related)

variable {ρ : Run.Relation}

instance (vars : VarsRef) (message : Option String) (args : List CellRef) :
    HeapM.CalmBut (some vars) (bindArguments vars message args) := by
  refine .andThen fun all => .andThen fun _ => ?_
  cases message with
  | none =>
    refine @HeapM.CalmBut.andThen _ _ _ _ _ (.forIn fun ⟨cell, i⟩ _ => ?_) fun _ => ?_
    · infer_instance
    · infer_instance
  | some text =>
    refine @HeapM.CalmBut.andThen _ _ _ _ _ (.forIn fun ⟨cell, i⟩ _ => ?_) fun _ => ?_
    · infer_instance
    · infer_instance

instance (line : UInt32) :
    Related ρ (Run.changeContext ({ · with line })) (Run.changeContext ({ · with line })) :=
  .of_serves fun _ => ⟨⟨rfl, rfl, rfl, rfl, rfl⟩, id, rfl, .of_code⟩

instance (message : Option String) (args : List CellRef) (r : HostReply) :
    Related ρ (reply message args r) (reply message args r) := by
  cases r with
  | message => cases message <;> unfold reply <;> infer_instance
  | first | count | give _ | throw _ | fail _ => unfold reply; infer_instance

/-! ## Values and variables -/

theorem reports_warnUndeclared (name : String) : Run.Reports (warnUndeclared name) :=
  Run.reports_when (·.strict) fun _ => Run.reports_warn _

instance (name : String) : Related ρ (warnUndeclared name) (warnUndeclared name) :=
  .of_reports (reports_warnUndeclared name)

instance (name : String) : Related ρ (lookup? name) (lookup? name) :=
  have : Machine.Apart fun m => m.context.scope.lookup? m.heap name := ⟨fun _ _ => rfl⟩
  inferInstanceAs (Related ρ (Run.ask _) (Run.ask _))

instance (fragments : List Fragment) :
    Related ρ (interpolated fragments) (interpolated fragments) := by
  induction fragments with
  | nil =>
    unfold interpolated
    infer_instance
  | cons fragment rest ih =>
    cases fragment with
    | text text =>
      unfold interpolated
      infer_instance
    | var name =>
      unfold interpolated
      refine .andThen fun cell? => ?_
      cases cell? <;> infer_instance

instance (name : String) (cell : CellRef) : Related ρ (bindName name cell) (bindName name cell) :=
  .inScope fun m => ρ.holds_putVariable (m.context.scope.bound_mem_containers m.heap name)
    name cell rfl

/-! ## Operators and assignment -/

instance (op : String) (args : List CellRef) :
    Related ρ (applyOperator op args) (applyOperator op args) := by
  unfold applyOperator
  split <;> infer_instance

instance (cell value : CellRef) (op : Option String) :
    Related ρ (store cell value op) (store cell value op) := by
  cases op <;> unfold store <;> infer_instance

/-! ## Handlers -/

theorem onlyTraces_traceCaught (slot : Nat) (var : String) (r : Except Fault Flow) :
    Run.OnlyTraces (traceCaught slot var r) := by
  intro m
  unfold traceCaught
  split
  · rw [Run.bind_run, Run.askContext_run]
    dsimp only
    split
    · rw [Run.bind_run, Run.askHeap_run]
      exact Run.onlyTraces_traceLogic _ m
    · exact ⟨[], nofun, rfl⟩
  · exact ⟨[], nofun, rfl⟩

/-! ## Bodies with handlers -/

variable {body handler : Block} {var : String}

/-- What becomes of the outcome of a body with a handler: a throw is caught. -/
def settleBody (self : Reentry) (handler : Block) (var : String) : Except Fault Flow → Run Flow
  | .error f => Run.fail f
  | .ok (.throw value) => catchThrow self handler var value
  | .ok flow => return flow.through 0

/-- What is done at the end of a body with a handler, `slot` handlers being active around it. -/
def bodyEnd (self : Reentry) (handler : Block) (var : String) (slot : Nat) (r : Except Fault Flow) :
    Run Flow := do
  traceCaught slot var r
  Run.changeContext fun c => { c with handlers := truncateStack c.handlers slot }
  settleBody self handler var r

/-- Inside of the body of a handler. -/
def handled (var : String) (m : Machine) : Machine :=
  { m with context := { m.context with handlers := var :: m.context.handlers } }

/-- Where the handler of a thrown value begins: in a catch scope of its own. -/
def caught (var : String) (value : CellRef) (m : Machine) : Machine :=
  let (vars, heap) := m.heap.newVars
  { m with
    heap := heap.putVariable vars var value
    context := { m.context.settleTrace with scope := m.context.scope.pushLocal vars } }

theorem catchThrow_run (self : Reentry) (value : CellRef) (m : Machine) :
    catchThrow self handler var value m = runHandler self handler none (caught var value m) := rfl

/-- The watchers are told nothing but that a throw was caught, which is a trace. -/
theorem bodyEnd_run (handler : Block) (var : String) (slot : Nat) (r : Except Fault Flow)
    (m : Machine) :
    ∃ notes : List (ScriptRef × Warning), (∀ note ∈ notes, note.2.trace) ∧
      ∀ self : Reentry, bodyEnd self handler var slot r m = settleBody self handler var r
        { m with
          logs := m.noted notes
          context := { m.context with handlers := truncateStack m.context.handlers slot } } := by
  obtain ⟨notes, traces, run⟩ := onlyTraces_traceCaught slot var r m
  refine ⟨notes.map (m.context.script, ·), by simpa using fun w told => (traces w told).1,
    fun self => ?_⟩
  rw [bodyEnd, Run.bind_run, run]
  rfl

/-- A body from where it begins to what is done at its end. -/
theorem tryBody_eq (self : Reentry) (inner : Option Cursor) (m : Machine) :
    tryBody self body handler var inner m =
      (Run.attempt (self.block body inner) >>= bodyEnd self handler var m.context.handlers.length)
      (handled var m) := by
  change (Run.attempt (self.block body inner) >>= _) (handled var m) = _
  rw [Run.bind_run, Run.bind_run]
  rcases Run.attempt (self.block body inner) (handled var m) with ⟨_ | r, m'⟩
  · rfl
  · rcases r with _ | flow
    · rfl
    · cases flow <;> rfl

end CellScript.Eval
