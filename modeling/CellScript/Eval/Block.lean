import CellScript.Eval.Step

/-!
# Blocks

A block stops at the first flow that is not normal, takes back what it installed and hands the flow
on. Faults are caught here: fatal ones are passed on, the others are reported and become throws of
their wording.

## Main definitions

* `Eval.block` — a block, from its start or from where it was suspended.
* `Eval.reentry` — the evaluator with a bound on the depth of its recursion.
-/

namespace CellScript.Eval

/-- The step that a position goes into, and the position inside of it. -/
def splitCursor : Option Cursor → Nat × Option Cursor
  | none => (0, none)
  | some [] => (0, none)
  | some [start] => (start, none)
  | some (start :: rest) => (start, some rest)

/-- The flow of a step of a block, unless a fatal fault ends it. Other faults are reported and
thrown. -/
def flowOfStep (line : UInt32) (result : Except Fault Flow) : Run (Except Fault Flow) := do
  match result with
  | .ok flow => return .ok flow
  | .error (.thrown value) => return .ok (.throw value)
  | .error f =>
    if f.isFatal then return .error f
    else
      let message ← Run.messageOf f
      Run.reportError message line
      return .ok (.throw (← HeapM.text message))

/-- A flow that leaves the block at a step. A flow step goes on after itself, a compound one inside
of itself. -/
def leaveAt (index : Nat) : Flow → Flow
  | .yield value [] => .yield value [index + 1]
  | .yield value cursor => .yield value (index :: cursor)
  | .callcc target [] => .callcc target [index + 1]
  | .callcc target cursor => .callcc target (index :: cursor)
  | flow => flow

/-- Steps in order, the first from where it was suspended. -/
def steps (perform : Option Cursor → Instruction → Run Flow) (index : Nat)
    (resume : Option Cursor) :
    List Step → Run (Except Fault Flow)
  | [] => return .ok .normal
  | .mk line instruction :: rest => do
    Run.changeContext ({ · with line })
    match ← flowOfStep line (← Run.attempt (perform resume instruction)) with
    | .ok .normal => steps perform (index + 1) none rest
    | .ok flow => return .ok (leaveAt index flow)
    | .error f => return .error f

/-- The context after a block: an end that is not normal takes back what was installed on the
way. -/
def closing (source : Option String) (marks : Marks) : Except Fault Flow → Context → Context
  | .ok .normal, c => { c with sources := c.sources.drop source.toList.length }
  | .ok flow, c => c.unwind marks flow.suspends
  | .error _, c => c.unwind marks false

/-- Compute in the source of a block. -/
def bracket (source : Option String) (x : Run (Except Fault Flow)) : Run Flow := do
  let marks ← Run.askContext (·.marks)
  Run.changeContext fun c => { c with sources := source.toList ++ c.sources }
  let outcome ← x
  Run.changeContext (closing source marks outcome)
  Run.settle outcome

/-- A block, from its start or from where it was suspended, with its steps performed in some way. -/
def blockBy (perform : Option Cursor → Instruction → Run Flow) (b : Block)
    (resume : Option Cursor) : Run Flow :=
  let (start, inner) := splitCursor resume
  bracket b.source (steps perform start inner (b.steps.drop start))

/-- A block, from its start or from where it was suspended. -/
def block (self : Reentry) : Block → Option Cursor → Run Flow :=
  blockBy (step self)

/-- The evaluator on top of one that it calls back. -/
def next (n : Nat) (self : Unit → Reentry) : Reentry where
  rounds := n
  block := fun b resume => block (self ()) b resume
  call := fun target message args => callValue (self ()) target message args
  invoke := fun f message args => invoke (self ()) f message args

/-- The evaluator with a bound on the depth of its recursion and on the rounds of its loops. -/
def reentry : Nat → Reentry
  | 0 =>
    { rounds := 0
      block := fun _ _ => throw .exhausted
      call := fun _ _ _ => throw .exhausted
      invoke := fun _ _ _ => throw .exhausted }
  | n + 1 => next n fun _ => reentry n

end CellScript.Eval
