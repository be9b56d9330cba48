import CellScript.Eval.Block
import CellScript.Proofs.Eval.Plain
import CellScript.Proofs.Eval.Raised

/-!
# Evaluators that stop at throws

To say what becomes of a throw on its way to a handler, it has to be said where it has come up. The
exposed evaluator is the evaluator, except that it stops there, before any call has been left: at
the step or the function that throws, or that fails with a fault that scripts can catch. On its way
it keeps account of the calls that it is in. Throws that are caught are not exposed, so the bodies
of `try` are left to the evaluator, and so is host code, which has faults of its own: what comes out
of it is exposed there.

## Main definitions

* `CallPath` — the calls that an evaluator is in.
* `Run.expose` — stop at a fault that can be caught.
* `Eval.dispatchAt` — a call, with what is thrown inside of it exposed.
* `Eval.exposed` — the evaluator that stops at throws.

## Main statements

* `Eval.exposed_none` — where nothing is exposed it is the evaluator.
-/

namespace CellScript

/-- Where an evaluator is, as seen from where it has begun. -/
structure CallPath where
  /-- the calls that it is in, of those made in the context in which it has begun, the innermost
  first -/
  calls : List StackFrame
  /-- whether it is in another context than it has begun in -/
  away : Bool

namespace CallPath

/-- Where an evaluator begins. -/
def start : CallPath := ⟨[], false⟩

/-- Inside of a call. -/
def enter (p : CallPath) (frame : StackFrame) : CallPath :=
  if p.away then p else { p with calls := frame :: p.calls }

theorem away_enter (p : CallPath) (frame : StackFrame) : (p.enter frame).away = p.away := by
  unfold enter
  split <;> rfl

/-- In another context. -/
def leave (p : CallPath) : CallPath :=
  { p with away := true }

/-- What is to be recorded of a throw that has come up there: the call of host code that it has come
out of, which is in the trace already, and the calls that it will end. -/
def frames (p : CallPath) (m : Machine) : List StackFrame :=
  (if p.away then [] else m.context.trace.reverse) ++ p.calls

end CallPath

/-- What is made of a machine in which a fault has come up, on the path there. -/
abbrev Mark := Fault → CallPath → Machine → Machine

/-- Stop at a fault that can be caught, and mark the machine. -/
def Run.expose {α : Type} (mark? : Option Mark) (p : CallPath) (x : Run α) : Run α :=
  match mark? with
  | none => x
  | some mark => fun m =>
    match x m with
    | (.error (.fault f), m') =>
      if f.isFatal then (.error (.fault f), m') else (.error .exhausted, mark f p m')
    | ended => ended

namespace Eval

/-! ## Parts of control flow -/

/-- A branch, for a verdict that is computed in some way. -/
def branchOn (self : Reentry) (verdict : Run Bool) (onTrue : Block) (onFalse : Option Block)
    (resume : Option Cursor) : Run Flow := do
  let (taken, inner) ← match splitBranch resume with
    | some (branch, inner) => pure (branch == 0, inner)
    | none => pure (← verdict, none)
  if taken then return (← self.block onTrue inner).through 0
  else
    match onFalse with
    | some onFalse => return (← self.block onFalse inner).through 1
    | none => return .normal

/-- One round of a loop, for a verdict that is computed in some way. -/
def loopRoundOn (self : Reentry) (verdict : Run Bool) (body : Block) (increment : Option Block) :
    Round → Run (Round ⊕ Flow)
  | .start => do
    if ← verdict then loopBody self body increment none else return .inr .normal
  | .body inner => loopBody self body increment inner
  | .increment inner => do
    Run.changeContext (·.clearFrame)
    loopIncrement self increment inner

/-- A body that one evaluator runs, with a handler that another one runs. -/
def tryBodyOn (inside self : Reentry) (body handler : Block) (var : String)
    (inner : Option Cursor) : Run Flow := do
  let slot ← Run.askContext (·.handlers.length)
  Run.changeContext fun c => { c with handlers := var :: c.handlers }
  bodyEnd self handler var slot (← Run.attempt (inside.block body inner))

def tryBlockOn (inside self : Reentry) (body handler : Block) (var : String)
    (resume : Option Cursor) : Run Flow :=
  match splitBranch resume with
  | some (1, inner) => runHandler self handler inner
  | resumed => tryBodyOn inside self body handler var (resumed.bind (·.2))

/-! ## Calls -/

section At

variable (mark? : Option Mark) (self : CallPath → Reentry) (p : CallPath)

/-- A call, with what is thrown inside of it exposed. -/
def dispatchAt (name : String) (args : List CellRef) (execute : CallPath → Run CellRef) :
    Run CellRef := do
  let c ← Run.askContext id
  let inside := p.enter ⟨name, c.currentSource, c.line⟩
  dispatch name args ((execute inside).expose mark? inside)

def callDetachedAt (f : FunctionRef) (c : Closure) (message : Option String) (args : List CellRef) :
    Run CellRef := do
  if !(← isLoaded c.owner) then Run.fail (.runtime (.ownerUnloaded "closure"))
  within (← newContext c.owner)
    (dispatchAt mark? p.leave c.describe args fun inside => runClosure (self inside) f
      c message args)

def evaluateAt (name : String) (args : List CellRef) : Function → Run CellRef
  | .library f => Library.call (self p) args f
  | .probe f => Library.probe args f
  | .bound f => do
    match ← Run.askHeap (·.closure? f) with
    | none => HeapM.null
    | some c =>
      if (← ownClosure? f).isSome then runClosure (self p) f c none args
      else callDetachedAt mark? self p f c none args
  | .guarded .permeable inner => evaluateAt name args inner
  | .guarded .sensitive inner => do
    Run.refuseTainted name args
    evaluateAt name args inner
  | .guarded .tainter inner => do Run.taintResult name (← evaluateAt name args inner)
  | .guarded .sanitizer inner => do Run.cleanResult (← evaluateAt name args inner)

def callFunctionAt (name : String) (args : List CellRef) : Run CellRef := do
  let environment := (← Run.script).environment
  match environment.functions.get? name with
  | some f => dispatchAt mark? p name args fun inside => evaluateAt mark? self inside name args f
  | none =>
    match environment.inlines.get? name with
    | some block =>
      dispatchAt mark? p name args fun inside => runInline (self inside) name block args
    | none => Run.softFault s!"Attempted to call non-existent function {name}"

def invokeAt (f : FunctionRef) (message : Option String) (args : List CellRef) : Run CellRef := do
  match ← Run.askHeap (·.callable f) with
  | .closure c => callDetachedAt mark? self p f c message args
  | .named name owner =>
    if !(← isLoaded owner) then Run.fail (.runtime (.ownerUnloaded "function"))
    within (← newContext owner) (callFunctionAt mark? self p.leave name args)
  | .host _ does => reply message args does

def callValueAt (target : CellRef) (message : Option String) (args : List CellRef) :
    Run CellRef := do
  match ← Run.askHeap (·.content target) with
  | .function f =>
    let script ← Run.askContext (·.script)
    match ← Run.askHeap (·.callable f) with
    | .closure c =>
      if c.owner = script then
        dispatchAt mark? p c.describe args fun inside => runClosure (self inside) f c message args
      else callDetachedAt mark? self p f c message args
    | .named name owner =>
      if owner = script then callFunctionAt mark? self p name args
        else invokeAt mark? self p f message args
    | .host _ does => reply message args does
  | .text name =>
    if name.startsWith "&" then callFunctionAt mark? self p name args
    else Run.fail (.badCast (.notCallable "string"))
  | .null => Run.fail (.nullDereference .call)
  | other => Run.fail (.badCast (.notCallable other.typeName))

/-! ## Steps -/

def callAt (name : String) : Run Unit := do
  let args ← Run.killFrame
  let result ← callFunctionAt mark? self p name args
  let policy := match (← Run.script).environment.functions.get? name with
    | some f => f.taintPolicy
    | none => .permeable
  Run.push (← if policy = .permeable then Run.propagate args result name else pure result)

def nextItemAt (s : IterState) : Run (Option (CellRef × CellRef × Nat)) := do
  match s.source with
  | .generator f =>
    let value ← callValueAt mark? self p f none []
    if ← Run.askHeap (·.isNull value) then return none
    else return some (← HeapM.int (Int64.ofNat s.position), value, 1)
  | _ => nextItem (self p) s

def iterNextAt : Run Bool := do
  match (← Run.askContext (·.iterators)).head? with
  | none => Run.fail (.runtime .noIterator)
  | some state =>
    match ← nextItemAt mark? self p state with
    | none => return false
    | some (key, value, advance) =>
      match ← Run.askContext (·.iterators) with
      | [] => return false
      | top :: rest =>
        Run.changeContext
          ({ · with iterators := { top with position := top.position + advance } :: rest })
        if let some name := top.key then bindName name key
        bindName top.value value
        return true

mutual

def checkAt : Check → Run Bool
  | .always => return true
  | .iterNext => iterNextAt mark? self p
  | .and parts => checkAllAt parts
  | .or parts => checkAnyAt parts
  | .predicate setup name negated => checkPredicate (self p) setup name negated

def checkAllAt : List Check → Run Bool
  | [] => return true
  | part :: rest => do
    if ← checkAt part then checkAllAt rest else return false

def checkAnyAt : List Check → Run Bool
  | [] => return false
  | part :: rest => do
    if ← checkAt part then return true else checkAnyAt rest

end

variable (host : Reentry)

def objectNewAt (className : String) : Run Unit := do
  let args ← Run.killFrame
  let result ← (Host.construct host className args).expose mark? p
  Run.push (← Run.propagate args result className)

def sendAt (receiver : CellRef) (member : Option String) (args : List CellRef) : Run CellRef := do
  match ← Run.askHeap (·.content receiver) with
  | .function _ => callValueAt mark? self p receiver member args
  | .null => Run.fail (.nullDereference (.send member))
  | content =>
    match member with
    | some member => (Host.invokeMember host receiver member args).expose mark? p
    | none => Run.fail (.badCast (.notFunction content.typeName))

def objectAccessAt (member : Option String) (className : Option String) : Run Unit := do
  let args ← Run.killFrame
  let result ← match className, args with
    | some className, _ => (Host.invokeStatic host className (member.getD "") args).expose mark? p
    | none, [] => Run.fail (.runtime .noReceiver)
    | none, receiver :: rest => sendAt mark? self p host receiver member rest
  Run.push (← Run.propagate args result (member.getD "call"))

/-- One step. Bodies of `try` and host code are left to another evaluator. -/
def stepAt (resume : Option Cursor) : Instruction → Run Flow
  | .call function => thenNormal (callAt mark? self p function)
  | .decide condition onTrue onFalse =>
    branchOn (self p) (checkAt mark? self p condition) onTrue onFalse resume
  | .loop condition body increment =>
    rounds (self p).rounds (loopRoundOn (self p) (checkAt mark? self p condition) body increment)
      resume
  | .objectNew className => thenNormal (objectNewAt mark? p host className)
  | .objectAccess member className => thenNormal (objectAccessAt mark? self p host member className)
  | .try body handler var => tryBlockOn host (self p) body handler var resume
  | i => step (self p) resume i

end At

/-- The evaluator that stops where something is thrown that is not caught, and tells the path
there. -/
def exposed (mark? : Option Mark) : Nat → CallPath → Reentry
  | 0, _ => reentry 0
  | n + 1, p =>
    let self := exposed mark? n
    { rounds := n
      block :=
        blockBy fun resume i => (raise (stepAt mark? self p (reentry n) resume i)).expose mark? p
      call := callValueAt mark? self p
      invoke := invokeAt mark? self p }

/-! ## Where nothing is exposed -/

section Unexposed

variable {s : Reentry} {p : CallPath}

theorem expose_none {α : Type} (x : Run α) : x.expose none p = x := rfl

theorem dispatchAt_none (name : String) (args : List CellRef) (x : Run CellRef) :
    dispatchAt none p name args (fun _ => x) = dispatch name args x := rfl

theorem callDetachedAt_none (f : FunctionRef) (c : Closure) (message : Option String)
    (args : List CellRef) :
    callDetachedAt none (fun _ => s) p f c message args = callDetached s f c message args := rfl

theorem evaluateAt_none (name : String) (args : List CellRef) (f : Function) :
    evaluateAt none (fun _ => s) p name args f = evaluate s name args f := by
  induction f with
  | library | probe | bound => rfl
  | guarded policy inner ih => cases policy <;> unfold evaluateAt evaluate <;> rw [ih]

theorem callFunctionAt_none (name : String) (args : List CellRef) :
    callFunctionAt none (fun _ => s) p name args = callFunction s name args := by
  have same (f : Function) : (fun inside => evaluateAt none (fun _ => s) inside name args f) =
      fun _ => evaluate s name args f := funext fun _ => evaluateAt_none name args f
  unfold callFunctionAt callFunction
  refine bind_congr fun script => ?_
  dsimp only
  cases script.environment.functions.get? name with
  | some f =>
    dsimp only
    rw [same]
    rfl
  | none => cases script.environment.inlines.get? name <;> rfl

theorem invokeAt_none (f : FunctionRef) (message : Option String) (args : List CellRef) :
    invokeAt none (fun _ => s) p f message args = invoke s f message args := by
  unfold invokeAt invoke
  refine bind_congr fun callable => ?_
  cases callable with
  | named name owner =>
    dsimp only
    rw [callFunctionAt_none]
  | closure | host => rfl

theorem callValueAt_none (target : CellRef) (message : Option String) (args : List CellRef) :
    callValueAt none (fun _ => s) p target message args = callValue s target message args := by
  unfold callValueAt callValue
  refine bind_congr fun content => ?_
  cases content with
  | function f =>
    refine bind_congr fun script => bind_congr fun callable => ?_
    cases callable with
    | named name owner =>
      exact ite_congr rfl (fun _ => callFunctionAt_none name args) fun _ =>
        invokeAt_none f message args
    | closure | host => rfl
  | text name => exact ite_congr rfl (fun _ => callFunctionAt_none name args) fun _ => rfl
  | _ => rfl

theorem nextItemAt_none (state : IterState) :
    nextItemAt none (fun _ => s) p state = nextItem s state := by
  unfold nextItemAt
  cases h : state.source <;> simp only [callValueAt_none, nextItem, h]

theorem iterNextAt_none : iterNextAt none (fun _ => s) p = iterNext s := by
  unfold iterNextAt iterNext
  refine bind_congr fun iterators => ?_
  cases iterators.head? with
  | some state =>
    dsimp only
    exact nextItemAt_none (s := s) (p := p) state ▸ rfl
  | none => rfl

mutual

theorem checkAt_none : ∀ c : Check, checkAt none (fun _ => s) p c = check s c
  | .always | .predicate _ _ _ => rfl
  | .iterNext => iterNextAt_none
  | .and parts => checkAllAt_none parts
  | .or parts => checkAnyAt_none parts

theorem checkAllAt_none :
    ∀ parts : List Check, checkAllAt none (fun _ => s) p parts = checkAll s parts
  | [] => rfl
  | part :: rest => by
    unfold checkAllAt checkAll
    rw [checkAt_none part, checkAllAt_none rest]

theorem checkAnyAt_none :
    ∀ parts : List Check, checkAnyAt none (fun _ => s) p parts = checkAny s parts
  | [] => rfl
  | part :: rest => by
    unfold checkAnyAt checkAny
    rw [checkAt_none part, checkAnyAt_none rest]

end

theorem step_try (body handler : Block) (var : String) (resume : Option Cursor) :
    step s resume (.try body handler var) = tryBlockOn s s body handler var resume := by
  have same (inner : Option Cursor) :
      tryBodyOn s s body handler var inner = tryBody s body handler var inner :=
    (funext (tryBody_eq s inner)).symm
  unfold tryBlockOn
  simp only [same]
  rfl

theorem stepAt_none (resume : Option Cursor) (i : Instruction) :
    stepAt none (fun _ => s) p s resume i = step s resume i := by
  cases i with
  | call name =>
    refine congrArg thenNormal (bind_congr fun args => ?_)
    exact callFunctionAt_none (s := s) (p := p) name args ▸ rfl
  | decide condition onTrue onFalse =>
    dsimp only [stepAt, step]
    rw [checkAt_none]
    rfl
  | loop condition body increment =>
    have turns :
        loopRoundOn s (check s condition) body increment = loopRound s condition body increment :=
      funext fun round => by cases round <;> rfl
    dsimp only [stepAt, step, loop]
    rw [checkAt_none, turns]
  | objectAccess member className =>
    dsimp only [stepAt, step, objectAccessAt, objectAccess, sendAt, send]
    simp only [callValueAt_none]
    rfl
  | «try» body handler var => exact (step_try body handler var resume).symm
  | _ => rfl

/-- A block raises throws again that its steps have raised. -/
theorem blockBy_raise (perform : Option Cursor → Instruction → Run Flow) :
    blockBy (fun resume i => raise (perform resume i)) = blockBy perform := by
  have stepped (index : Nat) (resume : Option Cursor) (list : List Step) :
      steps (fun resume i => raise (perform resume i)) index resume list = steps perform
        index resume list := by
    induction list generalizing index resume with
    | nil => rfl
    | cons step rest ih =>
      cases step with
      | mk line i =>
        unfold steps
        refine bind_congr fun _ => ?_
        simp only [ih]
        exact (attempt_raise fun value => rfl).symm
  unfold blockBy
  simp only [stepped]

/-- Where nothing is exposed the exposed evaluator is the evaluator. -/
theorem exposed_none (n : Nat) (p : CallPath) : exposed none n p = reentry n := by
  induction n generalizing p with
  | zero => rfl
  | succ n ih =>
    have self : exposed none n = fun _ => reentry n := funext ih
    have calls : callValueAt none (fun _ => reentry n) p = callValue (reentry n) := by
      funext target message args
      exact callValueAt_none target message args
    have invocations : invokeAt none (fun _ => reentry n) p = invoke (reentry n) := by
      funext f message args
      exact invokeAt_none f message args
    rw [exposed, self]
    simp only [stepAt_none, expose_none, blockBy_raise, calls, invocations]
    rfl

end Unexposed

end Eval

end CellScript
