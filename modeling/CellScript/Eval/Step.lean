import CellScript.Eval.Call
import CellScript.Library.Operator
import CellScript.Machine.HostCall

/-!
# Steps

## Main definitions

* `Eval.variableCell`, `Eval.interpolate` — names and text with names in it.
* `Eval.operate`, `Eval.assign`, `Eval.assignMulti`, `Eval.index` — operators, assignment and
  elements.
* `Eval.iterCreate`, `Eval.iterNext` — `foreach` loops.
* `Eval.check` — conditions.
* `Eval.branch`, `Eval.loop`, `Eval.tryBlock` — control flow.
* `Eval.step` — one step.
-/

namespace CellScript.Eval

/-- Evaluate a block of an expression into a frame of its own; the result is the operands that it
leaves. -/
def intoFrame (self : Reentry) (block : Block) : Run (List CellRef) := do
  Run.createFrame
  let depth ← Run.askContext (·.frameDepth)
  let result ← Run.attempt (self.block block none)
  Run.changeContext (·.truncateFrames depth)
  let operands ← Run.killFrame
  match result with
  | .error f => Run.fail f
  | .ok .normal => return operands
  | .ok (.throw value) => Run.fail (.thrown value)
  | .ok flow => Run.fail (.runtime (.flowInExpression flow.name))

/-! ## Values and variables -/

def literalContent : Literal → Content
  | .null => .null
  | .int n => .int n
  | .float bits => .float (Float.ofBits bits)
  | .str s => .text s

/-- Warn about a variable that was not declared, when the script is strict. -/
def warnUndeclared (name : String) : Run Unit := do
  if (← Run.askContext (·.flags)).strict then
    Run.warn s!"variable '{name}' not declared"

/-- The cell of a name in the current scope. -/
def lookup? (name : String) : Run (Option CellRef) :=
  Run.ask fun m => m.context.scope.lookup? m.heap name

/-- The text of fragments and the cells of the variables among them. -/
def interpolated : List Fragment → Run (String × List CellRef)
  | [] => return ("", [])
  | .text s :: rest => do
    let (text, cells) ← interpolated rest
    return (s ++ text, cells)
  | .var name :: rest => do
    match ← lookup? name with
    | none =>
      warnUndeclared name
      interpolated rest
    | some cell =>
      let s ← Run.askHeap (·.text cell)
      let (text, cells) ← interpolated rest
      return (s ++ text, cell :: cells)

def interpolate (fragments : List Fragment) : Run Unit := do
  let (text, cells) ← interpolated fragments
  Run.push (← Run.propagate cells (← HeapM.text text) "interpolation")

/-- The function of a name as a value. -/
def functionValue (name : String) : Run CellRef := do
  let script ← Run.askContext (·.script)
  let environment := (← Run.script).environment
  let named : Run CellRef := do HeapM.cell (.function (← HeapM.newFunction (.named name script)))
  match environment.functions.get? name with
  | some f =>
    match f.closure? with
    | some closure => HeapM.cell (.function closure)
    | none => named
  | none =>
    if environment.inlines.contains name then named
    else
      Run.warn s!"function {name} is not defined"
      HeapM.null

/-- The cell of a name. A name that is declared nowhere becomes a global one, of the kind that its
first character calls for. -/
def variableCell (name : String) : Run CellRef := do
  if name = "$null" then HeapM.null
  else
    match ← lookup? name with
    | some cell => return cell
    | none =>
      if name.startsWith "&" then functionValue name
      else
        warnUndeclared name
        let cell ← Library.freshCell name
        let scope ← Run.askContext (·.scope)
        Run.changeHeap (·.putVariable scope.global name cell)
        return cell

/-! ## Operators, assignment and elements -/

/-- The result of an operator, tainted if an operand is. -/
def applyOperator (op : String) (args : List CellRef) : Run CellRef := do
  match Operator.ofSymbol? op with
  | none => Run.fail (.runtime (.unknownOperator op))
  | some operator => Run.propagate args (← operator.apply op args) op

def operate (op : String) : Run Unit := do
  let args ← Run.killFrame
  Run.push (← applyOperator op args)

/-- The cell that a target stands for. -/
def targetCell (self : Reentry) (target : Block) : Run CellRef := do
  match (← intoFrame self target).getLast? with
  | some cell => return cell
  | none => Run.fail (.runtime .targetWithoutValue)

/-- Assign a value, or its combination with the old value. -/
def store (cell value : CellRef) : Option String → Run Unit
  | none => HeapM.assign cell value
  | some op => do HeapM.assign cell (← applyOperator op [cell, value])

def assign (self : Reentry) (target : Block) (op : Option String) : Run Unit := do
  let value ← Run.pop
  let _ ← Run.killFrame
  let cell ← targetCell self target
  store cell value op
  Run.push cell

/-- Store values into targets in order. -/
def storeAll (self : Reentry) (op : Option String) : List Block → List (Run CellRef) → Run Unit
  | [], _ => return ()
  | target :: targets, values => do
    let value ← values.headD HeapM.null
    let cell ← targetCell self target
    store cell value op
    storeAll self op targets values.tail

/-- Assign to several targets: the elements of a container, or the same value to all. -/
def assignMulti (self : Reentry) (targets : List Block) (op : Option String) : Run Unit := do
  let source ← Run.pop
  let _ ← Run.killFrame
  let values : List CellRef ← match ← Run.askHeap (·.content source) with
    | .sequence s => Library.snapshot s
    | .table t => Run.askHeap fun h => (h.entries t).map (·.2)
    | _ => pure (targets.map fun _ => source)
  storeAll self op targets (values.map pure)
  Run.push source

def index (self : Reentry) : Run Unit := do
  let args ← Run.killFrame
  let back := args.reverse
  let position ← Library.argument back 0
  let container ← Library.argument back 1
  Run.push (← elementAt self container position)

/-! ## Calls and definitions -/

/-- Call a function by name; unless it settles taint itself, a tainted argument taints the
result. -/
def call (self : Reentry) (name : String) : Run Unit := do
  let args ← Run.killFrame
  let result ← callFunction self name args
  let policy := match (← Run.script).environment.functions.get? name with
    | some f => f.taintPolicy
    | none => .permeable
  Run.push (← if policy = .permeable then Run.propagate args result name else pure result)

/-- A new closure of the current script. -/
def newClosure (body : Block) (name : Option String) (site : Nat) : Run FunctionRef := do
  let c ← Run.askContext id
  let this ← HeapM.newVars
  HeapM.newFunction (.closure ⟨c.script, body, this, c.currentSource, name, site, none⟩)

/-- Whether a function stands for the definition at a site of a script. -/
def isBoundTo (h : Heap) (script : ScriptRef) (site : Nat) (f : Function) : Bool :=
  (f.closure?.bind h.closure?).any fun c => c.owner == script && c.site == site

/-- Define a function or an inline block. A definition that is in force already is left alone. -/
def bind (name : String) (body : Block) (isInline : Bool) (site : Nat) : Run Unit := do
  if isInline then
    Run.changeOwnScript fun s =>
      { s with
        environment := { s.environment with inlines := s.environment.inlines.insert name body } }
  else
    let script ← Run.askContext (·.script)
    let current := (← Run.script).environment.functions.get? name
    if !(← Run.askHeap fun h => current.any (isBoundTo h script site)) then
      let closure ← newClosure body (some name) site
      Run.changeOwnScript fun s =>
        { s with
          environment :=
            { s.environment with
              functions := s.environment.functions.insert name (.bound closure) } }

/-! ## Iterators -/

/-- Begin a `foreach` loop over a value. -/
def iterCreate (key : Option String) (value : String) : Run Unit := do
  let source ← Run.pop
  let _ ← Run.killFrame
  let iterSource ← match ← Run.askHeap (·.content source) with
    | .sequence s => pure (IterSource.sequence s)
    | .table t => pure (.table t (← Run.askHeap fun h => (h.entries t).map (·.1)))
    | .function _ => pure (.generator source)
    | .null => pure .empty
    | other => Run.fail (.badCast (.notIterable other.typeName))
  Run.changeContext fun c => { c with iterators := ⟨key, value, iterSource, 0⟩ :: c.iterators }

/-- The first key from a position on that still has a value, and how far it is. -/
def nextKey (h : Heap) (t : TableRef) : List String → Nat → Option (String × CellRef × Nat)
  | [], _ => none
  | key :: rest, skipped =>
    match (h.table t).peek key with
    | some cell =>
      if h.isNull cell then nextKey h t rest (skipped + 1) else some (key, cell, skipped + 1)
    | none => nextKey h t rest (skipped + 1)

/-- The next key and value of an iterator, and how far it moves. -/
def nextItem (self : Reentry) (s : IterState) : Run (Option (CellRef × CellRef × Nat)) := do
  match s.source with
  | .sequence q =>
    match ← HeapM.consult (·.sequences.find? q s.position) with
    | none => return none
    | some cell => return some (← HeapM.int (Int64.ofNat s.position), cell, 1)
  | .table t keys =>
    match ← Run.askHeap fun h => nextKey h t (keys.drop s.position) 0 with
    | none => return none
    | some (key, cell, advance) => return some (← HeapM.text key, cell, advance)
  | .generator f =>
    let value ← callValue self f none []
    if ← Run.askHeap (·.isNull value) then return none
    else return some (← HeapM.int (Int64.ofNat s.position), value, 1)
  | .empty => return none

/-- Let a name stand for a cell. -/
def bindName (name : String) (cell : CellRef) : Run Unit := do
  let scope ← Run.askContext (·.scope)
  Run.changeHeap fun h => scope.bind h name cell

/-- Advance the innermost iterator and bind its variables; false when it is exhausted. -/
def iterNext (self : Reentry) : Run Bool := do
  match (← Run.askContext (·.iterators)).head? with
  | none => Run.fail (.runtime .noIterator)
  | some state =>
    match ← nextItem self state with
    | none => return false
    | some (key, value, advance) =>
      match ← Run.askContext (·.iterators) with
      | [] => return false
      | top :: rest =>
        Run.changeContext
          ({ · with iterators := { top with position := top.position + advance } :: rest })
        if let some name := top.key then bindName name key
        bindName top.value value
        return true

/-! ## Conditions -/

/-- A predicate on its operands, for traces. -/
def describePredicate (h : Heap) (name : String) (negated : Bool) (args : List CellRef) : String :=
  let shown := (if negated then "!" else "") ++ name
  match args with
  | [lhs, rhs] => h.describe lhs ++ " " ++ shown ++ " " ++ h.describe rhs
  | [operand] => shown ++ " " ++ h.describe operand
  | _ => shown ++ "(" ++ ", ".intercalate (args.map h.describe) ++ ")"

/-- The verdict of a predicate. -/
def checkPredicate (self : Reentry) (setup : Block) (name : String) (negated : Bool) :
    Run Bool := do
  let args ← intoFrame self setup
  match Predicate.ofName? name with
  | none => Run.fail (.runtime (.unknownPredicate name))
  | some predicate =>
    let described ← if (← Run.askContext (·.flags)).traceLogic then
        Run.askHeap fun h => some (describePredicate h name negated args)
      else pure none
    let verdict := (← predicate.decide name args) != negated
    if let some described := described then
      Run.traceLogic (described ++ " -> " ++ if verdict then "true" else "false")
    return verdict

mutual

/-- Whether a condition holds. Parts after one that settles the matter are not looked at. -/
def check (self : Reentry) : Check → Run Bool
  | .always => return true
  | .iterNext => iterNext self
  | .and parts => checkAll self parts
  | .or parts => checkAny self parts
  | .predicate setup name negated => checkPredicate self setup name negated

/-- Whether all of several conditions hold. -/
def checkAll (self : Reentry) : List Check → Run Bool
  | [] => return true
  | part :: rest => do
    if ← check self part then checkAll self rest else return false

/-- Whether one of several conditions holds. -/
def checkAny (self : Reentry) : List Check → Run Bool
  | [] => return false
  | part :: rest => do
    if ← check self part then return true else checkAny self rest

end

/-! ## Control flow -/

/-- The branch that a position goes into, and the position inside of it. -/
def splitBranch : Option Cursor → Option (Nat × Option Cursor)
  | none => none
  | some [] => some (0, none)
  | some [branch] => some (branch, none)
  | some (branch :: rest) => some (branch, some rest)

def branch (self : Reentry) (condition : Check) (onTrue : Block) (onFalse : Option Block)
    (resume : Option Cursor) : Run Flow := do
  let (taken, inner) ← match splitBranch resume with
    | some (branch, inner) => pure (branch == 0, inner)
    | none => pure (← check self condition, none)
  if taken then return (← self.block onTrue inner).through 0
  else
    match onFalse with
    | some onFalse => return (← self.block onFalse inner).through 1
    | none => return .normal

/-- Where a round of a loop starts. -/
inductive Round where
  /-- at the condition -/
  | start
  /-- inside of the body -/
  | body (inner : Option Cursor)
  /-- inside of the increment -/
  | increment (inner : Option Cursor)

def Round.ofCursor (resume : Option Cursor) : Round :=
  match splitBranch resume with
  | none => .start
  | some (1, inner) => .increment inner
  | some (_, inner) => .body inner

/-- The increment of a loop. -/
def loopIncrement (self : Reentry) (increment : Option Block) (inner : Option Cursor) :
    Run (Round ⊕ Flow) := do
  match increment with
  | none => return .inl .start
  | some increment =>
    match ← self.block increment inner with
    | .normal => return .inl .start
    | flow => return .inr (flow.through 1)

/-- The body of a loop and, unless it leaves the loop, the increment. -/
def loopBody (self : Reentry) (body : Block) (increment : Option Block) (inner : Option Cursor) :
    Run (Round ⊕ Flow) := do
  Run.changeContext (·.clearFrame)
  match ← self.block body inner with
  | .normal | .continue => loopIncrement self increment none
  | .break => return .inr .normal
  | flow => return .inr (flow.through 0)

/-- One round of a loop: the next round, or the flow that the loop ends with. -/
def loopRound (self : Reentry) (condition : Check) (body : Block) (increment : Option Block) :
    Round → Run (Round ⊕ Flow)
  | .start => do
    if ← check self condition then loopBody self body increment none else return .inr .normal
  | .body inner => loopBody self body increment inner
  | .increment inner => do
    Run.changeContext (·.clearFrame)
    loopIncrement self increment inner

/-- Rounds from the start of a loop or from where it was suspended, at most `n`. -/
def rounds (n : Nat) (round : Round → Run (Round ⊕ Flow)) (resume : Option Cursor) : Run Flow := do
  let flow ← Run.iterate round n (.ofCursor resume)
  if flow.isNormal then Run.changeContext (·.clearFrame)
  return flow

def loop (self : Reentry) (condition : Check) (body : Block) (increment : Option Block)
    (resume : Option Cursor) : Run Flow :=
  rounds self.rounds (loopRound self condition body increment) resume

/-- Run a handler over its catch scope. A handler that suspends leaves the scope in place. -/
def runHandler (self : Reentry) (handler : Block) (resume : Option Cursor) : Run Flow := do
  let result ← Run.attempt (self.block handler resume)
  let suspends := match result with
    | .ok flow => flow.suspends
    | .error _ => false
  if !suspends then
    Run.changeContext fun c => { c with scope := c.scope.popLocal }
  return (← Run.settle result).through 1

/-- Run a handler with a thrown value in a catch scope. -/
def catchThrow (self : Reentry) (handler : Block) (var : String) (value : CellRef) : Run Flow := do
  Run.changeContext (·.settleTrace)
  let vars ← HeapM.newVars
  Run.changeHeap (·.putVariable vars var value)
  Run.changeContext fun c => { c with scope := c.scope.pushLocal vars }
  runHandler self handler none

/-- Trace a throw that a handler catches. -/
def traceCaught (slot : Nat) (var : String) : Except Fault Flow → Run Unit
  | .ok (.throw value) => do
    if slot < (← Run.askContext (·.handlers.length)) then
      let text ← Run.askHeap (·.describe value)
      Run.traceLogic s!"caught {text} into {var}"
  | _ => return ()

/-- Run a body and, if it throws, the handler. -/
def tryBody (self : Reentry) (body handler : Block) (var : String) (inner : Option Cursor) :
    Run Flow := do
  let slot ← Run.askContext (·.handlers.length)
  Run.changeContext fun c => { c with handlers := var :: c.handlers }
  let result ← Run.attempt (self.block body inner)
  traceCaught slot var result
  Run.changeContext fun c => { c with handlers := truncateStack c.handlers slot }
  match ← Run.settle result with
  | .throw value => catchThrow self handler var value
  | flow => return flow.through 0

/-- A body with a handler, from the start or from where one of them was suspended. -/
def tryBlock (self : Reentry) (body handler : Block) (var : String) (resume : Option Cursor) :
    Run Flow :=
  match splitBranch resume with
  | some (1, inner) => runHandler self handler inner
  | resumed => tryBody self body handler var (resumed.bind (·.2))

/-- The flow of a kind with a value. -/
def flowWith (value : CellRef) : FlowKind → Flow
  | .return => .return value
  | .break => .break
  | .continue => .continue
  | .throw => .throw value
  | .yield => .yield value []
  | .callcc => .callcc value []

/-- The flow of a flow step. -/
def flowOf (kind : FlowKind) : Bool → Run Flow
  | true => do
    let value ← Run.pop
    let _ ← Run.killFrame
    return flowWith value kind
  | false => return flowWith (← HeapM.null) kind

/-! ## Host objects -/

def objectNew (self : Reentry) (className : String) : Run Unit := do
  let args ← Run.killFrame
  Run.push (← Run.propagate args (← Host.construct self className args) className)

/-- Send a message to a receiver. -/
def send (self : Reentry) (receiver : CellRef) (member : Option String) (args : List CellRef) :
    Run CellRef := do
  match ← Run.askHeap (·.content receiver) with
  | .function _ => callValue self receiver member args
  | .null => Run.fail (.nullDereference (.send member))
  | content =>
    match member with
    | some member => Host.invokeMember self receiver member args
    | none => Run.fail (.badCast (.notFunction content.typeName))

def objectAccess (self : Reentry) (member : Option String) (className : Option String) :
    Run Unit := do
  let args ← Run.killFrame
  let result ← match className, args with
    | some className, _ => Host.invokeStatic self className (member.getD "") args
    | none, [] => Run.fail (.runtime .noReceiver)
    | none, receiver :: rest => send self receiver member rest
  Run.push (← Run.propagate args result (member.getD "call"))

/-! ## Steps -/

/-- Go on after a step that has no flow of its own. -/
def thenNormal (x : Run Unit) : Run Flow := do
  x
  return .normal

/-- One step, from its start or from where it was suspended. -/
def step (self : Reentry) (resume : Option Cursor) : Instruction → Run Flow
  | .createFrame => thenNormal Run.createFrame
  | .literal value => thenNormal do Run.push (← HeapM.cell (literalContent value))
  | .interpolate fragments => thenNormal (interpolate fragments)
  | .get name => thenNormal do Run.push (← variableCell name)
  | .operate op => thenNormal (operate op)
  | .assign target op => thenNormal (assign self target op)
  | .assignMulti targets op => thenNormal (assignMulti self targets op)
  | .index => thenNormal (index self)
  | .call function => thenNormal (call self function)
  | .closure body => thenNormal do Run.push (← HeapM.cell (.function (← newClosure body none 0)))
  | .bind name body isInline site => thenNormal (bind name body isInline site)
  | .decide condition onTrue onFalse => branch self condition onTrue onFalse resume
  | .loop condition body increment => loop self condition body increment resume
  | .iterCreate key value => thenNormal (iterCreate key value)
  | .iterDestroy => thenNormal (Run.changeContext fun c => { c with iterators := c.iterators.tail })
  | .objectNew className => thenNormal (objectNew self className)
  | .objectAccess member className => thenNormal (objectAccess self member className)
  | .try body handler var => tryBlock self body handler var resume
  | .flow kind value => flowOf kind value

end CellScript.Eval
