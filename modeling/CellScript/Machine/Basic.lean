import CellScript.Diagnostics
import CellScript.Host.Marshal
import CellScript.Io.Console
import CellScript.Io.System
import CellScript.Library.Name
import CellScript.Scope

/-!
# The machine

The state of an engine: its heap, its scripts with their function tables, the host classes, the
console, the system outside, the watchers' logs and the run in progress. A run has a context of its
own; a function of another script, or one called by the host, runs in a context that is dropped
afterwards.

## Main definitions

* `Function`, `Environment` — what names of functions stand for.
* `Script` — a loaded script.
* `Flow` — how a step or a block ends.
* `Context` — the state of a run: operand frames, handlers, sources, iterators and scopes.
* `Machine`, `Run` — the whole state and computations on it.
-/

namespace CellScript

/-- What the name of a function stands for. -/
inductive Function where
  | library (f : LibraryFunction)
  | probe (f : Probe)
  /-- a closure that a definition bound to the name -/
  | bound (closure : FunctionRef)
  /-- a function that taint concerns -/
  | guarded (policy : TaintPolicy) (inner : Function)
  deriving Inhabited, Repr

namespace Function

/-- What the function does to taint. -/
def taintPolicy : Function → TaintPolicy
  | .guarded policy _ => policy
  | _ => .permeable

/-- The closure behind a function. -/
def closure? : Function → Option FunctionRef
  | .bound closure => some closure
  | .guarded _ inner => inner.closure?
  | _ => none

/-- The function, guarded when taint is watched and concerns it. -/
def wrap (f : Function) (policy : TaintPolicy) (enabled : Bool) : Function :=
  if enabled && policy != .permeable then .guarded policy f else f

end Function

/-- Functions and inline blocks by name. -/
structure Environment where
  functions : Dictionary Function
  inlines : Dictionary Block
  deriving Inhabited

namespace Environment

def empty : Environment :=
  ⟨.empty, .empty⟩

/-- The names of all functions and inline blocks, in order. -/
def functionNames (e : Environment) : List String :=
  (e.inlines.keys.foldl (fun d name => d.insert name ())
    (e.functions.keys.foldl (fun d name => d.insert name ())
    (Dictionary.empty (α := Unit)))).keys

/-- Both environments, entries of the second over those of the first. -/
def extend (e other : Environment) : Environment :=
  ⟨e.functions.extend other.functions, e.inlines.extend other.inlines⟩

end Environment

/-- How many frames were made and taken away. -/
structure FrameStats where
  created : Nat
  killed : Nat
  deriving DecidableEq, Inhabited, Repr

/-- A loaded script. -/
structure Script where
  name : String
  main : Block
  environment : Environment
  globals : VarsRef
  config : EngineConfig
  /-- the logs that its reports go to -/
  watchers : List Nat
  profiler : Profiler
  /-- the calls that the last throw passed through, the latest first -/
  lastTrace : List StackFrame
  lastStats : FrameStats
  loaded : Bool
  deriving Inhabited

/-- How a step or a block ends. -/
inductive Flow where
  | normal
  | return (value : CellRef)
  | break
  | continue
  | throw (value : CellRef)
  | yield (value : CellRef) (cursor : Cursor)
  | callcc (target : CellRef) (cursor : Cursor)
  deriving DecidableEq, Inhabited, Repr

namespace Flow

def isNormal : Flow → Bool
  | .normal => true
  | _ => false

/-- Whether the flow leaves a position to go on from. -/
def suspends : Flow → Bool
  | .yield _ _ | .callcc _ _ => true
  | _ => false

/-- The flow with an entry added to the position it leaves. -/
def through (flow : Flow) (entry : Nat) : Flow :=
  match flow with
  | .yield value cursor => .yield value (entry :: cursor)
  | .callcc target cursor => .callcc target (entry :: cursor)
  | other => other

def name : Flow → String
  | .normal => "normal"
  | .return _ => "return"
  | .break => "break"
  | .continue => "continue"
  | .throw _ => "throw"
  | .yield _ _ => "yield"
  | .callcc _ _ => "callcc"

end Flow

/-- The state of a run. All stacks have their newest entry first. The counts of frames account for
the frames that there are. -/
structure Context where
  script : ScriptRef
  /-- the operands of the frame that stays -/
  base : List CellRef
  frames : List (List CellRef)
  stats : FrameStats
  counted : frames.length + stats.killed = stats.created
  /-- the variables of the active handlers -/
  handlers : List String
  sources : List String
  iterators : List IterState
  scope : ScopeChain
  /-- the calls that the pending throw has passed through -/
  trace : List StackFrame
  /-- the calls that the last caught throw passed through -/
  lastTrace : List StackFrame
  line : UInt32
  flags : DebugFlags
  taint : Bool
  maxDepth : Nat

/-- The depths of the stacks of a context. -/
structure Marks where
  frames : Nat
  handlers : Nat
  sources : Nat
  iterators : Nat
  deriving DecidableEq, Inhabited, Repr

/-- The newest-first stack cut to its oldest `depth` entries. -/
def truncateStack {α : Type} (stack : List α) (depth : Nat) : List α :=
  stack.drop (stack.length - depth)

namespace Context

/-- A context without frames. -/
def start (script : ScriptRef) (scope : ScopeChain) (flags : DebugFlags) (taint : Bool)
    (maxDepth : Nat) : Context where
  script
  base := []
  frames := []
  stats := ⟨0, 0⟩
  counted := rfl
  handlers := []
  sources := []
  iterators := []
  scope
  trace := []
  lastTrace := []
  line := 0
  flags
  taint
  maxDepth

instance : Inhabited Context := ⟨start default default default false 0⟩

/-! ## Frames -/

def frameDepth (c : Context) : Nat :=
  c.frames.length + 1

def createFrame (c : Context) : Context :=
  { c with
    frames := [] :: c.frames
    stats := ⟨c.stats.created + 1, c.stats.killed⟩
    counted := by
      have := c.counted
      simp only [List.length_cons]
      omega }

/-- Take the current frame away; the result is its operands in order. The base frame stays and gives
none. -/
def killFrame (c : Context) : List CellRef × Context :=
  ((c.frames.headD []).reverse,
    { c with
      frames := c.frames.tail
      stats := ⟨c.stats.created, c.stats.killed + min c.frames.length 1⟩
      counted := by
        have := c.counted
        simp only [List.length_tail]
        omega })

/-- Change the operands of the current frame. -/
def modifyFrame (c : Context) (f : List CellRef → List CellRef) : Context :=
  { c with
    base := if c.frames.isEmpty then f c.base else c.base
    frames := c.frames.modifyHead f
    counted := by simpa using c.counted }

/-- The operands of the current frame, the last one first. -/
def operands (c : Context) : List CellRef :=
  c.frames.headD c.base

/-- Add an operand to the current frame. -/
def push (c : Context) (cell : CellRef) : Context :=
  c.modifyFrame (cell :: ·)

/-- Take the last operand off the current frame. -/
def pop (c : Context) : Option CellRef × Context :=
  (c.operands.head?, c.modifyFrame List.tail)

/-- Drop the operands of the current frame. -/
def clearFrame (c : Context) : Context :=
  c.modifyFrame fun _ => []

/-- Take frames away until `depth` are left, or the base frame alone. -/
def truncateFrames (c : Context) (depth : Nat) : Context :=
  { c with
    frames := truncateStack c.frames (depth - 1)
    stats := ⟨c.stats.created, c.stats.killed + (c.frames.length - (depth - 1))⟩
    counted := by
      have := c.counted
      simp only [truncateStack, List.length_drop]
      omega }

/-! ## Stacks -/

def marks (c : Context) : Marks :=
  ⟨c.frameDepth, c.handlers.length, c.sources.length, c.iterators.length⟩

/-- Cut the stacks to marks; a suspension keeps its iterators. -/
def unwind (c : Context) (marks : Marks) (keepIterators : Bool) : Context :=
  let c := c.truncateFrames marks.frames
  { c with
    handlers := truncateStack c.handlers marks.handlers
    sources := truncateStack c.sources marks.sources
    iterators := if keepIterators then c.iterators else truncateStack c.iterators marks.iterators }

def currentSource (c : Context) : Option String :=
  c.sources.head?

def hasHandler (c : Context) : Bool :=
  !c.handlers.isEmpty

/-- A throw was caught: its calls become those of the last caught throw. -/
def settleTrace (c : Context) : Context :=
  { c with lastTrace := c.trace, trace := [] }

def recordFrame (c : Context) (frame : StackFrame) : Context :=
  { c with trace := frame :: c.trace }

end Context

/-- The state of an engine. -/
structure Machine where
  heap : Heap
  scripts : Array Script
  hosts : HostRegistry
  console : Console
  outside : Outside
  /-- what each watcher was told, the latest first -/
  logs : Array (List Warning)
  /-- calls in progress, in all contexts -/
  activeCalls : Nat
  context : Context
  deriving Inhabited

/-- Why a run stopped. -/
inductive Stop where
  | fault (f : Fault)
  /-- the evaluator used up its fuel, or waits for what never comes about -/
  | exhausted
  deriving Repr

/-- A computation of the machine. -/
abbrev Run (α : Type) := ExceptT Stop (StateM Machine) α

/-- The part of the evaluator that computations of the machine call back. -/
structure Reentry where
  /-- how often a loop may still go round -/
  rounds : Nat
  /-- evaluate a block, from the start or from where it was suspended -/
  block : Block → Option Cursor → Run Flow
  /-- call what a cell holds, in the current context -/
  call : CellRef → Option String → List CellRef → Run CellRef
  /-- call a function as the host does, in a context of its own -/
  invoke : FunctionRef → Option String → List CellRef → Run CellRef

namespace Run

/-- Fail. -/
def fail {α : Type} (f : Fault) : Run α :=
  throw (.fault f)

/-- An operation on the heap. -/
def onHeap {α : Type} (operation : HeapM α) : Run α := fun m =>
  let h := m.heap
  let m := { m with heap := default }
  match operation h with
  | (.ok value, h) => (.ok value, { m with heap := h })
  | (.error f, h) => (.error (.fault f), { m with heap := h })

instance : MonadLift HeapM Run := ⟨onHeap⟩

/-- A question to the machine. -/
def ask {α : Type} (f : Machine → α) : Run α := fun m =>
  (.ok (f m), m)

/-- A question to the heap. -/
def askHeap {α : Type} (f : Heap → α) : Run α := fun m =>
  (.ok (f m.heap), m)

/-- A question to the context. -/
def askContext {α : Type} (f : Context → α) : Run α := fun m =>
  (.ok (f m.context), m)

def changeMachine (f : Machine → Machine) : Run Unit := fun m =>
  (.ok (), f m)

def changeHeap (f : Heap → Heap) : Run Unit := fun m =>
  let h := m.heap
  let m := { m with heap := default }
  (.ok (), { m with heap := f h })

def changeContext (f : Context → Context) : Run Unit := fun m =>
  (.ok (), { m with context := f m.context })

/-- Run a computation and look at the fault it ends with. -/
def attempt {α : Type} (x : Run α) : Run (Except Fault α) := fun m =>
  match x m with
  | (.ok value, m) => (.ok (.ok value), m)
  | (.error (.fault f), m) => (.ok (.error f), m)
  | (.error .exhausted, m) => (.error .exhausted, m)

/-- Go on with the outcome of an attempt. -/
def settle {α : Type} : Except Fault α → Run α
  | .ok value => return value
  | .error f => fail f

/-- Compute on the next state until a state is final, at most `n` times. -/
def iterate {σ α : Type} (step : σ → Run (σ ⊕ α)) : Nat → σ → Run α
  | 0, _ => throw .exhausted
  | n + 1, s => fun m =>
    match step s m with
    | (.ok (.inl s), m) => iterate step n s m
    | (.ok (.inr value), m) => (.ok value, m)
    | (.error stop, m) => (.error stop, m)

/-- The wording of a fault. -/
def messageOf (f : Fault) : Run String :=
  askHeap (·.faultMessage f)

/-- The script of the current context. -/
def script : Run Script :=
  ask fun m => m.scripts.getD m.context.script.index default

def changeScript (s : ScriptRef) (f : Script → Script) : Run Unit := fun m =>
  let scripts := m.scripts
  let m := { m with scripts := #[] }
  (.ok (), { m with scripts := scripts.modify s.index f })

/-- Ask the system for something. -/
def request {α : Type} (f : System → Nat → α) : Run α := fun m =>
  let outside := m.outside
  (.ok (f outside.system outside.requests),
    { m with outside := { outside with requests := outside.requests + 1 } })

/-- The ports that are listened on. -/
def ports : Run Ports :=
  ask (·.outside.ports)

/-- Change which ports are listened on. -/
def changePorts (ports : Ports) : Run Unit :=
  changeMachine fun m => { m with outside := { m.outside with ports } }

/-- Change the script of the current context. -/
def changeOwnScript (f : Script → Script) : Run Unit := do
  changeScript (← askContext (·.script)) f

/-! ## Reports -/

/-- Tell the watchers of the current script. -/
def notify (w : Warning) : Run Unit := do
  let watchers := (← script).watchers
  changeMachine fun m =>
    { m with logs := watchers.foldl (fun logs i => logs.modify i (w :: ·)) m.logs }

/-- Report from a line of the current source. -/
def report (message : String) (line : UInt32) (trace : Bool) : Run Unit := do
  notify ⟨message, line, ← askContext (·.currentSource), trace⟩

/-- Report a problem of the script, when warnings are shown. -/
def warn (message : String) : Run Unit := do
  let c ← askContext id
  if c.flags.showWarnings then report message c.line false

/-- Report a fault, when errors are shown. -/
def reportError (message : String) (line : UInt32) : Run Unit := do
  if (← askContext (·.flags)).showErrors then report message line false

def traceTaint (message : String) : Run Unit := do
  let c ← askContext id
  if c.flags.traceTaint then report ("taint: " ++ message) c.line true

def traceLogic (message : String) : Run Unit := do
  let c ← askContext id
  if c.flags.traceLogic then report message c.line true

/-- Warn and give the empty value; or throw the warning, when warnings are thrown. -/
def softFault (message : String) : Run CellRef := do
  if (← askContext (·.flags)).throwWarnings then
    let cell ← onHeap (HeapM.text message)
    fail (.thrown cell)
  else
    warn message
    onHeap HeapM.null

/-! ## Frames -/

def createFrame : Run Unit :=
  changeContext (·.createFrame)

def killFrame : Run (List CellRef) := fun m =>
  let (operands, c) := m.context.killFrame
  (.ok operands, { m with context := c })

def push (cell : CellRef) : Run Unit :=
  changeContext (·.push cell)

/-- Take the last operand off the current frame; an empty value when there is none. -/
def pop : Run CellRef := do
  let top ← (fun m =>
    let (top, c) := m.context.pop
    (.ok top, { m with context := c }) : Run (Option CellRef))
  match top with
  | some cell => return cell
  | none => onHeap HeapM.null

end Run

end CellScript
