import CellScript.Library.Function
import CellScript.Machine.Policy

/-!
# Calls

Every call of a function, a closure or an inline block goes through `dispatch`, which bounds the
depth of calls, traces and counts them, and records the calls that a throw passes through. A closure
that ended in `yield` or `callcc` goes on from there when it is called again.

## Main definitions

* `Eval.dispatch`, `Eval.conclude` — a call, and what is done when it has ended.
* `Eval.runClosure`, `Eval.callDetached` — a closure in the current context, and in a context of its
  own.
* `Eval.callFunction`, `Eval.callValue`, `Eval.invoke` — calls by name, of a value, and by the host.
-/

namespace CellScript.Eval

/-- What is done when a call that was made in a context has ended: it is counted, traced and, when a
throw passes through it, recorded. -/
def conclude (name : String) (c : Context) (described : Option String)
    (result : Except Fault CellRef) :
    Run CellRef := do
  let source := c.currentSource
  Run.changeMachine fun m => { m with activeCalls := m.activeCalls - 1 }
  if c.flags.profile then
    Run.changeOwnScript fun s => { s with profiler := s.profiler.record name source c.line 0 }
  match result with
  | .ok value =>
    if let some described := described then
      let text ← Run.askHeap (·.describe value)
      Run.report s!"{name}({described}) = {text}" c.line true
  | .error f =>
    Run.changeContext (·.truncateFrames c.frameDepth)
    if let some described := described then
      Run.report s!"{name}({described}) - FAILED!" c.line true
    if !f.isFatal then
      Run.changeContext (·.recordFrame ⟨name, source, c.line⟩)
  Run.changeContext ({ · with line := c.line })
  Run.settle result

/-- Run a call. A call beyond the depth limit fails without being made. -/
def dispatch (name : String) (args : List CellRef) (execute : Run CellRef) : Run CellRef := do
  let c ← Run.askContext id
  let active ← Run.ask (·.activeCalls)
  if c.maxDepth ≤ active then Run.fail (.runtime (.callDepth c.maxDepth))
  let described ← if c.flags.traceCalls then
      Run.askHeap fun h => some (", ".intercalate (args.map h.describe))
    else pure none
  Run.changeMachine fun m => { m with activeCalls := m.activeCalls + 1 }
  conclude name c described (← Run.attempt execute)

/-- Bind the arguments of a call: all of them as `@_`, each by its position, and the message as
`$0`. -/
def bindArguments (vars : VarsRef) (message : Option String) (args : List CellRef) :
    HeapM Unit := do
  let all ← HeapM.sequence args
  HeapM.change (·.putVariable vars "@_" all)
  for (cell, i) in args.zipIdx do
    HeapM.change (·.putVariable vars s!"${i + 1}" cell)
  let name ← match message with
    | some text => HeapM.text text
    | none => HeapM.null
  HeapM.change (·.putVariable vars "$0" name)

/-! ## Closures -/

/-- How the body of a closure ended. -/
inductive Outcome where
  | value (cell : CellRef)
  /-- suspended by `callcc`: the target has to be called with the closure -/
  | callcc (target : CellRef)

/-- What a body starts with: its scope level, and where it was suspended with the iterators it had
open. -/
def entryOf (f : FunctionRef) (c : Closure) :
    Run (ScopeLevel × Option Cursor × List IterState) := do
  Run.changeHeap (·.setSuspension f none)
  match c.suspension with
  | some ⟨cursor, some level, iterators⟩ => return (level, some cursor, iterators)
  | _ => return (.ofBase (← HeapM.newVars) (some c.this), none, [])

/-- Keep the position of a body, its scope level and the iterators it has open. -/
def suspend (f : FunctionRef) (cursor : Cursor) (level : Option ScopeLevel) (iterators : Nat) :
    Run Unit := do
  let c ← Run.askContext id
  let count := c.iterators.length - iterators
  Run.changeContext fun c => { c with iterators := c.iterators.drop count }
  Run.changeHeap (·.setSuspension f (some ⟨cursor, level, c.iterators.take count⟩))

/-- The context inside of the body of a closure: with a scope level, a source and a frame of its
own, and with the iterators that the body had open. -/
def enter (source : Option String) (level : ScopeLevel) (iterators : List IterState) (c : Context) :
    Context :=
  { c with
    scope := c.scope.pushLevel level
    sources := source.toList ++ c.sources
    iterators := iterators ++ c.iterators }.createFrame

/-- Back from the body of a closure: its scope level as it is at the end, and the context without
what was its own. Its iterators are still there. -/
def leave (source : Option String) (c : Context) : Option ScopeLevel × Context :=
  let c := c.killFrame.2
  let (level, scope) := c.scope.popLevel
  (level, { c with scope, sources := c.sources.drop source.toList.length })

/-- Run the body of a closure in the current context. -/
def runBody (self : Reentry) (f : FunctionRef) (c : Closure) (message : Option String)
    (args : List CellRef) :
    Run Outcome := do
  let (level, cursor, iterators) ← entryOf f c
  bindArguments level.base message args
  let me ← HeapM.cell (.function f)
  Run.changeHeap (·.putVariable level.base "$this" me)
  let open? ← Run.askContext (·.iterators.length)
  Run.changeContext (enter c.source level iterators)
  let result ← Run.attempt (self.block c.body cursor)
  let level ← (fun m =>
    let (level, context) := leave c.source m.context
    (.ok level, { m with context }) : Run (Option ScopeLevel))
  match result with
  | .ok (.yield value cursor) =>
    suspend f cursor level open?
    return .value value
  | .ok (.callcc target cursor) =>
    suspend f cursor level open?
    return .callcc target
  | other =>
    Run.changeContext fun ctx => { ctx with iterators := truncateStack ctx.iterators open? }
    match other with
    | .error fault => Run.fail fault
    | .ok (.return value) => return .value value
    | .ok (.throw value) => Run.fail (.thrown value)
    | .ok _ => return .value (← HeapM.null)

/-- Run a closure in the current context and, after `callcc`, call the target with the closure. -/
def runClosure (self : Reentry) (f : FunctionRef) (c : Closure) (message : Option String)
    (args : List CellRef) :
    Run CellRef := do
  match ← runBody self f c message args with
  | .value cell => return cell
  | .callcc target =>
    Run.createFrame
    let me ← HeapM.cell (.function f)
    let result ← Run.attempt (self.call target none [me])
    let _ ← Run.killFrame
    Run.settle result

/-- A context for a script. -/
def newContext (s : ScriptRef) : Run Context := do
  let script ← Run.ask fun m => m.scripts.getD s.index default
  let scope ← ScopeChain.create script.globals
  return .start s scope script.config.debug script.config.taint script.config.maxCallDepth

/-- Compute in another context and come back to the current one. -/
def within {α : Type} (c : Context) (x : Run α) : Run α := do
  let outer ← Run.askContext id
  Run.changeContext fun _ => c
  let result ← Run.attempt x
  Run.changeContext fun _ => outer
  Run.settle result

/-- Whether a script is loaded. -/
def isLoaded (s : ScriptRef) : Run Bool :=
  Run.ask fun m => (m.scripts.getD s.index default).loaded

/-- Call a closure in a context of its own. -/
def callDetached (self : Reentry) (f : FunctionRef) (c : Closure) (message : Option String)
    (args : List CellRef) : Run CellRef := do
  if !(← isLoaded c.owner) then Run.fail (.runtime (.ownerUnloaded "closure"))
  within (← newContext c.owner) (dispatch c.describe args (runClosure self f c message args))

/-! ## Functions -/

/-- The closure of a reference, when it is one of the script of the current context. -/
def ownClosure? (f : FunctionRef) : Run (Option Closure) :=
  Run.ask fun m => (m.heap.closure? f).filter (·.owner == m.context.script)

/-- Run what a name of a function stands for. -/
def evaluate (self : Reentry) (name : String) (args : List CellRef) : Function → Run CellRef
  | .library f => Library.call self args f
  | .probe f => Library.probe args f
  | .bound f => do
    match ← Run.askHeap (·.closure? f) with
    | none => HeapM.null
    | some c =>
      if (← ownClosure? f).isSome then runClosure self f c none args
      else callDetached self f c none args
  | .guarded .permeable inner => evaluate self name args inner
  | .guarded .sensitive inner => do
    Run.refuseTainted name args
    evaluate self name args inner
  | .guarded .tainter inner => do Run.taintResult name (← evaluate self name args inner)
  | .guarded .sanitizer inner => do Run.cleanResult (← evaluate self name args inner)

/-- Run an inline block in the scope level of the caller, with a container for its arguments. -/
def runInline (self : Reentry) (name : String) (block : Block) (args : List CellRef) :
    Run CellRef := do
  let vars ← HeapM.newVars
  bindArguments vars none args
  let depth ← Run.askContext (·.scope.localDepth)
  Run.changeContext fun c => { c with scope := c.scope.pushLocal vars }
  Run.createFrame
  let result ← Run.attempt (self.block block none)
  let _ ← Run.killFrame
  Run.changeContext fun c => { c with scope := c.scope.truncateLocals depth }
  match result with
  | .error f => Run.fail f
  | .ok (.return value) => return value
  | .ok (.throw value) => Run.fail (.thrown value)
  | .ok flow => if flow.suspends then Run.fail (.runtime (.suspendedInline name)) else HeapM.null

/-- Call a function or inline block of the script by name. -/
def callFunction (self : Reentry) (name : String) (args : List CellRef) : Run CellRef := do
  let environment := (← Run.script).environment
  match environment.functions.get? name with
  | some f => dispatch name args (evaluate self name args f)
  | none =>
    match environment.inlines.get? name with
    | some block => dispatch name args (runInline self name block args)
    | none => Run.softFault s!"Attempted to call non-existent function {name}"

/-- What a function of the host does. -/
def reply (message : Option String) (args : List CellRef) : HostReply → Run CellRef
  | .first => Library.argument args 0
  | .message =>
    match message with
    | some text => HeapM.text text
    | none => HeapM.null
  | .count => HeapM.int (Int64.ofNat args.length)
  | .give cell => return cell
  | .throw cell => Run.fail (.thrown cell)
  | .fail f => Run.fail f

/-- Call a function as the host does, in a context of its own. -/
def invoke (self : Reentry) (f : FunctionRef) (message : Option String) (args : List CellRef) :
    Run CellRef := do
  match ← Run.askHeap (·.callable f) with
  | .closure c => callDetached self f c message args
  | .named name owner =>
    if !(← isLoaded owner) then Run.fail (.runtime (.ownerUnloaded "function"))
    within (← newContext owner) (callFunction self name args)
  | .host _ does => reply message args does

/-- Call what a cell holds: a function, or a function by its name. Functions of the script of the
current context run in it. -/
def callValue (self : Reentry) (target : CellRef) (message : Option String) (args : List CellRef) :
    Run CellRef := do
  match ← Run.askHeap (·.content target) with
  | .function f =>
    let script ← Run.askContext (·.script)
    match ← Run.askHeap (·.callable f) with
    | .closure c =>
      if c.owner = script then dispatch c.describe args (runClosure self f c message args)
      else callDetached self f c message args
    | .named name owner =>
      if owner = script then callFunction self name args else invoke self f message args
    | .host _ does => reply message args does
  | .text name =>
    if name.startsWith "&" then callFunction self name args
    else Run.fail (.badCast (.notCallable "string"))
  | .null => Run.fail (.nullDereference .call)
  | other => Run.fail (.badCast (.notCallable other.typeName))

end CellScript.Eval
