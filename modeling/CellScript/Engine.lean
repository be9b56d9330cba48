import CellScript.Eval.Block
import CellScript.Host.Builtin
import CellScript.Program.Contents

/-!
# Engines

An engine loads programs as scripts, runs them and calls their functions. Loading binds the
definitions of the top level, so that a script can call a function that it defines further down. A
throw that nobody catches is reported and the run gives the empty value; fatal faults and taint
violations are what a run can end with.

## Main definitions

* `Engine`, `Engine.create` — a machine and what every script is given.
* `Engine.load`, `Engine.run`, `Engine.call` — load a program, run a script, call a function.
* `Engine.unload`, `Engine.setFlags`, `Engine.watch`, `Engine.publish` — other operations on
  scripts.
-/

namespace CellScript

/-- An engine: a machine, and what every script that it loads is given. -/
structure Engine where
  machine : Machine
  config : EngineConfig
  /-- the logs that scripts report to -/
  watchers : List Nat
  /-- the global variables of all scripts, when they share them -/
  globals : Option VarsRef
  /-- functions on top of the library -/
  environment : Environment
  deriving Inhabited

/-- The library functions, guarded when taint is watched. -/
def Environment.library (taint : Bool) : Environment :=
  ⟨.ofList (LibraryFunction.table.map
    fun (name, f) => (name, (Function.library f).wrap f.taintPolicy taint)), .empty⟩

/-- The functions to try out an engine, guarded when taint is watched. -/
def Environment.probes (taint : Bool) : Environment :=
  let guarded (policy : TaintPolicy) :=
    ("&" ++ policy.name, (Function.probe .first).wrap policy taint)
  ⟨.ofList ([("&fault", .probe .fault), ("&buffer", .probe .buffer), ("&slurp", .probe .slurp),
    ("&callable", .probe .callable), ("&where", .probe .location)] ++
      [.sensitive, .tainter, .sanitizer, .permeable].map guarded), .empty⟩

namespace Engine

/-- Set up a machine with a console, a system outside and one log that all scripts report to. -/
def create (config : EngineConfig) (console : Console) (system : System := .still) : Engine where
  machine :=
    { heap := .empty
      scripts := #[]
      hosts := .standard
      console
      outside := .ofSystem system
      logs := #[[]]
      activeCalls := 0
      context := default }
  config
  watchers := [0]
  globals := none
  environment := .empty

/-- The engine with one store of global variables for all scripts. -/
def withSharedGlobals (e : Engine) : Engine :=
  let (vars, heap) := e.machine.heap.newVars
  { e with globals := some vars, machine := { e.machine with heap } }

/-- The engine with the functions to try it out. -/
def withProbes (e : Engine) : Engine :=
  { e with environment := e.environment.extend (.probes e.config.taint) }

/-- Compute on the machine of an engine. -/
def perform {α : Type} (x : Run α) : StateM Engine (Except Stop α) := fun e =>
  let m := e.machine
  let e := { e with machine := default }
  let (result, m) := x m
  (result, { e with machine := m })

end Engine

namespace Eval

/-- An evaluator for runs of any practical length. -/
def evaluator : Reentry :=
  reentry 1000000000000

/-- Bind the definitions among steps. -/
def hoist : List Step → Run Unit
  | [] => return ()
  | .mk line (.bind name body isInline site) :: rest => do
    Run.changeContext ({ · with line })
    bind name body isInline site
    hoist rest
  | _ :: rest => hoist rest

/-- Add a script, and bind the definitions of its main block. -/
def install (script : Script) : Run ScriptRef := do
  let s : ScriptRef := ⟨← Run.ask (·.scripts.size)⟩
  Run.changeMachine fun m => { m with scripts := m.scripts.push script }
  within (← newContext s) (hoist script.main.steps)
  return s

/-- Report a throw that nobody caught, which gives the empty value. -/
def reportUncaught (line : UInt32) : Except Fault CellRef → Run (Except Fault CellRef)
  | .error (.thrown value) => do
    let text ← Run.askHeap (·.text value)
    Run.notify ⟨s!"Uncaught exception: {text}", line, some (← Run.script).name, false⟩
    return .ok (← HeapM.null)
  | other => return other

/-- Settle how a run ended: keep its counts and its trace, and report a throw that nobody caught. -/
def finish (outcome : Except Fault CellRef) : Run CellRef := do
  let c ← Run.askContext id
  let lastTrace := if c.trace.isEmpty then c.lastTrace else c.trace
  Run.changeOwnScript ({ · with lastStats := c.stats })
  let result ← reportUncaught c.line outcome
  Run.changeOwnScript ({ · with lastTrace })
  Run.settle result

/-- What a script gives that ended with a flow. -/
def valueOfFlow : Flow → Run CellRef
  | .return value | .yield value _ => return value
  | .throw value => Run.fail (.thrown value)
  | .callcc target _ => do
    Run.fail (.runtime (.callccOutside (← Run.askHeap (·.describe target))))
  | .normal | .break | .continue => HeapM.null

/-- The main block of a script. -/
def runMain (self : Reentry) (s : ScriptRef) : Run CellRef := do
  let main ← Run.ask fun m => (m.scripts.getD s.index default).main
  valueOfFlow (← self.block main none)

/-- Compute in a new context of a script, and settle how it ended. -/
def runInContext (s : ScriptRef) (body : Run CellRef) : Run CellRef := do
  within (← newContext s) do
    finish (← Run.attempt body)

/-- Run the main block of a script. -/
def runScript (self : Reentry) (s : ScriptRef) : Run CellRef :=
  runInContext s (runMain self s)

/-- Call a function of a script by name. -/
def callScript (self : Reentry) (s : ScriptRef) (function : String) (args : List CellRef) :
    Run CellRef :=
  runInContext s (callFunction self function args)

end Eval

namespace Engine

/-- The script of a program: what the library and the engine define is there from the start. -/
def scriptOf (e : Engine) (p : Program) (globals : VarsRef) : Script where
  name := p.name
  main := p.main.numbered
  environment := (Environment.library e.config.taint).extend e.environment
  globals
  config := e.config
  watchers := e.watchers
  profiler := .empty
  lastTrace := []
  lastStats := ⟨0, 0⟩
  loaded := true

/-- The global variables of a script, its own unless all scripts share them. -/
def globalsFor (e : Engine) : Run VarsRef :=
  match e.globals with
  | some vars => return vars
  | none => HeapM.newVars

/-- Load a program. -/
def load (p : Program) : StateM Engine (Except Stop ScriptRef) := do
  let e ← get
  perform do
    Eval.install (e.scriptOf p (← e.globalsFor))

/-- Run a script from the start. -/
def run (s : ScriptRef) : StateM Engine (Except Stop CellRef) :=
  perform (Eval.runScript Eval.evaluator s)

/-- Call a function of a script. -/
def call (s : ScriptRef) (function : String) (args : List CellRef) :
    StateM Engine (Except Stop CellRef) :=
  perform (Eval.callScript Eval.evaluator s function args)

def script (e : Engine) (s : ScriptRef) : Script :=
  e.machine.scripts.getD s.index default

def modifyScript (s : ScriptRef) (f : Script → Script) : StateM Engine Unit :=
  modify fun e =>
    { e with machine := { e.machine with scripts := e.machine.scripts.modify s.index f } }

/-- Drop a script: its closures and functions can no longer be called. -/
def unload (s : ScriptRef) : StateM Engine Unit :=
  modifyScript s ({ · with loaded := false })

def setFlags (s : ScriptRef) (flags : DebugFlags) : StateM Engine Unit :=
  modifyScript s fun script => { script with config := { script.config with debug := flags } }

/-- Let a script report to a log once more. -/
def watch (s : ScriptRef) (log : Nat) : StateM Engine Unit :=
  modifyScript s fun script => { script with watchers := script.watchers ++ [log] }

/-- Take a function out of a script; whether there was one. -/
def undefine (s : ScriptRef) (function : String) : StateM Engine Bool := do
  let known := ((← get).script s).environment.functions.get? function
  modifyScript s fun script =>
    { script with
      environment :=
        { script.environment with functions := script.environment.functions.erase function } }
  return known.isSome

/-- Give a function of a script to the scripts that are loaded later; whether there is one. -/
def publish (s : ScriptRef) (function : String) : StateM Engine Bool := do
  match ((← get).script s).environment.functions.get? function with
  | none => return false
  | some f =>
    modify fun e =>
      { e with
        environment :=
          { e.environment with functions := e.environment.functions.insert function f } }
    return true

/-- What a function of a script does to taint. -/
def taintPolicy? (e : Engine) (s : ScriptRef) (function : String) : Option TaintPolicy :=
  ((e.script s).environment.functions.get? function).map (·.taintPolicy)

/-- The output since the last time. -/
def takeOutput : StateM Engine String := fun e =>
  let (text, console) := e.machine.console.takeOutput
  (text, { e with machine := { e.machine with console } })

/-- What a log was told since the last time, the earliest first. -/
def takeEvents (log : Nat) : StateM Engine (List Warning) := fun e =>
  ((e.machine.logs.getD log []).reverse,
    { e with machine := { e.machine with logs := e.machine.logs.setIfInBounds log [] } })

/-! ## Global variables -/

def global? (e : Engine) (s : ScriptRef) (name : String) : Option CellRef :=
  e.machine.heap.findVariable? (e.script s).globals name

def changeGlobals (s : ScriptRef) (f : Heap → VarsRef → Heap) : StateM Engine Unit := do
  let globals := ((← get).script s).globals
  modify fun e => { e with machine := { e.machine with heap := f e.machine.heap globals } }

def putGlobal (s : ScriptRef) (name : String) (cell : CellRef) : StateM Engine Unit :=
  changeGlobals s fun h globals => h.putVariable globals name cell

/-- Forget a global variable; the cell it stood for. -/
def removeGlobal (s : ScriptRef) (name : String) : StateM Engine (Option CellRef) := do
  let cell := (← get).global? s name
  changeGlobals s fun h globals => h.removeVariable globals name
  return cell

end Engine

end CellScript
