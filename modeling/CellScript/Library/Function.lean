import CellScript.Fault
import CellScript.Heap.Container
import CellScript.Library.Collection
import CellScript.Library.Handles
import CellScript.Library.Strings

/-!
# The library

## Main definitions

* `Library.call` — the library functions.
* `Library.probe` — functions to try out an engine.
-/

namespace CellScript

namespace Library

/-- A new cell of the kind that the first character of a name calls for. -/
def freshCell (name : String) : HeapM CellRef :=
  match name.toList.head? with
  | some '@' => HeapM.sequence []
  | some '%' => do HeapM.cell (.table (← HeapM.newTable .insertion))
  | _ => HeapM.null

/-- Names, one for each argument or separated by white space. -/
def declaredNames (args : List CellRef) : Run (List String) :=
  Run.askHeap fun h => args.flatMap fun cell => Text.words (h.text cell)

/-- Declare names in the newest container of the current call. -/
def declareLocals (args : List CellRef) : Run CellRef := do
  for name in ← declaredNames args do
    let cell ← freshCell name
    let scope ← Run.askContext (·.scope)
    Run.changeHeap fun h => scope.declareLocal h name cell
  nothing

/-- Declare private variables of the closure. -/
def declareThis (args : List CellRef) : Run CellRef := do
  for name in ← declaredNames args do
    let cell ← freshCell name
    let scope ← Run.askContext (·.scope)
    if scope.current.this.isNone then Run.fail (.runtime (.thisOutside name))
    Run.changeHeap fun h => (scope.declareThis h name cell).2
  nothing

/-- The debug level; an argument sets it, and the result is the level before. -/
def debug (args : List CellRef) : Run CellRef := do
  let previous := (← Run.askContext (·.flags)).level
  match args.head? with
  | none => pure ()
  | some cell =>
    let level ← Run.askHeap (·.cellInt cell)
    if level < 0 ∨ 4294967295 < level then Run.fail (.runtime (.debugLevel level.toInt))
    let flags := DebugFlags.ofLevel level.toNatClampNeg
    Run.changeContext ({ · with flags })
    Run.changeOwnScript fun s => { s with config := { s.config with debug := flags } }
  HeapM.int (Int64.ofNat previous)

/-- The part of a name after its last dot. -/
def afterLastDot (name : String) : String :=
  String.ofList ((Text.pieces (· = '.') name.toList).getLastD [])

/-- Let a short name stand for a host class. -/
def importClass (args : List CellRef) : Run CellRef := do
  let full ← textArgument args 0
  let short ← match args[1]? with
    | some cell => Run.askHeap (·.text cell)
    | none => pure (afterLastDot full)
  if (← Run.ask fun m => m.hosts.lookup? full).isNone then
    Run.softFault s!"&import: class {full} not found"
  else
    if short ≠ full then
      Run.changeMachine fun m => { m with hosts := m.hosts.addAlias short full }
    HeapM.text short

/-- The name of the type of a value, for a host object that of its class. -/
def typeOf (args : List CellRef) : Run CellRef := do
  match ← contentArgument args 0 with
  | .object o => HeapM.text (← Run.askHeap fun h => (h.object o).className)
  | other => HeapM.text other.typeName

/-- Call a function with the elements of a sequence, and with a message. -/
def invoke (self : Reentry) (args : List CellRef) : Run CellRef := do
  let target ← argument args 0
  let callArgs ← match ← contentArgument args 1 with
    | .sequence s => snapshot s
    | _ => pure []
  let message ← match args[2]? with
    | some cell => pure (some (← Run.askHeap (·.text cell)))
    | none => pure none
  self.call target message callArgs

/-- The lines of the profile of the script. -/
def profile : Run CellRef := do
  let entries := (← Run.script).profiler.entries
  HeapM.sequence
    (← Run.onHeap (entries.mapM fun (name, stat) => HeapM.text (formatEntry name stat)))

/-- The calls that the last caught throw passed through. -/
def stackTrace : Run CellRef := do
  let frames := (← Run.askContext (·.lastTrace)).reverse
  HeapM.sequence (← Run.onHeap (frames.mapM fun frame => HeapM.text frame.text))

/-- Call a library function. -/
def call (self : Reentry) (args : List CellRef) : LibraryFunction → Run CellRef
  | .print => write args ""
  | .println => write args "\n"
  | .readln => readLine args
  | .warn => do
    Run.warn (← textArgument args 0)
    nothing
  | .debug => debug args
  | .profile => profile
  | .getStackTrace => stackTrace
  | .importClass => importClass args
  | .typeOf => typeOf args
  | .int => do HeapM.int (← intArgument args 0)
  | .double => do
    let cell ← argument args 0
    HeapM.cell (.float (← Run.askHeap (·.cellFloat cell)))
  | .localNames => declareLocals args
  | .thisNames => declareThis args
  | .invoke => invoke self args
  | .taint => do HeapM.taintedCopy (← argument args 0)
  | .untaint => do HeapM.sanitizedCopy (← argument args 0)
  | .size => size args
  | .push => push args
  | .pop => pop args
  | .shift => shift args
  | .unshift => unshift args
  | .add => add self args
  | .remove => remove args
  | .sublist => sublist args
  | .copy => copy self args
  | .reverse => reverse args
  | .sort => sort self args
  | .keys => keys args
  | .values => values args
  | .array => copies args
  | .hash => tableOfPairs self "&hash" .insertion args
  | .ohash => tableOfPairs self "&ohash" .insertion args
  | .ohasha => tableOfPairs self "&ohasha" .access args
  | .setMissPolicy => setMissPolicy args
  | .setRemovalPolicy => setRemovalPolicy args
  | .setCapacity => setCapacity args
  | .putAll => putAll self args
  | .map => map self args
  | .filter => filter self args
  | .join => join args
  | .split => split args
  | .uc => upper args
  | .lc => lower args
  | .strlen => length args
  | .substr => substring args
  | .exec => exec args
  | .listen => listen args
  | .connect => connect args
  | .wait => wait args
  | .closef => close args

end Library

/-- Call a function to try out an engine. -/
def Library.probe (args : List CellRef) : Probe → Run CellRef
  | .fault => do
    let className ← textArgument args 0
    let cell ← argument args 1
    if className = "Thrown" then Run.fail (.thrown cell)
    else
      let text ← Run.askHeap (·.text cell)
      Run.fail ((Fault.stated? className text).getD (.runtime (.stated text)))
  | .buffer => do
    let text ← textArgument args 0
    let label ← textArgument args 1
    HeapM.object (.handle label (.buffer (.ofText text)))
  | .slurp => do
    match ← Run.askHeap fun h => args.head?.bind (handleOf? h) with
    | some (o, label, handle) => HeapM.text (← useHandle o label handle.readAll)
    | none => nothing
  | .callable => do
    match ← contentArgument args 0 with
    | .function _ => HeapM.int 1
    | _ => HeapM.int 0
  | .location => do
    let c ← Run.askContext id
    let active ← Run.ask (·.activeCalls)
    let source := c.currentSource.getD "-"
    HeapM.text (s!"{source}:{c.line} frames {c.frameDepth} handler " ++
      (if c.hasHandler then "true" else "false") ++ s!" depth {active}")
  | .first => argument args 0

end CellScript
