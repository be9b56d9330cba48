import CellScript.Library.Basic

/-!
# Input, output and processes

The library functions on the console, on handles and on ports. Time passes for a process or a
connection while a script waits for it.

## Main definitions

* `write`, `readLine` — to and from the console or a handle.
* `exec`, `wait`, `close` — processes and handles.
* `listen`, `connect` — connections.
-/

namespace CellScript.Library

/-- The handle that a cell holds, with its object and label. -/
def handleOf? (h : Heap) (cell : CellRef) : Option (ObjectRef × String × Handle) :=
  match h.content cell with
  | .object o =>
    match h.object o with
    | .handle label handle => some (o, label, handle)
    | _ => none
  | _ => none

/-- Use a handle, which then is as the use leaves it. -/
def useHandle {α : Type} (o : ObjectRef) (label : String) (result : Except IoFault α × Handle) :
    Run α := do
  Run.changeHeap (·.setObject o (.handle label result.2))
  match result.1 with
  | .ok value => return value
  | .error f => Run.fail f.toFault

/-- Write a text, with a line feed or without: to a handle that is the first of several arguments,
else to the console. -/
def write (args : List CellRef) (ending : String) : Run CellRef := do
  let handle? ← if 1 < args.length then Run.askHeap fun h => handleOf? h (args.headD default)
    else pure none
  match handle? with
  | some (o, label, handle) =>
    useHandle o label (handle.write ((← textArgument args 1) ++ ending))
    nothing
  | none =>
    let text ← textArgument args 0
    Run.changeMachine fun m =>
      let console := m.console
      let m := { m with console := default }
      { m with console := (console.print text).print ending }
    nothing

/-- The cell of a line, or an empty value at the end of the input. -/
def lineCell (line? : Option String) : Run CellRef :=
  match line? with
  | some line => HeapM.text line
  | none => nothing

/-- The next line of a handle that is the first argument, else of the console, with the first
argument as prompt. -/
def readLine (args : List CellRef) : Run CellRef := do
  match ← Run.askHeap fun h => args.head?.bind (handleOf? h) with
  | some (o, label, handle) => lineCell (← useHandle o label handle.readLine)
  | none =>
    let prompt ← textArgument args 0
    lineCell (← (fun m =>
      let (line?, console) := m.console.readLine prompt
      (.ok line?, { m with console }) : Run (Option String)))

/-- Start a process; the result is a handle to it. -/
def exec (args : List CellRef) : Run CellRef := do
  let command ← textArgument args 0
  match Text.words command with
  | [] => Run.fail (.runtime .emptyCommand)
  | program :: rest =>
    match ← Run.request (·.spawn · program rest) with
    | .ok stream => HeapM.object (.handle command (.stream stream))
    | .error problem => Run.fail (.runtime (.command command problem))

/-! ## Waiting -/

/-- A limit in milliseconds; what is not positive is none. -/
def limitArgument (args : List CellRef) (i : Nat) : Run (Option Nat) := do
  let n ← intArgument args i
  return if 0 < n then some n.toInt.toNat else none

/-- What a wait comes to. A wait that never ends is like a loop that never does. -/
def waited {α β : Type} : Option (Except WorkerError α × β) → Run (Except WorkerError α × β)
  | some ended => return ended
  | none => throw .exhausted

/-- The outcome of work that was waited for. -/
def collect {α : Type} : Except WorkerError α → Run α
  | .ok outcome => return outcome
  | .error e => Run.fail e.toFault

/-- The handle of a connection. -/
def connected : Connection → Run CellRef
  | .ok (label, handle) => HeapM.object (.handle label handle)
  | .error problem => Run.fail (.runtime (.stated problem))

/-- Wait for a task that an object stands for. -/
def waitForTask (o : ObjectRef) (u : Undertaking Connection) (limit : Option Nat) :
    Run CellRef := do
  let (result, u) ← waited (u.wait limit)
  Run.changeHeap (·.setObject o (.task u))
  connected (← collect result)

/-- Wait for the process behind a handle; the result is its exit code, if it is a process. Nothing
can be written to it from now on. -/
def waitForHandle (o : ObjectRef) (label : String) (handle : Handle) (limit : Option Nat) :
    Run CellRef := do
  let (code?, closed) := handle.wait
  let process := Undertaking.start ("wait-" ++ label) ⟨code?, handle.waitingTime⟩
  let (result, _) ← waited (process.wait limit)
  useHandle o label (.ok (), closed.later (limit.getD process.remaining))
  match ← collect result with
  | some code => HeapM.int (Int64.ofInt code)
  | none => nothing

/-- Wait for a process or a connection. -/
def wait (args : List CellRef) : Run CellRef := do
  let target ← argument args 0
  let limit ← limitArgument args 1
  match ← Run.askHeap fun h => handleOf? h target with
  | some (o, label, handle) => waitForHandle o label handle limit
  | none =>
    match ← Run.askHeap (·.content target) with
    | .object o =>
      match ← Run.askHeap (·.object o) with
      | .task u => waitForTask o u limit
      | other => Run.fail (.badCast (.noWaiting other.className))
    | other => Run.fail (.badCast (.noWaitingFor other.typeName))

/-! ## Connections -/

/-- A port, which an integer may be. -/
def portOf? (n : Int64) : Option Nat :=
  if 0 ≤ n && n ≤ 65535 then some n.toInt.toNat else none

/-- The port that an argument of a function gives. -/
def portArgument (function : String) (args : List CellRef) (i : Nat) : Run Nat := do
  let n ← intArgument args i
  match portOf? n with
  | some port => return port
  | none => Run.fail (.runtime (.port function n.toInt))

/-- Make a connection. With a function to be called with its handle, it is made in the background,
and the result is a task. The function is called there too: that is no part of this run. -/
def settle (name : String) (work : Eventual Connection) (limit : Option Nat) (inBackground : Bool) :
    Run CellRef := do
  let task := Undertaking.start name work
  if inBackground then HeapM.object (.task task)
  else
    let (result, _) ← waited (task.wait limit)
    connected (← collect result)

/-- Whether an argument is a function. -/
def hasFunction (args : List CellRef) (i : Nat) : Run Bool := do
  match ← contentArgument args i with
  | .function _ => return true
  | _ => return false

/-- Open a port that is not listened on yet. -/
def openPort (port : Nat) : Run Nat := do
  if (← Run.ports).isListening port then return port
  else
    let bound ← Run.request (·.bind · port)
    match (← Run.ports).listen port bound with
    | .ok (bound, ports) =>
      Run.changePorts ports
      return bound
    | .error f => Run.fail f.toFault

/-- Wait for a connection to a port. -/
def listen (args : List CellRef) : Run CellRef := do
  let port ← openPort (← portArgument "&listen" args 0)
  let limit ← limitArgument args 1
  let incoming ← Run.request (·.accept · port)
  let ports ← Run.ports
  let connection := incoming.value.map fun stream => (s!"listen:{port}", .stream stream)
  let work := Eventual.upTo ⟨connection, incoming.after⟩ limit fun ms =>
    .error (ports.accept port ms).message
  settle s!"listen-{port}" work none (← hasFunction args 2)

/-- Connect to a port of a host. -/
def connect (args : List CellRef) : Run CellRef := do
  let host ← textArgument args 0
  let port ← portArgument "&connect" args 1
  let label := s!"{host}:{port}"
  let outgoing ← Run.request (·.connect · label)
  let connection := outgoing.value.map fun stream => (label, .stream stream)
  settle ("connect-" ++ label) ⟨connection, outgoing.after⟩ (← limitArgument args 2)
    (← hasFunction args 3)

/-- Close a handle. A number is a port, which is not listened on any more; the result is whether it
was. -/
def close (args : List CellRef) : Run CellRef := do
  let target ← argument args 0
  match ← Run.askHeap fun h => handleOf? h target with
  | some (o, label, handle) =>
    useHandle o label (.ok (), handle.close)
    nothing
  | none =>
    match ← Run.askHeap (·.content target) with
    | .int _ | .float _ =>
      let n ← Run.askHeap (·.cellInt target)
      let (listened, ports) := (← Run.ports).release ((portOf? n).getD 0)
      Run.changePorts ports
      HeapM.int (if listened then 1 else 0)
    | other => Run.fail (.badCast (.noClosing other.typeName))

end CellScript.Library
