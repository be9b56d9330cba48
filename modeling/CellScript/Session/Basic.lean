import CellScript.Engine
import CellScript.Library.Operator
import CellScript.Library.Predicate
import CellScript.Program.Format
import CellScript.Program.Listing
import CellScript.Session.Command

/-!
# Console sessions

A session runs console commands over the scripts that it has loaded, which are known by their names.
What commands and scripts print goes to the console of the engine.

## Main definitions

* `Session` — an engine and its scripts by name.
* `Session.insert`, `load`, `unload` — add and drop scripts.
* `Session.execute` — follow one line; `Session.interact` — follow the lines of the console.
-/

namespace CellScript

structure Session where
  engine : Engine
  scripts : Dictionary ScriptRef
  styled : Bool
  deriving Inhabited

/-- Why a command failed. -/
inductive SessionError where
  | program (e : ProgramError)
  | stopped (text : String)
  | notLoaded (name : String)
  deriving Repr

def SessionError.message : SessionError → String
  | .program e => e.message
  | .stopped text => text
  | .notLoaded name => s!"no script named '{name}' is loaded"

/-- Why a run stopped, in words. -/
def Heap.stopMessage (h : Heap) : Stop → String
  | .fault f => h.faultMessage f
  | .exhausted => "the run was given up"

namespace Session

def create (engine : Engine) (styled : Bool) : Session :=
  ⟨engine, .empty, styled⟩

/-- The names of the scripts in order. -/
def names (s : Session) : List String :=
  s.scripts.keys

variable {m : Type → Type} [Monad m]

/-- Compute on the engine of a session. -/
def onEngine {α : Type} (x : StateM Engine α) : StateT Session m α := do
  let s ← get
  let engine := s.engine
  let s := { s with engine := default }
  let (result, engine) := x.run engine
  set { s with engine }
  return result

def changeConsole (f : Console → Console) : StateT Session m Unit :=
  onEngine (modify fun e =>
    let console := e.machine.console
    let e := { e with machine.console := default }
    { e with machine.console := f console })

def print (text : String) : StateT Session m Unit :=
  changeConsole (·.print text)

def printLine (text : String) : StateT Session m Unit :=
  changeConsole (·.printLine text)

def paint (style : Style) (text : String) : StateT Session m String :=
  return style.paint (← get).styled text

/-- Print a line after a label in a style. -/
def report (style : Style) (label text : String) : StateT Session m Unit := do
  printLine ((← paint style label) ++ " " ++ text)

/-! ## Scripts -/

/-- Load a program; its name. It replaces a script of the same name. -/
def insert (p : Program) : StateT Session m (Except SessionError String) := do
  match ← onEngine (Engine.load p) with
  | .error stop => return .error (.stopped ((← get).engine.machine.heap.stopMessage stop))
  | .ok script =>
    if let some old := (← get).scripts.get? p.name then onEngine (Engine.unload old)
    modify fun s => { s with scripts := s.scripts.insert p.name script }
    return .ok p.name

/-- Load the program of a file; its name. -/
def load [FileAccess m] (path : String) : StateT Session m (Except SessionError String) := do
  match ← StateT.lift (Program.load path : m (Except ProgramError Program)) with
  | .ok p => insert p
  | .error e => return .error (.program e)

def unload (name : String) (script : ScriptRef) : StateT Session m Unit := do
  onEngine (Engine.unload script)
  modify fun s => { s with scripts := s.scripts.erase name }

/-! ## Commands -/

def printHelp : StateT Session m Unit := do
  printLine (← paint .bold "Commands:")
  for verb in Verb.all do
    printLine ("  " ++ (← paint .cyan (padRight 22 verb.usage)) ++ " " ++
      (← paint .gray verb.purpose))

def printList : StateT Session m Unit := do
  let s ← get
  if s.scripts.isEmpty then printLine (← paint .gray "no scripts loaded")
  for (name, script) in s.scripts.entries do
    let level := (s.engine.script script).config.debug.level
    printLine ((← paint .bold name) ++ " " ++ (← paint .gray s!"(debug {level})"))

/-- Run a script and print its value, unless it is empty, or why it stopped and where. -/
def runScript (script : ScriptRef) : StateT Session m Unit := do
  let result ← onEngine (Engine.run script)
  let e := (← get).engine
  let heap := e.machine.heap
  match result with
  | .ok cell => unless heap.isNull cell do report .cyan "=>" (heap.describe cell)
  | .error stop =>
    report .red "aborted:" (heap.stopMessage stop)
    let trace := (e.script script).lastTrace
    unless trace.isEmpty do printLine (formatStackTrace trace.reverse)

def printEnvironment (script : ScriptRef) : StateT Session m Unit := do
  let e := (← get).engine
  let s := e.script script
  report .bold "functions:" (" ".intercalate s.environment.functionNames)
  report .bold "operators:" (" ".intercalate Operator.symbols)
  report .bold "predicates:" (" ".intercalate Predicate.names)
  report .bold "globals:" (" ".intercalate (e.machine.heap.variableNames s.globals))

def printProfile (name : String) (script : ScriptRef) : StateT Session m Unit := do
  let entries := ((← get).engine.script script).profiler.entries
  if entries.isEmpty then
    let hint := "nothing profiled; try `debug " ++ name ++ " 24` and run it again"
    printLine (← paint .yellow hint)
  for (name, stat) in entries do
    printLine (formatEntry name stat)

/-- Follow a command about a script. -/
def withScript (name : String) (follow : ScriptRef → StateT Session m Unit) :
    StateT Session m (Except SessionError Unit) := do
  match (← get).scripts.get? name with
  | some script =>
    follow script
    return .ok ()
  | none => return .error (.notLoaded name)

/-- Follow a command. -/
def perform [FileAccess m] : Command → StateT Session m (Except SessionError Unit)
  | .help => return .ok (← printHelp)
  | .load path => do
    match ← load path with
    | .ok name => return .ok (← report .green "loaded" (← paint .bold name))
    | .error e => return .error e
  | .unload name =>
    withScript name fun script => do
      unload name script
      report .gray "unloaded" name
  | .list => return .ok (← printList)
  | .run name => withScript name runScript
  | .tree name => withScript name fun script => do
    print ((← get).engine.script script).main.listing
  | .env name => withScript name printEnvironment
  | .debug name level => withScript name fun script => do
    onEngine (Engine.setFlags script (.ofLevel level))
    report .bold name s!"debug level {level}"
  | .profile name => withScript name (printProfile name)
  | .clear => return .ok (← changeConsole (·.clear))
  | .quit => return .ok ()

def printError (text : String) : StateT Session m Unit :=
  report .red "error:" text

/-- Follow a line; whether the session goes on. -/
def execute [FileAccess m] (line : String) : StateT Session m Bool := do
  match Request.ofLine line with
  | .empty => return true
  | .unknown word =>
    printError s!"unknown command '{word}'. Type help for usage."
    return true
  | .misused verb =>
    printError verb.hint
    return true
  | .command .quit => return false
  | .command c =>
    if let .error e ← perform c then printError e.message
    return true

/-- Follow at most `count` lines of the console. -/
def interactFor [FileAccess m] (prompt : String) : Nat → StateT Session m Unit
  | 0 => return ()
  | count + 1 => do
    let (line?, console) := (← get).engine.machine.console.readLine prompt
    changeConsole fun _ => console
    if let some line := line? then
      if ← execute line then interactFor prompt count

/-- Follow the lines of the console until it has no more or the session ends. -/
def interact [FileAccess m] (prompt : String) : StateT Session m Unit := do
  interactFor prompt ((← get).engine.machine.console.input.length + 1)

end Session

end CellScript
