import CellScript.CommandLine.Invocation
import CellScript.Session.Basic

/-!
# What the program does

The actions of the command line, each with its exit code, its output and what it reports as errors.

## Main definitions

* `Surroundings` — what an action finds: styles, directories and the input.
* `Outcome` — the exit code, the output and the errors.
* `runProgram`, `dumpProgram`, `startConsole`, `createSettings` — the actions.
* `outcome` — what the program does with its arguments.
-/

namespace CellScript.CommandLine

/-- The exit code with what was written. -/
structure Outcome where
  code : Nat
  output : String
  errors : String
  /-- the output when a line of input was first asked for in vain -/
  unanswered : Option String
  deriving Inhabited, Repr

/-- What an action finds. -/
structure Surroundings where
  styled : Bool
  /-- the current directory -/
  directory : String
  home : Option String
  /-- standard input -/
  input : String

def programVersion : String :=
  "0.3.0"

namespace Outcome

def success (output : String) : Outcome :=
  ⟨0, output, "", none⟩

def failure (code : Nat) (errors : String) : Outcome :=
  ⟨code, "", errors, none⟩

end Outcome

/-- A line that reports an error. -/
def errorLine (styled : Bool) (text : String) : String :=
  Style.red.paint styled "error:" ++ " " ++ text ++ "\n"

/-- What there is to say to arguments that name no action. -/
def Departure.outcome : Departure → Outcome
  | .help t => .success t.help
  | .version => .success ("drowse " ++ programVersion ++ "\n")
  | .misuse => .failure 2 Topic.root.help

def settingsProblem (path : String) : SettingsError → String
  | .read e => s!"cannot read '{path}': " ++ e.message
  | .parse => s!"invalid toml in '{path}'"
  | .write e => s!"cannot write '{path}': " ++ e.message

/-- The lines of the input as a program reads them: all carriage returns before a line feed belong
to the line end. -/
def inputLines (text : String) : List String :=
  let parts := Text.pieces (· = '\n') text.toList
  let parts := if (parts.getLastD []).isEmpty then parts.dropLast else parts
  parts.map fun line => String.ofList (Text.dropTrailing (· = '\r') line)

/-! ## Running a program -/

/-- Run a script, then call a function of it, if one is named and the run did not fail. -/
def runAndCall (script : ScriptRef) (function : Option String) (args : List String) :
    StateM Engine (Except Stop CellRef) := do
  match ← Engine.run script, function with
  | .ok _, some function =>
    match ← Engine.perform (args.mapM (Run.onHeap <| HeapM.text ·)) with
    | .ok cells => Engine.call script function cells
    | .error stop => return .error stop
  | result, _ => return result

/-- Run a loaded program over lines of input. -/
def runLoaded (styled : Bool) (settings : Settings) (p : Program) (function : Option String)
    (args lines : List String) :
    Outcome :=
  let engine := Engine.create settings.engineConfig (.screen lines true)
  let (result, engine) := (do
    match ← Engine.load p with
    | .error stop => return (.error stop, default)
    | .ok script => return (← runAndCall script function args, script) : StateM Engine _).run engine
  let (result, script) := result
  let heap := engine.machine.heap
  let console := engine.machine.console
  let warnings := ((engine.machine.logs.getD 0 []).reverse.filter (!·.trace)).map (·.text ++ "\n")
  let reports := String.join warnings
  match result with
  | .ok cell =>
    let value := if heap.isNull cell then "" else heap.describe cell ++ "\n"
    ⟨0, console.output ++ value, reports, console.unanswered⟩
  | .error stop =>
    let trace := (engine.script script).lastTrace
    let problem :=
      Style.red.paint styled "runtime error:" ++ " " ++ heap.stopMessage stop ++ "\n" ++
      if trace.isEmpty then "" else formatStackTrace trace.reverse ++ "\n"
    ⟨1, console.output, reports ++ problem, console.unanswered⟩

variable {m : Type → Type} [Monad m] [FileAccess m]

/-- Do something with the program of a file. -/
def withProgram (styled : Bool) (file : String) (f : Program → m Outcome) : m Outcome := do
  match ← (Program.load file : m (Except ProgramError Program)) with
  | .ok p => f p
  | .error e =>
    return .failure 1 (errorLine styled (Style.bold.paint styled file ++ ": " ++ e.message))

/-- Print a program or its instructions, or save it in a file. -/
def dumpProgram (styled : Bool) (p : Program) (output : Option String) (tree : Bool) :
    m Outcome := do
  if tree then return .success p.main.listing
  match output with
  | none => return .success (p.toJson ++ "\n")
  | some path =>
    match ← (p.save path : m (Except ProgramError Unit)) with
    | .ok _ => return .success (statusLabel styled "Wrote" ++ " " ++ path ++ "\n")
    | .error e => return .failure 1 (errorLine styled (s!"writing '{path}': " ++ e.message))

/-- Create a file with the default settings. -/
def createSettings (styled : Bool) : m Outcome := do
  match ← (Settings.writeTemplate Settings.fileName : m (Except SettingsError Bool)) with
  | .ok true => return .success (statusLabel styled "Created" ++ " " ++ Settings.fileName ++ "\n")
  | .ok false =>
    return .failure 1 (errorLine styled (Settings.fileName ++ " already exists, not overwriting"))
  | .error e => return .failure 1 (errorLine styled (settingsProblem Settings.fileName e))

/-! ## The console -/

/-- Load files into a session and greet. -/
def openSession (files : List String) : StateT Session m Unit := do
  for file in files do
    if let .error e ← Session.load file then Session.printError (file ++ ": " ++ e.message)
  Session.printLine (← Session.paint .bold ("Drowse console v" ++ programVersion))
  Session.printLine (← Session.paint .gray "Type help for available commands, quit to exit.")

/-- A session before it is opened. -/
def newSession (styled : Bool) (settings : Settings) (lines : List String) : Session :=
  .create (Engine.create settings.engineConfig (.screen lines false)) styled

/-- Follow the lines of the input as console commands. -/
def runConsole (s : Surroundings) (settings : Settings) (files : List String) : m Outcome := do
  let work : StateT Session m Unit := do
    openSession files
    Session.interact settings.prompt
  let (_, session) ← work.run (newSession s.styled settings (Text.lines s.input))
  return .success session.engine.machine.console.output

/-! ## The program -/

/-- The settings of an invocation: of the file that it names, else of the nearest one, else the
defaults. -/
def findSettings (s : Surroundings) (i : Invocation) : m (Except String Settings) := do
  let path? ← match i.config with
    | some path => pure (some path)
    | none => Settings.discover s.directory (s.home.map Settings.globalPath)
  match path? with
  | none => return .ok (Settings.standard.apply i.overrides)
  | some path =>
    match ← (Settings.load path : m (Except SettingsError Settings)) with
    | .ok settings => return .ok (settings.apply i.overrides)
    | .error e => return .error (settingsProblem path e)

/-- Do what an invocation asks for. -/
def perform (s : Surroundings) (settings : Settings) : Action → m Outcome
  | .run file function args =>
    withProgram s.styled file fun p =>
      return runLoaded s.styled settings p function args (inputLines s.input)
  | .dump file output tree => withProgram s.styled file fun p => dumpProgram s.styled p output tree
  | .console files => runConsole s settings files
  | .init => createSettings s.styled

/-- What the program does with its arguments. -/
def outcome (s : Surroundings) (args : List String) : m Outcome := do
  match Invocation.ofArguments args with
  | .error d => return d.outcome
  | .ok i =>
    match ← findSettings s i with
    | .ok settings => perform s settings i.action
    | .error problem => return .failure 2 (errorLine s.styled problem)

end CellScript.CommandLine
