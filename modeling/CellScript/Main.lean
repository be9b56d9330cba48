import CellScript.CommandLine.Outcome

/-!
# The program

Input and output around the command line. On a terminal a line is only read when it is asked for:
what asked for it is then done once more with that line, which gives the same output up to there.
-/

namespace CellScript

def FileError.ofSystem : IO.Error → FileError
  | .noFileOrDirectory .. => .missing
  | e => .system (toString e)

/-- Try something with a file. -/
def tryFile {α : Type} (action : IO α) : IO (Except FileError α) := do
  try return .ok (← action)
  catch e => return .error (.ofSystem e)

instance : FileAccess IO where
  read path := tryFile (do return (← IO.FS.readBinFile path).toList)
  write path content := tryFile (IO.FS.writeBinFile path ⟨content.toArray⟩)
  isKnown path := do return (← tryFile (IO.FS.Handle.mk path .read)).toOption.isSome
  isFile path := do return (← tryFile (IO.FS.readBinFile path)).toOption.isSome

namespace CommandLine

/-- Standard input up to its end. -/
partial def readInput (input : IO.FS.Stream) (text : String) : IO String := do
  let line ← input.getLine
  if line.isEmpty then return text else readInput input (text ++ line)

/-- Write a text without its first `shown` characters. -/
def showFrom (shown : Nat) (text : String) : IO Unit := do
  IO.print (String.ofList (text.toList.drop shown))
  (← IO.getStdout).flush

/-- Run something over the lines that a user types in as it asks for them. -/
partial def ask {α : Type} (attempt : String → IO (α × String × Option String)) (typed : String)
    (shown : Nat) :
    IO α := do
  let (result, output, unanswered) ← attempt typed
  if let some asked := unanswered then
    showFrom shown asked
    let line ← (← IO.getStdin).getLine
    if line.isEmpty then
      showFrom asked.length output
      return result
    ask attempt (typed ++ line) asked.length
  else
    showFrom shown output
    return result

/-- Follow a line of a session; whether the session goes on. -/
def follow (line : String) (session : Session) : IO (Bool × Session) :=
  ask (fun typed => do
    let console := Console.screen (Text.lines typed) false
    let work : StateT Session IO Bool := do
      Session.changeConsole fun _ => console
      Session.execute line
    let (goes, session) ← work.run session
    let console := session.engine.machine.console
    return ((goes, session), console.output, console.unanswered)) "" 0

/-- Follow the lines of a session as a user types them in, and keep them. -/
partial def converse (prompt : String) (session : Session) (kept : List String) :
    IO (List String) := do
  showFrom 0 prompt
  let typed ← (← IO.getStdin).getLine
  if typed.isEmpty then return kept.reverse
  let line := (Text.lines typed).headD ""
  let (goes, session) ← follow line session
  let kept := line :: kept
  if goes then converse prompt session kept else return kept.reverse

/-- Add lines to the history. -/
def keepHistory (path : String) (lines : List String) : IO Unit := do
  let before := (← tryFile (IO.FS.readFile path)).toOption.getD ""
  if let some directory := Path.parent? path then
    unless directory.isEmpty do discard <| tryFile (IO.FS.createDirAll directory)
  discard <| tryFile (IO.FS.writeFile path (before ++ String.join (lines.map (· ++ "\n"))))

/-- The console on a terminal. -/
def talk (s : Surroundings) (settings : Settings) (files : List String) : IO Unit := do
  let (_, session) ← (openSession files).run (newSession s.styled settings [])
  showFrom 0 session.engine.machine.console.output
  let lines ← converse settings.prompt session []
  let set := (← IO.getEnv "DROWSE_HISTORY").or settings.history
  if let some path := Settings.historyPath s.home set then keepHistory path lines

/-- Write an outcome; its exit code. -/
def finish (o : Outcome) : IO UInt32 := do
  showFrom 0 o.output
  IO.eprint o.errors
  return UInt32.ofNat o.code

def start (s : Surroundings) (args : List String) : IO UInt32 := do
  match Invocation.ofArguments args with
  | .error d => finish d.outcome
  | .ok i =>
    match ← findSettings s i with
    | .error problem => finish (.failure 2 (errorLine s.styled problem))
    | .ok settings =>
      let input ← IO.getStdin
      let isTerminal ← input.isTty
      match i.action with
      | .console files =>
        if isTerminal then
          talk s settings files
          return 0
        finish (← runConsole { s with input := ← readInput input "" } settings files)
      | .run .. =>
        if isTerminal then
          let o ← ask (fun typed => do
            let o : Outcome ← perform { s with input := typed } settings i.action
            return (o, o.output, o.unanswered)) "" 0
          finish { o with output := "" }
        else finish (← perform { s with input := ← readInput input "" } settings i.action)
      | _ => finish (← perform s settings i.action)

end CommandLine

end CellScript

def main (args : List String) : IO UInt32 := do
  CellScript.CommandLine.start
    { styled := (← IO.getEnv "NO_COLOR").isNone
      directory := toString (← IO.currentDir)
      home := ← IO.getEnv "HOME"
      input := "" } args
