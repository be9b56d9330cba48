import CellScript.CommandLine.Topic
import CellScript.Settings

/-!
# Invocations

Reading the arguments of the program. They are followed in order, and the first one that asks for
help or for the version, or that does not fit, decides.

## Main definitions

* `Action`, `Invocation` — what is to be done, and with which settings.
* `Departure` — why nothing is to be done.
* `Invocation.ofArguments` — what arguments ask for.
-/

namespace CellScript.CommandLine

inductive Action where
  /-- run the program of a file, then call one of its functions, if one is named -/
  | run (file : String) (function : Option String) (args : List String)
  | dump (file : String) (output : Option String) (tree : Bool)
  | console (files : List String)
  | init
  deriving DecidableEq, Repr

structure Invocation where
  action : Action
  /-- the file with the settings, if it is named -/
  config : Option String
  overrides : Overrides
  deriving Repr

/-- Why nothing is to be done. -/
inductive Departure where
  | help (t : Topic)
  | version
  | misuse
  deriving DecidableEq, Repr

/-- What the arguments of a topic gave. -/
structure Reading where
  /-- switches with their values, the latest first -/
  switches : List (String × String)
  /-- operands, the latest first -/
  operands : List String
  /-- what follows two dashes, where it has a meaning of its own -/
  rest : List String
  deriving Inhabited, Repr

/-- The shape of an argument. -/
inductive Argument where
  | dashes
  | long (name : String) (value : Option String)
  | short (letter : Char) (more : List Char)
  | plain (text : String)

def Argument.ofText (text : String) : Argument :=
  match text.toList with
  | ['-', '-'] => .dashes
  | '-' :: '-' :: cs =>
    let name := cs.takeWhile (· ≠ '=')
    match cs.drop name.length with
    | _ :: value => .long (String.ofList name) (some (String.ofList value))
    | [] => .long (String.ofList name) none
  | '-' :: letter :: more => .short letter more
  | _ => .plain text

namespace Topic

/-- Add an operand, where one more is allowed. -/
def addOperand (t : Topic) (r : Reading) (value : String) : Except Departure Reading :=
  let isRoom :=
    t.operands.any (·.count = .many) ||
    r.operands.length < (t.operands.filter (·.count = .one)).length
  if isRoom && ValueKind.path.accepts value then .ok { r with operands := value :: r.operands }
    else .error .misuse

/-- Add what follows two dashes. -/
def addRest (t : Topic) (r : Reading) (values : List String) : Except Departure Reading :=
  if t.operands.any (·.count = .rest) then .ok { r with rest := values }
    else values.foldlM t.addOperand r

/-- Set a switch that is not set yet. -/
def setSwitch (r : Reading) (s : Switch) (value : String) : Except Departure Reading :=
  if r.switches.any (·.1 = s.name) || !(s.kind.all (·.accepts value)) then .error .misuse
  else .ok { r with switches := (s.name, value) :: r.switches }

/-- The value of a switch that is the next argument, and the arguments after it. -/
def nextValue : List String → Except Departure (String × List String)
  | value :: rest =>
    match Argument.ofText value with
    | .plain _ => .ok (value, rest)
    | _ => .error .misuse
  | [] => .error .misuse

/-- What a switch asks for that all topics know, or only the main one. -/
def departure? (t : Topic) (isAsked : Switch → Bool) : Option Departure :=
  if isAsked helpSwitch then some (.help t)
  else if t.isRoot && isAsked versionSwitch then some .version
  else none

/-- Follow the arguments of a topic. The main topic ends with the name of an action, before which
the rest of the arguments is left. Every call uses up fuel, and none needs more than there are
arguments. -/
def read (t : Topic) : Nat → List String → Reading → Except Departure (Reading × List String)
  | _, [], r => .ok (r, [])
  | 0, _, _ => .error .misuse
  | fuel + 1, arg :: rest, r =>
    match Argument.ofText arg with
    | .dashes => (t.addRest r rest).map (·, [])
    | .plain text =>
      if t.isRoot then .ok (r, arg :: rest) else (t.addOperand r text).bind (read t fuel rest)
    | .long name value? => do
      if value?.isNone then
        if let some d := t.departure? (·.name = name) then throw d
      let some s := t.switches.find? (·.name = name) | throw .misuse
      match s.kind, value? with
      | none, none => read t fuel rest (← setSwitch r s "")
      | none, some _ => throw .misuse
      | some _, some value => read t fuel rest (← setSwitch r s value)
      | some _, none =>
        let (value, rest) ← nextValue rest
        read t fuel rest (← setSwitch r s value)
    | .short letter more => do
      if let some d := t.departure? (·.short = some letter) then throw d
      let some s := t.switches.find? (·.short = some letter) | throw .misuse
      match more with
      | [] =>
        let (value, rest) ← nextValue rest
        read t fuel rest (← setSwitch r s value)
      | '=' :: value => read t fuel rest (← setSwitch r s (String.ofList value))
      | value => read t fuel rest (← setSwitch r s (String.ofList value))

end Topic

/-- The value of a switch where it was set last: after the action, else before it. -/
def Reading.value? (before after : Reading) (name : String) : Option String :=
  (after.switches.lookup name).or (before.switches.lookup name)

/-- The action of a topic with its arguments. -/
def Action.ofReading? (t : Topic) (r : Reading) : Option Action :=
  let value (name : String) := r.switches.lookup name
  match t.name, r.operands.reverse with
  | "run", [file] => some (.run file (value "call") r.rest)
  | "dump", [file] => some (.dump file (value "output") (value "tree").isSome)
  | "console", files => some (.console files)
  | "init", _ => some .init
  | _, _ => none

/-- The departure of a question for help. -/
def helpOn : List String → Departure
  | [] => .help .root
  | [name] => ((Topic.actions.find? (·.name = name)).map .help).getD .misuse
  | _ => .misuse

/-- What arguments ask for. -/
def Invocation.ofArguments (args : List String) : Except Departure Invocation := do
  let fuel := args.length
  let (before, rest) ← Topic.root.read fuel args default
  let name :: rest := rest | throw .misuse
  if name = "help" then throw (helpOn rest)
  let some topic := Topic.actions.find? (·.name = name) | throw .misuse
  let (after, _) ← topic.read fuel rest default
  let some action := Action.ofReading? topic after | throw .misuse
  let value? := Reading.value? before after
  let number? (bits : Nat) (name : String) := (value? name).bind (Decimal.readUnsigned? bits)
  return { action
           config := value? "config"
           overrides :=
             ⟨(value? "taint").map fun _ => true, number? 64 "max-depth", number? 32 "debug"⟩ }

end CellScript.CommandLine
