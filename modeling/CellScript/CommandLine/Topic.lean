import CellScript.Decimal.Numeral
import CellScript.Session.Command

/-!
# Topics of the command line

The command line has a main topic and one for each action. A topic says which switches and operands
may follow it, and its help is made from that.

## Main definitions

* `Switch`, `Operand`, `Topic` — what may stand on a command line.
* `Topic.root`, `Topic.actions` — the topics.
* `Topic.help` — the help on a topic.
-/

namespace CellScript.CommandLine

/-- What a value has to be. -/
inductive ValueKind where
  | path
  | text
  | number (bits : Nat)
  deriving DecidableEq, Repr

def ValueKind.accepts (kind : ValueKind) (value : String) : Bool :=
  match kind with
  | .path => !value.isEmpty
  | .text => true
  | .number bits => (Decimal.readUnsigned? bits value).isSome

/-- A switch with a long name and perhaps a short one; one without a kind is there or not. -/
structure Switch where
  name : String
  short : Option Char
  kind : Option ValueKind
  about : String
  deriving DecidableEq, Repr

/-- How many values an operand may have. -/
inductive Count where
  | one
  | many
  /-- all that follows two dashes -/
  | rest
  deriving DecidableEq, Repr

structure Operand where
  name : String
  count : Count
  about : String
  deriving DecidableEq, Repr

structure Topic where
  name : String
  about : String
  operands : List Operand
  switches : List Switch
  deriving DecidableEq, Repr

/-- The switches that all topics know. -/
def sharedSwitches : List Switch :=
  [⟨"config", none, some .path, "Use this configuration file instead of searching for drowse.toml"⟩,
    ⟨"taint", none, none, "Track tainted data from consoles, sockets and processes"⟩,
    ⟨"debug", none, some (.number 32),
      "Debug level (1 errors, 2 warnings, 4 strict, 8 trace, 24 profile)"⟩,
    ⟨"max-depth", none, some (.number 64), "Maximum call depth before a stack overflow fault"⟩]

namespace Topic

def run : Topic where
  name := "run"
  about := "Run a .json or .dwc program image"
  operands := [⟨"FILE", .one, ""⟩, ⟨"ARGS", .rest, "Arguments for --call"⟩]
  switches :=
    ⟨"call", none, some .text, "Call this function after the top-level block has run"⟩ ::
    sharedSwitches

def dump : Topic where
  name := "dump"
  about := "Print a program image as JSON, or convert it to another format"
  operands := [⟨"FILE", .one, ""⟩]
  switches :=
    ⟨"output", some 'o', some .path, "Output path; the extension picks the format"⟩ ::
      sharedSwitches.take 2 ++ ⟨"tree", none, none, "Print the instruction tree instead of JSON"⟩ ::
      sharedSwitches.drop 2

def console : Topic where
  name := "console"
  about := "Start the interactive console, optionally preloading programs"
  operands := [⟨"FILES", .many, ""⟩]
  switches := sharedSwitches

def init : Topic where
  name := "init"
  about := "Create a drowse.toml in the current directory"
  operands := []
  switches := sharedSwitches

/-- The topic before the name of an action. -/
def root : Topic where
  name := ""
  about := "Run compiled Drowse programs"
  operands := []
  switches := sharedSwitches

def actions : List Topic :=
  [run, dump, console, init]

/-! ## Help -/

def helpSwitch : Switch :=
  ⟨"help", some 'h', none, "Print help"⟩

def versionSwitch : Switch :=
  ⟨"version", some 'V', none, "Print version"⟩

/-- The name of a value: in capitals, words joined by underscores. -/
def placeholder (name : String) : String :=
  "<" ++ String.ofList (name.toList.map fun c => if c = '-' then '_' else c.toUpper) ++ ">"

def describeSwitch (s : Switch) : String :=
  (match s.short with
    | some c => String.ofList ['-', c, ',', ' ']
    | none => "    ") ++
    "--" ++ s.name ++ (if s.kind.isSome then " " ++ placeholder s.name else "")

def describeOperand (o : Operand) : String :=
  match o.count with
  | .one => "<" ++ o.name ++ ">"
  | .many => "[" ++ o.name ++ "]..."
  | .rest => "[" ++ o.name ++ "]..."

def usageOfOperand (o : Operand) : String :=
  match o.count with
  | .rest => "[-- <" ++ o.name ++ ">...]"
  | _ => describeOperand o

/-- Lines of two columns under a heading. -/
def columns (heading : String) (rows : List (String × String)) : List String :=
  if rows.isEmpty then []
  else
    let width := rows.foldl (fun width row => max width row.1.length) 0
    "" :: heading :: rows.map fun (left, right) => "  " ++ padRight width left ++ "  " ++ right

def isRoot (t : Topic) : Bool :=
  t.name.isEmpty

def usage (t : Topic) : String :=
  let words := if t.isRoot then ["drowse", "[OPTIONS]", "<COMMAND>"]
    else ["drowse", t.name, "[OPTIONS]"] ++ t.operands.map usageOfOperand
  "Usage: " ++ " ".intercalate words

/-- The help on a topic. -/
def help (t : Topic) : String :=
  let commands := if t.isRoot then
      actions.map (fun a => (a.name, a.about)) ++
        [("help", "Print this message or the help of the given subcommand(s)")]
    else []
  let operands := t.operands.map fun o => (describeOperand o, o.about)
  let switches := t.switches ++ helpSwitch :: if t.isRoot then [versionSwitch] else []
  let lines :=
    [t.about, "", t.usage] ++ columns "Commands:" commands ++ columns "Arguments:" operands ++
    columns "Options:" (switches.map fun s => (describeSwitch s, s.about))
  "\n".intercalate lines ++ "\n"

end Topic

end CellScript.CommandLine
