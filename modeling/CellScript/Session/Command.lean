import CellScript.Decimal.Numeral
import CellScript.Text.Category

/-!
# Console commands

A command line is a verb and its operands, separated by white space. Operands that a verb does not
ask for are ignored. What the console answers is text in colours and weights, with control sequences
around it.

## Main definitions

* `Style` — the styles in use; `Style.paint` — a text in a style.
* `padRight`, `padLeft` — text filled up to a width.
* `Verb` — the verbs, each with its operands and what it is for.
* `Command` — a verb with its operands.
* `Request.ofLine` — what a line asks for.
-/

namespace CellScript

/-! ## Styles -/

inductive Style where
  | green
  | red
  | yellow
  | cyan
  | bold
  | gray
  /-- for the label of what was done -/
  | status
  deriving DecidableEq, Repr

def Style.code : Style → String
  | .green => "32"
  | .red => "31"
  | .yellow => "33"
  | .cyan => "36"
  | .bold => "1"
  | .gray => "90"
  | .status => "1;32"

/-- A text in a style, or as it is where no styles are wanted. -/
def Style.paint (style : Style) (styled : Bool) (text : String) : String :=
  if styled then "\x1b[" ++ style.code ++ "m" ++ text ++ "\x1b[0m" else text

/-- A text with blanks after it up to a width. -/
def padRight (width : Nat) (text : String) : String :=
  text ++ String.ofList (List.replicate (width - text.length) ' ')

/-- A text with blanks before it up to a width. -/
def padLeft (width : Nat) (text : String) : String :=
  String.ofList (List.replicate (width - text.length) ' ') ++ text

/-- The label of what was done, in a column of its own. -/
def statusLabel (styled : Bool) (label : String) : String :=
  Style.status.paint styled (padLeft 12 label)

/-! ## Verbs -/

inductive Verb where
  | help
  | load
  | unload
  | list
  | run
  | tree
  | env
  | debug
  | profile
  | clear
  | quit
  deriving DecidableEq, Repr

namespace Verb

/-- All verbs in the order of the help. -/
def all : List Verb :=
  [.help, .load, .unload, .list, .run, .tree, .env, .debug, .profile, .clear, .quit]

/-- A verb with its operands. -/
def usage : Verb → String
  | .help => "help"
  | .load => "load <file>"
  | .unload => "unload <name>"
  | .list => "list"
  | .run => "run <name>"
  | .tree => "tree <name>"
  | .env => "env <name>"
  | .debug => "debug <name> <level>"
  | .profile => "profile <name>"
  | .clear => "clear"
  | .quit => "quit"

def purpose : Verb → String
  | .help => "Show this help"
  | .load => "Load a .json or .dwc program image"
  | .unload => "Forget a loaded script"
  | .list => "List loaded scripts"
  | .run => "Run a script's top-level block"
  | .tree => "Print a script's instruction tree"
  | .env => "Show functions, operators, predicates and globals"
  | .debug => "Set a script's debug level"
  | .profile => "Show profiler statistics"
  | .clear => "Clear the screen"
  | .quit => "Leave the console"

/-- The verb of a word; three words are short for a verb. -/
def ofWord? : String → Option Verb
  | "help" | "?" => some .help
  | "load" => some .load
  | "unload" => some .unload
  | "list" | "ls" => some .list
  | "run" => some .run
  | "tree" => some .tree
  | "env" => some .env
  | "debug" => some .debug
  | "profile" => some .profile
  | "clear" => some .clear
  | "quit" | "exit" => some .quit
  | _ => none

end Verb

/-- A verb with its operands. -/
inductive Command where
  | help
  | load (path : String)
  | unload (name : String)
  | list
  | run (name : String)
  | tree (name : String)
  | env (name : String)
  | debug (name : String) (level : Nat)
  | profile (name : String)
  | clear
  | quit
  deriving DecidableEq, Repr

/-- The command of a verb with operands; `rest` is their text as it was written. -/
def Command.ofOperands? (verb : Verb) (operands : List String) (rest : String) : Option Command :=
  match verb with
  | .help => some .help
  | .load => if rest.isEmpty then none else some (.load rest)
  | .unload => operands.head?.map .unload
  | .list => some .list
  | .run => operands.head?.map .run
  | .tree => operands.head?.map .tree
  | .env => operands.head?.map .env
  | .debug => do
    let level ← Decimal.readUnsigned? 32 (← operands[1]?)
    return .debug (← operands.head?) level
  | .profile => operands.head?.map .profile
  | .clear => some .clear
  | .quit => some .quit

/-- What a line asks for. -/
inductive Request where
  | empty
  | unknown (word : String)
  /-- operands are missing or wrong -/
  | misused (verb : Verb)
  | command (c : Command)
  deriving DecidableEq, Repr

/-- How to use a verb. -/
def Verb.hint (v : Verb) : String :=
  "usage: " ++ v.usage

/-- What a line asks for. -/
def Request.ofLine (line : String) : Request :=
  match Text.words line with
  | [] => .empty
  | word :: operands =>
    match Verb.ofWord? word with
    | none => .unknown word
    | some verb =>
      let rest := Text.trim (String.ofList ((Text.trimStart line).toList.drop word.length))
      ((Command.ofOperands? verb operands rest).map .command).getD (.misused verb)

end CellScript
