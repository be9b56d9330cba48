import CellScript.Machine.Policy

/-!
# Arguments of library functions

## Main definitions

* `argument`, `sequenceArgument`, `tableArgument`, `functionArgument` — arguments by position.
-/

namespace CellScript.Library

/-- The argument at a position, an empty value if there is none. -/
def argument (args : List CellRef) (i : Nat) : Run CellRef :=
  match args[i]? with
  | some cell => return cell
  | none => HeapM.null

/-- The plain text of the argument at a position. -/
def textArgument (args : List CellRef) (i : Nat) : Run String :=
  match args[i]? with
  | some cell => Run.askHeap (·.text cell)
  | none => return ""

def intArgument (args : List CellRef) (i : Nat) : Run Int64 :=
  match args[i]? with
  | some cell => Run.askHeap (·.cellInt cell)
  | none => return 0

/-- The content of the argument at a position. -/
def contentArgument (args : List CellRef) (i : Nat) : Run Content :=
  match args[i]? with
  | some cell => Run.askHeap (·.content cell)
  | none => return .null

def sequenceArgument (function : String) (args : List CellRef) (i : Nat) : Run SequenceRef := do
  match ← contentArgument args i with
  | .sequence s => return s
  | other => Run.fail (.badCast (.argument function (i + 1) "an array" other.typeName))

def tableArgument (function : String) (args : List CellRef) (i : Nat) : Run TableRef := do
  match ← contentArgument args i with
  | .table t => return t
  | other => Run.fail (.badCast (.argument function (i + 1) "a hash" other.typeName))

/-- An argument that has to be a function; the cell is what gets called. -/
def functionArgument (function : String) (args : List CellRef) (i : Nat) : Run CellRef := do
  let cell ← argument args i
  match ← Run.askHeap (·.content cell) with
  | .function _ => return cell
  | other => Run.fail (.badCast (.argument function (i + 1) "a function" other.typeName))

/-- The element cells of a sequence. -/
def snapshot (s : SequenceRef) : Run (List CellRef) :=
  HeapM.consult (·.sequences.snapshot s)

/-- An empty value. -/
def nothing : Run CellRef :=
  HeapM.null

end CellScript.Library
