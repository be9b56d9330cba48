import CellScript.Io.Handle
import CellScript.Program.Basic
import CellScript.Sequence.View
import CellScript.Table

/-!
# The heap

All values that are shared by reference live in a heap: cells, sequences, maps, host objects,
functions and containers of variables. References are indexes into it; nothing is ever taken out.

## Main definitions

* `ScopeLevel`, `IterState`, `Suspension` — what a suspended closure keeps.
* `Callable` — closures, functions by name and functions of the host.
* `HostObject` — objects of the host.
* `Heap`, `HeapM` — the heap and operations on it.
-/

namespace CellScript

/-- The variables of a call: the container of the call itself, containers pushed on top of it,
newest first, and the private variables of a closure. -/
structure ScopeLevel where
  base : VarsRef
  inner : List VarsRef
  this : Option VarsRef
  deriving DecidableEq, Inhabited, Repr

/-- What a `foreach` loop walks over. -/
inductive IterSource where
  | sequence (s : SequenceRef)
  | table (t : TableRef) (keys : List String)
  /-- a function that is called for each value until it returns the empty value -/
  | generator (function : CellRef)
  | empty
  deriving DecidableEq, Repr

/-- A `foreach` loop in progress. -/
structure IterState where
  key : Option String
  value : String
  source : IterSource
  position : Nat
  deriving DecidableEq, Repr

/-- A position inside a closure body: an entry for each block and branch on the way to it, outermost
first. -/
abbrev Cursor := List Nat

/-- What a closure keeps between a `yield` and its next call. -/
structure Suspension where
  cursor : Cursor
  level : Option ScopeLevel
  /-- newest first -/
  iterators : List IterState

/-- A closure of a script. -/
structure Closure where
  owner : ScriptRef
  body : Block
  /-- private variables -/
  this : VarsRef
  source : Option String
  name : Option String
  /-- the definition it comes from, zero for an anonymous closure -/
  site : Nat
  suspension : Option Suspension

/-- What a function of the host does. -/
inductive HostReply where
  /-- returns its first argument, or the empty value -/
  | first
  /-- returns the message, or the empty value -/
  | message
  /-- returns the number of arguments -/
  | count
  | give (cell : CellRef)
  | throw (cell : CellRef)
  | fail (fault : Fault)
  deriving Repr

/-- Something that can be called. -/
inductive Callable where
  | closure (c : Closure)
  /-- the function of this name in a script -/
  | named (name : String) (owner : ScriptRef)
  | host (name : String) (reply : HostReply)

instance : Inhabited Callable := ⟨.host "" .first⟩

/-- An object of the host. -/
inductive HostObject where
  | pair (key value : CellRef)
  | text (s : String)
  | builder (s : String)
  | handle (label : String) (h : Handle)
  /-- a connection that is made in the background -/
  | task (u : Undertaking Connection)
  | labelled (className label : String)
  /-- a function that stands in for an interface -/
  | proxy (function : FunctionRef) (interface : String)
  deriving Inhabited

/-- The heap. -/
structure Heap where
  cells : Array Value
  sequences : Sequences
  tables : Array Table
  objects : Array HostObject
  functions : Array Callable
  vars : Array (Dictionary CellRef)

instance : Inhabited Heap := ⟨⟨#[], .empty, #[], #[], #[], #[]⟩⟩

/-- An operation on a heap. -/
abbrev HeapM (α : Type) := ExceptT Fault (StateM Heap) α

namespace Heap

def empty : Heap :=
  ⟨#[], .empty, #[], #[], #[], #[]⟩

/-- The value that a cell holds. -/
def get (h : Heap) (cell : CellRef) : Value :=
  h.cells.getD cell.index .null

/-- Replace the value that a cell holds. -/
def set (h : Heap) (cell : CellRef) (value : Value) : Heap :=
  { h with cells := h.cells.setIfInBounds cell.index value }

/-- A new cell. -/
def alloc (h : Heap) (value : Value) : CellRef × Heap :=
  (⟨h.cells.size⟩, { h with cells := h.cells.push value })

def content (h : Heap) (cell : CellRef) : Content :=
  (h.get cell).content

def isNull (h : Heap) (cell : CellRef) : Bool :=
  (h.get cell).isNull

def isTainted (h : Heap) (cell : CellRef) : Bool :=
  (h.get cell).tainted

def table (h : Heap) (t : TableRef) : Table :=
  h.tables.getD t.index default

def modifyTable (h : Heap) (t : TableRef) (f : Table → Table) : Heap :=
  { h with tables := h.tables.modify t.index f }

def object (h : Heap) (o : ObjectRef) : HostObject :=
  h.objects.getD o.index default

def setObject (h : Heap) (o : ObjectRef) (object : HostObject) : Heap :=
  { h with objects := h.objects.setIfInBounds o.index object }

def callable (h : Heap) (f : FunctionRef) : Callable :=
  h.functions.getD f.index default

def closure? (h : Heap) (f : FunctionRef) : Option Closure :=
  match h.callable f with
  | .closure c => some c
  | _ => none

def setSuspension (h : Heap) (f : FunctionRef) (s : Option Suspension) : Heap :=
  { h with
    functions := h.functions.modify f.index fun
      | .closure c => .closure { c with suspension := s }
      | other => other }

/-! ## Variables -/

def findVariable? (h : Heap) (vars : VarsRef) (name : String) : Option CellRef :=
  (h.vars.getD vars.index default).get? name

def hasVariable (h : Heap) (vars : VarsRef) (name : String) : Bool :=
  (h.findVariable? vars name).isSome

def variableNames (h : Heap) (vars : VarsRef) : List String :=
  (h.vars.getD vars.index default).keys

def putVariable (h : Heap) (vars : VarsRef) (name : String) (cell : CellRef) : Heap :=
  { h with vars := h.vars.modify vars.index (·.insert name cell) }

def removeVariable (h : Heap) (vars : VarsRef) (name : String) : Heap :=
  { h with vars := h.vars.modify vars.index (·.erase name) }

/-- A container without variables. -/
def newVars (h : Heap) : VarsRef × Heap :=
  (⟨h.vars.size⟩, { h with vars := h.vars.push .empty })

/-! ## Maps, without their policies -/

/-- Keys and cells in map order, without the keys that hold the empty value. -/
def entries (h : Heap) (t : TableRef) : List (String × CellRef) :=
  (h.table t).listing.filter fun (_, cell) => !h.isNull cell

/-- The number of keys that do not hold the empty value. -/
def count (h : Heap) (t : TableRef) : Nat :=
  ((h.table t).entries.values.filter fun entry => !h.isNull entry.cell).length

/-- Whether a key holds something else than the empty value. -/
def containsKey (h : Heap) (t : TableRef) (key : String) : Bool :=
  ((h.table t).peek key).any fun cell => !h.isNull cell

/-! ## Sequences -/

/-- The element cells of a sequence, none when it is stale. -/
def elements (h : Heap) (s : SequenceRef) : List CellRef :=
  (h.sequences.snapshot s).toOption.getD []

end Heap

namespace HeapM

/-- A question to the heap. -/
def ask {α : Type} (f : Heap → α) : HeapM α := fun h =>
  (.ok (f h), h)

/-- A question to the heap that may fail. -/
def consult {α : Type} (f : Heap → Except Fault α) : HeapM α := fun h =>
  (f h, h)

def change (f : Heap → Heap) : HeapM Unit := fun h =>
  (.ok (), f h)

/-- An operation on the sequences of a heap. -/
def onSequences {α : Type} (edit : Sequences.Edit α) : HeapM α := fun h =>
  let q := h.sequences
  let h := { h with sequences := .empty }
  let (result, q) := edit q
  (result, { h with sequences := q })

/-- A new cell. -/
def alloc (value : Value) : HeapM CellRef := fun h =>
  let (cell, h) := h.alloc value
  (.ok cell, h)

/-- A new cell of clean content. -/
def cell (content : Content) : HeapM CellRef :=
  alloc (.clean content)

def null : HeapM CellRef :=
  cell .null

def text (s : String) : HeapM CellRef :=
  cell (.text s)

def int (n : Int64) : HeapM CellRef :=
  cell (.int n)

def get (c : CellRef) : HeapM Value :=
  ask (·.get c)

def content (c : CellRef) : HeapM Content :=
  ask (·.content c)

def set (c : CellRef) (value : Value) : HeapM Unit :=
  change (·.set c value)

/-- A new cell that holds what another one holds. -/
def copy (c : CellRef) : HeapM CellRef := do
  alloc (← get c)

/-- Let a cell hold what another one holds. -/
def assign (target source : CellRef) : HeapM Unit := do
  if target != source then
    set target (← get source)

/-- A new sequence of cells. -/
def newSequence (cells : List CellRef) : HeapM SequenceRef :=
  onSequences (Sequences.create cells)

/-- A new cell with a new sequence of cells. -/
def sequence (cells : List CellRef) : HeapM CellRef := do
  cell (.sequence (← newSequence cells))

def newTable (mode : MapOrder) : HeapM TableRef := fun h =>
  (.ok ⟨h.tables.size⟩, { h with tables := h.tables.push (.empty mode) })

def newObject (object : HostObject) : HeapM ObjectRef := fun h =>
  (.ok ⟨h.objects.size⟩, { h with objects := h.objects.push object })

/-- A new cell with a new object. -/
def object (object : HostObject) : HeapM CellRef := do
  cell (.object (← newObject object))

def newFunction (callable : Callable) : HeapM FunctionRef := fun h =>
  (.ok ⟨h.functions.size⟩, { h with functions := h.functions.push callable })

def newVars : HeapM VarsRef := fun h =>
  let (vars, h) := h.newVars
  (.ok vars, h)

/-- The element cell at an index. A sequence grows by empty cells when the index is past its end. -/
def element (s : SequenceRef) (index : Int) : HeapM CellRef := do
  let missing ← consult (·.sequences.missing s index)
  if missing = 0 then
    match ← consult (·.sequences.find? s index) with
    | some cell => return cell
    | none => null
  else
    let new ← (List.replicate missing ()).mapM fun _ => null
    onSequences (Sequences.append s new)
    return new.getLastD default

/-- Remove every element equal to a value; the result is how many went. -/
def removeEqual (s : SequenceRef) (value : Value) : HeapM Nat := do
  let h ← ask id
  onSequences (Sequences.removeWhere s fun cell => (h.get cell).same value)

/-- The cell of a key; in access order this makes it the youngest. -/
def lookup (t : TableRef) (key : String) : HeapM (Option CellRef) := do
  match ← ask fun h => (h.table t).peek key with
  | none => return none
  | some cell =>
    change fun h => h.modifyTable t (·.touchIfAccessed key)
    return some cell

end HeapM

end CellScript
