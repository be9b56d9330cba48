import CellScript.Library.Basic
import CellScript.Sort

/-!
# Sequences and maps

The library functions on sequences and maps.

## Main definitions

* `naturalOrder` — the order of `&sort` without a comparison.
* `size`, `push`, `add`, `sort`, `map`, … — the functions.
-/

namespace CellScript.Library

/-- Numbers by amount, everything else by text. -/
def naturalOrder (h : Heap) (a b : CellRef) : Ordering :=
  if (h.content a).isNumber && (h.content b).isNumber then compareFloats (h.cellFloat a)
    (h.cellFloat b)
  else compareTexts (h.text a) (h.text b)

/-- A new sequence of copies. -/
def copies (items : List CellRef) : HeapM CellRef := do
  HeapM.sequence (← items.mapM HeapM.copy)

/-- The key and a copy of the value of a pair. -/
def pairOf? (cell : CellRef) : HeapM (Option (String × CellRef)) := do
  match ← HeapM.content cell with
  | .object o =>
    match ← HeapM.ask (·.object o) with
    | .pair key value => return some (← HeapM.ask (·.text key), ← HeapM.copy value)
    | _ => return none
  | _ => return none

/-- A new map with the pairs among the arguments, all of which have to be pairs. -/
def tableOfPairs (self : Reentry) (function : String) (mode : MapOrder)
    (args : List CellRef) : Run CellRef := do
  let t ← HeapM.newTable mode
  for cell in args do
    match ← pairOf? cell with
    | some (key, value) => Table.put self t key value
    | none => Run.fail (.badCast (.pairWantedFor function (← Run.askHeap (·.describe cell))))
  HeapM.cell (.table t)

def size (args : List CellRef) : Run CellRef := do
  match ← contentArgument args 0 with
  | .sequence s => HeapM.int (Int64.ofNat (← HeapM.consult (·.sequences.length s)))
  | .table t => HeapM.int (Int64.ofNat (← Run.askHeap (·.count t)))
  | .null => HeapM.int 0
  | _ => HeapM.int 1

/-- Add copies at the end; the result is the last of them. -/
def push (args : List CellRef) : Run CellRef := do
  let s ← sequenceArgument "&push" args 0
  let mut last ← nothing
  for cell in args.drop 1 do
    last ← HeapM.copy cell
    HeapM.onSequences (Sequences.push s last)
  return last

def pop (args : List CellRef) : Run CellRef := do
  let s ← sequenceArgument "&pop" args 0
  match ← HeapM.onSequences (Sequences.pop s) with
  | some cell => return cell
  | none => nothing

def shift (args : List CellRef) : Run CellRef := do
  let s ← sequenceArgument "&shift" args 0
  match ← HeapM.onSequences (Sequences.shift s) with
  | some cell => return cell
  | none => nothing

/-- Add copies at the front, in the order of the arguments. -/
def unshift (args : List CellRef) : Run CellRef := do
  let s ← sequenceArgument "&unshift" args 0
  for cell in (args.drop 1).reverse do
    let new ← HeapM.copy cell
    HeapM.onSequences (Sequences.unshift s new)
  argument args 0

/-- Insert into a sequence at an index, at the front without one; or put pairs into a map. -/
def add (self : Reentry) (args : List CellRef) : Run CellRef := do
  let target ← argument args 0
  match ← Run.askHeap (·.content target) with
  | .table t =>
    for cell in args.drop 1 do
      match ← pairOf? cell with
      | some (key, value) => Table.put self t key value
      | none => Run.fail (.badCast .pairWanted)
    return target
  | _ =>
    let s ← sequenceArgument "&add" args 0
    let index ← intArgument args 2
    let new ← HeapM.copy (← argument args 1)
    HeapM.onSequences (Sequences.insert s index.toInt new)
    return target

/-- Remove equal elements from a sequence, or keys from a map. -/
def remove (args : List CellRef) : Run CellRef := do
  let target ← argument args 0
  match ← Run.askHeap (·.content target) with
  | .table t =>
    for cell in args.drop 1 do
      let key ← Run.askHeap (·.text cell)
      Run.changeHeap fun h => h.modifyTable t (·.remove key)
    return target
  | _ =>
    let s ← sequenceArgument "&remove" args 0
    for cell in args.drop 1 do
      let value ← Run.askHeap (·.get cell)
      let _ ← HeapM.removeEqual s value
    return target

def sublist (args : List CellRef) : Run CellRef := do
  let s ← sequenceArgument "&sublist" args 0
  let first ← intArgument args 1
  let last ← match args[2]? with
    | some cell => pure (← Run.askHeap (·.cellInt cell)).toInt
    | none => pure (Int.ofNat (← HeapM.consult (·.sequences.length s)))
  HeapM.cell (.sequence (← HeapM.onSequences (Sequences.sublist s first.toInt last)))

/-- A container with copies of what another one holds, or a copy of any other value. -/
def copy (self : Reentry) (args : List CellRef) : Run CellRef := do
  match ← contentArgument args 0 with
  | .sequence s => copies (← snapshot s)
  | .table t =>
    let new ← HeapM.newTable (← Run.askHeap fun h => (h.table t).mode)
    for (key, cell) in ← Run.askHeap (·.entries t) do
      Table.put self new key (← HeapM.copy cell)
    HeapM.cell (.table new)
  | _ => HeapM.copy (← argument args 0)

def reverse (args : List CellRef) : Run CellRef := do
  let items ← snapshot (← sequenceArgument "&reverse" args 0)
  HeapM.sequence items.reverse

/-- A sorted sequence of the element cells; with two arguments the first is the comparison. -/
def sort (self : Reentry) (args : List CellRef) : Run CellRef := do
  if args.length ≤ 1 then
    let items ← snapshot (← sequenceArgument "&sort" args 0)
    HeapM.sequence (← sortBy (fun a b => Run.askHeap fun h => naturalOrder h a b == .lt) items)
  else
    let comparison ← functionArgument "&sort" args 0
    let items ← snapshot (← sequenceArgument "&sort" args 1)
    HeapM.sequence (← sortBy (fun a b => do
      let verdict ← self.call comparison none [a, b]
      Run.askHeap fun h => h.cellInt verdict < 0) items)

def keys (args : List CellRef) : Run CellRef := do
  let t ← tableArgument "&keys" args 0
  let names ← Run.askHeap fun h => (h.entries t).map (·.1)
  HeapM.sequence (← Run.onHeap (names.mapM HeapM.text))

def values (args : List CellRef) : Run CellRef := do
  let t ← tableArgument "&values" args 0
  HeapM.sequence (← Run.askHeap fun h => (h.entries t).map (·.2))

def setMissPolicy (args : List CellRef) : Run CellRef := do
  let t ← tableArgument "&setMissPolicy" args 0
  let policy := match ← contentArgument args 1 with
    | .function f => some (MissPolicy.call f)
    | _ => none
  Run.changeHeap fun h => h.modifyTable t ({ · with miss := policy })
  argument args 0

def setRemovalPolicy (args : List CellRef) : Run CellRef := do
  let t ← tableArgument "&setRemovalPolicy" args 0
  let policy := match ← contentArgument args 1 with
    | .function f => some (RemovalPolicy.call f)
    | _ => none
  Run.changeHeap fun h => h.modifyTable t ({ · with removal := policy })
  argument args 0

def setCapacity (args : List CellRef) : Run CellRef := do
  let t ← tableArgument "&setCapacity" args 0
  let capacity ← match args[1]? with
    | none => pure none
    | some cell =>
      Run.askHeap fun h => if h.isNull cell then none else some (h.cellInt cell).toNatClampNeg
  Run.changeHeap fun h => h.modifyTable t ({ · with capacity := capacity })
  argument args 0

/-- Keys and values that alternate; a last key has no value. -/
def alternating : List CellRef → List (CellRef × Option CellRef)
  | [] => []
  | [key] => [(key, none)]
  | key :: value :: rest => (key, some value) :: alternating rest

/-- Each key with the value at its position. -/
def matched : List CellRef → List CellRef → List (CellRef × Option CellRef)
  | [], _ => []
  | key :: keys, values => (key, values.head?) :: matched keys values.tail

/-- Put copies of values under keys: those of a second sequence, or alternating with the keys in the
first. -/
def putAll (self : Reentry) (args : List CellRef) : Run CellRef := do
  let t ← tableArgument "&putAll" args 0
  let keys ← snapshot (← sequenceArgument "&putAll" args 1)
  let pairs ← match ← contentArgument args 2 with
    | .sequence s => pure (matched keys (← snapshot s))
    | _ => pure (alternating keys)
  for (key, value?) in pairs do
    let new ← match value? with
      | some value => HeapM.copy value
      | none => HeapM.null
    Table.put self t (← Run.askHeap (·.text key)) new
  argument args 0

/-- The results of a function for each element. -/
def map (self : Reentry) (args : List CellRef) : Run CellRef := do
  let function ← functionArgument "&map" args 0
  let items ← snapshot (← sequenceArgument "&map" args 1)
  HeapM.sequence (← items.mapM fun item => self.call function none [item])

/-- The elements for which a function gives a truthy value. -/
def filter (self : Reentry) (args : List CellRef) : Run CellRef := do
  let function ← functionArgument "&filter" args 0
  let items ← snapshot (← sequenceArgument "&filter" args 1)
  HeapM.sequence (← items.filterM fun item => do
    let verdict ← self.call function none [item]
    Run.askHeap (·.isTruthy verdict))

end CellScript.Library
