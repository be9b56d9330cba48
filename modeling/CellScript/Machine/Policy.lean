import CellScript.Heap.Container
import CellScript.Machine.Basic
import CellScript.Text.Case

/-!
# Policies of a run

Putting a new key and reading a missing one may ask the policies of a map, which may be functions of
a script. Whether marks are passed on and refused is up to the context.

## Main definitions

* `Table.put`, `Table.getOrCreate` — put a cell under a key; the cell of a key, made if it is
  missing.
* `elementOf` — the element that an index of a container stands for.
* `Run.propagate` — the value to hand on for a result of given inputs.
* `Run.refuseTainted`, `Run.taintResult`, `Run.cleanResult` — what guards of functions do.
-/

namespace CellScript

/-- The verdict of a removal policy on the eldest entry. -/
def RemovalPolicy.verdict (self : Reentry) (t : TableRef) (key : String) (cell : CellRef) :
    RemovalPolicy → Run Bool
  | .call f => do
    let map ← HeapM.cell (.table t)
    let keyCell ← HeapM.text key
    let verdict ← self.invoke f none [map, keyCell, cell]
    Run.askHeap (·.isTruthy verdict)
  | .always => return true
  | .never => return false
  | .longer limit => Run.askHeap fun h => limit < h.count t
  | .truthy => Run.askHeap (·.isTruthy cell)
  | .key wanted => return key == wanted
  | .fail f => Run.fail f

namespace Table

/-- Ask the removal policy about the eldest entry, if it has to be asked, and remove the entry if it
says so. -/
def evict (self : Reentry) (t : TableRef) : Run Unit := do
  match ← Run.askHeap fun h => (h.table t).candidate? with
  | none => return ()
  | some (policy, key, cell?) =>
    let cell ← match cell? with
      | some cell => pure cell
      | none => HeapM.null
    if ← policy.verdict self t key cell then
      Run.changeHeap fun h => h.modifyTable t (·.remove key)

/-- Put a cell under a key. -/
def put (self : Reentry) (t : TableRef) (key : String) (cell : CellRef) : Run Unit := do
  match ← Run.askHeap fun h => (h.table t).entries.get? key with
  | some entry => Run.changeHeap fun h => h.modifyTable t (·.replace key entry cell)
  | none =>
    Run.changeHeap fun h => h.modifyTable t (·.append key cell)
    evict self t

end Table

/-- The value that a miss policy makes for a key. -/
def MissPolicy.materialize (self : Reentry) (t : TableRef) (key : String) : MissPolicy → Run CellRef
  | .call f => do
    let map ← HeapM.cell (.table t)
    let keyCell ← HeapM.text key
    self.invoke f none [map, keyCell]
  | .upper => HeapM.text (Text.upper key)
  | .null => HeapM.null
  | .store => do
    Table.put self t key (← HeapM.text "stored")
    HeapM.text "returned"
  | .other => do
    Table.put self t (key ++ "+") (← HeapM.int 1)
    HeapM.int (Int64.ofNat (← Run.askHeap (·.count t)))
  | .fail f => Run.fail f

namespace Table

/-- The cell of a key. A missing key is added with a value that the miss policy makes, or with the
empty value; if the policy added the key itself, that entry stands. -/
def getOrCreate (self : Reentry) (t : TableRef) (key : String) : Run CellRef := do
  match ← HeapM.lookup t key with
  | some cell => return cell
  | none =>
    let made ← match ← Run.askHeap fun h => (h.table t).miss with
      | none => HeapM.null
      | some policy => policy.materialize self t key
    match ← Run.askHeap fun h => (h.table t).peek key with
    | some cell => return cell
    | none =>
      Run.changeHeap fun h => h.modifyTable t (·.append key made)
      evict self t
      return made

end Table

/-- The position in a text that an index stands for. -/
def characterAt (text : String) (index : Int) : Except Fault String :=
  let cs := text.toList
  let i := if index < 0 then index + cs.length else index
  if i < 0 then .error (.badIndex (.inText index cs.length))
  else
    match cs[i.toNat]? with
    | some c => .ok (String.singleton c)
    | none => .error (.badIndex (.inText index cs.length))

/-- The element of the content of a container at an index. -/
def elementOf (self : Reentry) (content : Content) (index : CellRef) : Run CellRef := do
  match content with
  | .sequence s => HeapM.element s (← Run.askHeap fun h => h.cellInt index).toInt
  | .table t => Table.getOrCreate self t (← Run.askHeap fun h => h.text index)
  | .text s =>
    match characterAt s (← Run.askHeap fun h => h.cellInt index).toInt with
    | .ok c => HeapM.text c
    | .error f => Run.fail f
  | other => Run.fail (.badCast (.notIndexable other.typeName))

/-- The element of a container at an index. An empty container becomes a sequence for a number and a
map otherwise. -/
def elementAt (self : Reentry) (container index : CellRef) : Run CellRef := do
  match ← Run.askHeap (·.content container) with
  | .null =>
    let content ← if ← Run.askHeap fun h => (h.content index).isNumber then
        pure (Content.sequence (← HeapM.newSequence []))
      else pure (Content.table (← HeapM.newTable .insertion))
    HeapM.set container (.clean content)
    elementOf self content index
  | content => elementOf self content index

/-! ## Taint -/

namespace Run

/-- The value to hand on for a result: a marked copy when taint is watched and an input is marked,
the result itself otherwise. The cell of the result is never marked, since it may be a variable. -/
def propagate (inputs : List CellRef) (result : CellRef) (what : String) : Run CellRef := do
  let marked ← askHeap fun h => !h.isTainted result && h.anyTainted inputs
  if (← askContext (·.taint)) && marked then
    let new ← HeapM.taintedCopy result
    traceTaint s!"{what} passed taint to its result"
    return new
  else return result

/-- Fail at the first marked argument. -/
def refuseTainted (name : String) (args : List CellRef) : Run Unit := do
  match ← askHeap fun h => (args.findIdx? h.isTainted).bind fun i => (args[i]?).map (i, ·) with
  | none => return ()
  | some (i, cell) =>
    let described ← askHeap (·.describe cell)
    let message := s!"{name}: argument {i + 1} is tainted: {described}"
    traceTaint message
    fail (.taintViolation message)

/-- Mark a result and all it reaches. -/
def taintResult (name : String) (result : CellRef) : Run CellRef := do
  changeHeap (·.taintDeep result)
  traceTaint s!"{name} tainted its result"
  return result

/-- Clear the mark of a result. -/
def cleanResult (result : CellRef) : Run CellRef := do
  changeHeap (·.untaint result)
  return result

end Run

end CellScript
