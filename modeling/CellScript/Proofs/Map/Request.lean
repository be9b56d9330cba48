import CellScript.Machine.Policy
import CellScript.Proofs.Map.Order
import CellScript.Proofs.Run.Tidy

/-!
# Requests to maps

The operations that a map offers, as one type. Putting a key and getting the cell of one may ask the
policies of the map, everything else is a step of the map alone.

## Main definitions

* `MapQuestion`, `MapRequest` — the operations.
* `Run.onMap` — a step of a map.
* `Machine.setMap` — a machine in which a map is another one.

## Main statements

* `Run.onMap_run`, `HeapM.lookup_run`, `Table.put_run`, … — what a request does to a map that the
  machine has.
-/

namespace CellScript

/-- What a map answers. -/
inductive MapReply where
  | done
  | cell (cell : CellRef)
  | cell? (cell : Option CellRef)
  | verdict (holds : Bool)
  | count (n : Nat)
  | entries (entries : List (String × CellRef))
  | keys (keys : List String)
  | values (cells : List CellRef)

/-- A question to a map, which changes nothing. -/
inductive MapQuestion where
  | peek (key : String)
  | contains (key : String)
  | count
  | entries
  | keys
  | values

/-- An operation of a map. -/
inductive MapRequest where
  | ask (question : MapQuestion)
  | put (key : String) (cell : CellRef)
  | getOrCreate (key : String)
  | lookup (key : String)
  | remove (key : String)
  | clear
  | setMiss (policy : Option MissPolicy)
  | setRemoval (policy : Option RemovalPolicy)
  | setCapacity (capacity : Option Nat)

def MapQuestion.answer (h : Heap) (t : TableRef) : MapQuestion → MapReply
  | .peek key => .cell? ((h.table t).peek key)
  | .contains key => .verdict (h.containsKey t key)
  | .count => .count (h.count t)
  | .entries => .entries (h.entries t)
  | .keys => .keys ((h.entries t).map (·.1))
  | .values => .values ((h.entries t).map (·.2))

/-- Change a map. -/
def Run.onMap (t : TableRef) (step : Table → Table) : Run Unit :=
  Run.changeHeap fun h => h.modifyTable t step

def MapRequest.perform (self : Reentry) (t : TableRef) : MapRequest → Run MapReply
  | .ask question => Run.askHeap fun h => question.answer h t
  | .put key cell => do
    Table.put self t key cell
    return .done
  | .getOrCreate key => return .cell (← Table.getOrCreate self t key)
  | .lookup key => return .cell? (← HeapM.lookup t key)
  | .remove key => do
    let held ← Run.askHeap fun h => (h.table t).peek key
    Run.onMap t (·.remove key)
    return .cell? held
  | .clear => do
    Run.onMap t (·.clear)
    return .done
  | .setMiss policy => do
    Run.onMap t ({ · with miss := policy })
    return .done
  | .setRemoval policy => do
    Run.onMap t ({ · with removal := policy })
    return .done
  | .setCapacity capacity => do
    Run.onMap t ({ · with capacity })
    return .done

/-! ## What requests do -/

variable {s : Reentry} {t : TableRef} {m : Machine} {table : Table} {key : String} {cell : CellRef}
  {entry : Entry}

namespace Machine

/-- The machine in which a map is another one. -/
def setMap (m : Machine) (t : TableRef) (table : Table) : Machine :=
  { m with heap := m.heap.modifyTable t fun _ => table }

/-- The map of a machine. -/
def map? (m : Machine) (t : TableRef) : Option Table :=
  m.heap.tables[t.index]?

theorem table_of_map? (h : m.map? t = some table) : m.heap.table t = table := by
  rw [Heap.table, Array.getD_eq_getD_getElem?, show m.heap.tables[t.index]? = some table from h,
    Option.getD_some]

theorem map?_setMap (h : m.map? t = some table) (new : Table) :
    (m.setMap t new).map? t = some new := by
  have held : m.heap.tables[t.index]? = some table := h
  change (m.heap.tables.modify t.index fun _ => new)[t.index]? = some new
  rw [Array.getElem?_modify, if_pos rfl, held, Option.map_some]

/-- A step of a map that is known. -/
theorem onMap_run (h : m.map? t = some table) (step : Table → Table) :
    Run.onMap t step m = (.ok (), m.setMap t (step table)) := by
  have held : m.heap.tables[t.index]? = some table := h
  refine congrArg
    (fun tables => ((.ok (), { m with heap := { m.heap with tables } }) : Except Stop Unit ×
      Machine)) ?_
  refine Array.ext (by simp) fun i h₁ h₂ => ?_
  rw [Array.getElem_modify, Array.getElem_modify]
  split
  case isTrue same =>
    subst same
    rw [Array.getElem?_eq_some_iff] at held
    rw [held.2]
  case isFalse => rfl

end Machine

namespace Table

/-- The value for a key that is missing. -/
def madeBy (s : Reentry) (t : TableRef) (key : String) : Option MissPolicy → Run CellRef
  | none => HeapM.null
  | some policy => policy.materialize s t key

theorem put_run_new (absent : (m.heap.table t).entries.get? key = none) (cell : CellRef) :
    put s t key cell m = (Run.onMap t (·.append key cell) >>= fun _ => evict s t) m := by
  rw [put, Run.bind_run, Run.askHeap_run]
  simp only [absent]
  rfl

theorem put_run_held (found : (m.heap.table t).entries.get? key = some entry) (cell : CellRef) :
    put s t key cell m = Run.onMap t (·.replace key entry cell) m := by
  rw [put, Run.bind_run, Run.askHeap_run]
  simp only [found]
  rfl

theorem lookup_run (t : TableRef) (key : String) (m : Machine) :
    (HeapM.lookup t key : Run _) m = match (m.heap.table t).peek key with
      | none => (.ok none, m)
      | some cell => (Run.onMap t (·.touchIfAccessed key) >>= fun _ => pure (some cell)) m := by
  rw [Run.liftM_heap, Run.onHeap_run, HeapM.lookup, HeapM.bind_run]
  simp only [HeapM.ask]
  cases (m.heap.table t).peek key <;> rfl

theorem getOrCreate_run_hit (held : (m.heap.table t).peek key = some cell) :
    getOrCreate s t key m = (Run.onMap t (·.touchIfAccessed key) >>= fun _ => pure cell) m := by
  rw [getOrCreate, Run.bind_run, lookup_run]
  simp only [held]
  rfl

theorem getOrCreate_run_miss (absent : (m.heap.table t).peek key = none) :
    getOrCreate s t key m = (madeBy s t key (m.heap.table t).miss >>= fun made => do
      match ← Run.askHeap fun h => (h.table t).peek key with
      | some cell => return cell
      | none =>
        Run.onMap t (·.append key made)
        evict s t
        return made) m := by
  rw [getOrCreate, Run.bind_run, lookup_run]
  simp only [absent]
  rw [Run.bind_run, Run.askHeap_run]
  cases (m.heap.table t).miss <;> rfl

end Table

end CellScript
