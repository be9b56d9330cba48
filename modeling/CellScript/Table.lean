import CellScript.Dictionary
import CellScript.Fault

/-!
# Maps

A map holds cells under string keys. Every entry has a stamp and the map lists its keys by stamp, so
the list runs from the eldest key to the youngest. In access order reading and writing an entry
gives it a new stamp; in insertion order an entry keeps the stamp of its insertion.

With a removal policy the map is a bounded cache: after a new key is put, the policy decides whether
the eldest entry goes; a capacity restricts the question to a map that has grown past it. With a
miss policy the map makes the value of a key that is missing.

## Main definitions

* `MapOrder`, `MissPolicy`, `RemovalPolicy` — how a map behaves.
* `Table` — entries, and keys by stamp.
* `Table.touch`, `append`, `replace`, `remove` — the steps that all operations consist of.
-/

namespace CellScript

/-- Which entry counts as the youngest. -/
inductive MapOrder where
  | insertion
  | access
  deriving DecidableEq, Inhabited, Repr

/-- What makes the value of a missing key. -/
inductive MissPolicy where
  /-- a function of the map and the key -/
  | call (function : FunctionRef)
  /-- the key in upper case -/
  | upper
  | null
  /-- puts `stored` under the key and offers another value -/
  | store
  /-- puts a value under another key and offers the number of entries -/
  | other
  | fail (fault : Fault)
  deriving Repr

/-- What decides whether the eldest entry goes. -/
inductive RemovalPolicy where
  /-- a function of the map, the key and the cell -/
  | call (function : FunctionRef)
  | always
  | never
  /-- when there are more than `limit` entries -/
  | longer (limit : Int)
  /-- when its value is truthy -/
  | truthy
  /-- when it is the entry of this key -/
  | key (key : String)
  | fail (fault : Fault)
  deriving Repr

/-- A cell and the stamp of its last move to the young end. -/
structure Entry where
  cell : CellRef
  stamp : Nat
  deriving Inhabited, Repr

/-- A map. -/
structure Table where
  mode : MapOrder
  entries : Dictionary Entry
  /-- stamps in increasing order and the keys they were given to -/
  order : List (Nat × String)
  lastStamp : Nat
  miss : Option MissPolicy
  removal : Option RemovalPolicy
  capacity : Option Nat
  deriving Inhabited, Repr

namespace Table

def empty (mode : MapOrder) : Table :=
  ⟨mode, .empty, [], 0, none, none, none⟩

/-- The cell of a key. -/
def peek (t : Table) (key : String) : Option CellRef :=
  (t.entries.get? key).map (·.cell)

/-- Keys and cells from the eldest to the youngest. -/
def listing (t : Table) : List (String × CellRef) :=
  t.order.filterMap fun (_, key) => (t.peek key).map (key, ·)

/-- Give the entry of a key a new stamp. -/
def touch (t : Table) (key : String) : Table :=
  let stamp := t.lastStamp + 1
  match t.entries.get? key with
  | none => { t with lastStamp := stamp }
  | some entry =>
    { t with
      entries := t.entries.insert key { entry with stamp }
      order := t.order.filter (·.1 != entry.stamp) ++ [(stamp, key)]
      lastStamp := stamp }

/-- In access order, `touch`. -/
def touchIfAccessed (t : Table) (key : String) : Table :=
  match t.mode with
  | .insertion => t
  | .access => t.touch key

/-- Add an entry under a new key at the young end. -/
def append (t : Table) (key : String) (cell : CellRef) : Table :=
  let stamp := t.lastStamp + 1
  { t with
    entries := t.entries.insert key ⟨cell, stamp⟩
    order := t.order ++ [(stamp, key)]
    lastStamp := stamp }

/-- Put another cell under the key of an entry. -/
def replace (t : Table) (key : String) (entry : Entry) (cell : CellRef) : Table :=
  ({ t with entries := t.entries.insert key { entry with cell } }).touchIfAccessed key

/-- Take an entry out. -/
def remove (t : Table) (key : String) : Table :=
  match t.entries.get? key with
  | none => t
  | some entry =>
    { t with
      entries := t.entries.erase key
      order := t.order.filter (·.1 != entry.stamp) }

/-- Take all entries out. Stamps go on. -/
def clear (t : Table) : Table :=
  { t with entries := .empty, order := [] }

/-- The eldest entry, when the removal policy has to be asked about it. -/
def candidate? (t : Table) : Option (RemovalPolicy × String × Option CellRef) :=
  match t.removal, t.order with
  | some policy, (_, key) :: _ =>
    if t.capacity.any (t.entries.size ≤ ·) then none else some (policy, key, t.peek key)
  | _, _ => none

end Table

end CellScript
