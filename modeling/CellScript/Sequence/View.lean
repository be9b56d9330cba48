import CellScript.Fault
import CellScript.Sequence.Store

/-!
# Sequences and live windows

A view is a window of some length over the slots that follow its anchor. The root view of a store is
anchored on the sentinel and covers all elements. A window of another view is anchored on the slot
just before its first element: elements inserted in front of the window show up inside it, while its
length stays what was recorded. A view whose anchor was unlinked, or that runs past the end, is
stale, and so are all views made from it.

## Main definitions

* `View`, `Sequences` — windows and the stores under them.
* `Sequences.window` — the window of a view, or why it is stale.
* `Sequences.Edit` — an operation; one that fails changes nothing.
* `Sequences.push`, `pop`, `shift`, `insert`, `removeAt`, `reorder`, `sublist`, … — the operations.
-/

namespace CellScript

/-- A window over a store. A root view has no parent. -/
structure View where
  store : Nat
  anchor : Anchor
  length : Nat
  parent : Option SequenceRef
  deriving Inhabited, Repr

/-- The stores and the views onto them. A view stands after the view it was made from. -/
structure Sequences where
  stores : Array Store
  views : Array View
  deriving Inhabited, Repr

/-- Where the elements of a view are: `length` of them after slot `slot`. -/
structure Window where
  store : Nat
  slot : Nat
  length : Nat
  deriving Inhabited, Repr

/-- The position that an index stands for. A negative index counts from the end. -/
def resolveIndex (index : Int) (length : Nat) : Except Fault Nat :=
  if 0 ≤ index then .ok index.toNat
  else if 0 ≤ length + index then .ok (length + index).toNat
  else .error (.badIndex (.beforeFirst index length))

/-- Why a view does not fit the store, if it does not. A root view always fits. -/
def View.staleness? (view : View) (store : Store) : Option Staleness :=
  if view.parent.isNone then none
  else if !store.isCurrent view.anchor then some .anchorRemoved
  else if !store.fits view.anchor.slot view.length then some .tooFewElements
  else none

namespace Sequences

def empty : Sequences :=
  ⟨#[], #[]⟩

/-- An operation on sequences. -/
abbrev Edit (α : Type) := ExceptT Fault (StateM Sequences) α

def view (q : Sequences) (s : SequenceRef) : View :=
  q.views.getD s.index default

def store (q : Sequences) (i : Nat) : Store :=
  q.stores.getD i default

/-- A view, the view it was made from, and so on up to the root. -/
def lineage (q : Sequences) (i : Nat) : List Nat :=
  match (q.views.getD i default).parent with
  | none => [i]
  | some parent => if parent.index < i then i :: q.lineage parent.index else [i]
termination_by i

/-- The first reason for a view to be stale, its own before those of the views it was made from. -/
def staleness? (q : Sequences) (s : SequenceRef) : Option Staleness :=
  let store := q.store (q.view s).store
  (q.lineage s.index).findSome? fun i => (q.views.getD i default).staleness? store

/-- The window of a view. -/
def window (q : Sequences) (s : SequenceRef) : Except Fault Window :=
  match q.staleness? s with
  | some why => .error (.concurrentModification why)
  | none =>
    let view := q.view s
    .ok ⟨view.store, view.anchor.slot, view.length⟩

/-- Change a store. -/
def modifyStore (q : Sequences) (i : Nat) (f : Store → Store) : Sequences :=
  { q with stores := q.stores.modify i f }

/-- Change the recorded length of a view and of all views it was made from. -/
def modifyLength (q : Sequences) (s : SequenceRef) (f : Nat → Nat) : Sequences :=
  { q with
    views := (q.lineage s.index).foldl
      (fun views i => views.modify i fun view => { view with length := f view.length }) q.views }

/-- The slot of the element at `index`. The root is walked from the nearer end. -/
def slotAt (store : Store) (w : Window) (index : Nat) : Nat :=
  if w.slot = Store.sentinel ∧ w.length / 2 < index then
    store.nthBefore Store.sentinel (w.length - index)
  else store.nthAfter w.slot (index + 1)

/-- The cells of a window in order. -/
def cells (q : Sequences) (w : Window) : List CellRef :=
  let store := q.store w.store
  (store.slotsAfter w.slot w.length).map store.cell

/-- The element cells of a view in order. -/
def snapshot (q : Sequences) (s : SequenceRef) : Except Fault (List CellRef) :=
  (q.window s).map q.cells

def length (q : Sequences) (s : SequenceRef) : Except Fault Nat :=
  (q.window s).map (·.length)

def isView (q : Sequences) (s : SequenceRef) : Bool :=
  (q.view s).parent.isSome

/-- The element at an index, if there is one. -/
def find? (q : Sequences) (s : SequenceRef) (index : Int) : Except Fault (Option CellRef) :=
  (q.window s).map fun w =>
    match resolveIndex index w.length with
    | .error _ => none
    | .ok i =>
      let store := q.store w.store
      if i < w.length then some (store.cell (slotAt store w i)) else none

/-- How many cells have to be added for an index to be that of an element. -/
def missing (q : Sequences) (s : SequenceRef) (index : Int) : Except Fault Nat := do
  let w ← q.window s
  let i ← resolveIndex index w.length
  return i + 1 - w.length

/-! ## Operations -/

/-- A question to the sequences. -/
def ask {α : Type} (f : Sequences → Except Fault α) : Edit α := fun q =>
  (f q, q)

/-- A new root view over a store of its own. -/
def create (cells : List CellRef) : Edit SequenceRef := fun q =>
  let view : View := ⟨q.stores.size, ⟨Store.sentinel, 0⟩, cells.length, none⟩
  (.ok ⟨q.views.size⟩,
    { stores := q.stores.push (Store.ofCells cells), views := q.views.push view })

/-- Add cells at the end of the window. -/
def append (s : SequenceRef) (cells : List CellRef) : Edit Unit := do
  let w ← ask (·.window s)
  modify fun q =>
    (q.modifyStore w.store fun store =>
      store.insertAllAfter (store.nthAfter w.slot w.length) cells).modifyLength s (· + cells.length)

def push (s : SequenceRef) (cell : CellRef) : Edit Unit :=
  append s [cell]

/-- Unlink the element in a slot. -/
def drop (s : SequenceRef) (w : Window) (slot : Nat) : Edit CellRef := do
  let cell ← ask fun q => .ok ((q.store w.store).cell slot)
  modify fun q => (q.modifyStore w.store (·.unlink slot)).modifyLength s (· - 1)
  return cell

/-- Take out the last element. -/
def pop (s : SequenceRef) : Edit (Option CellRef) := do
  let w ← ask (·.window s)
  if w.length = 0 then return none
  let slot ← ask fun q => .ok ((q.store w.store).nthAfter w.slot w.length)
  return some (← drop s w slot)

/-- Take out the first element. -/
def shift (s : SequenceRef) : Edit (Option CellRef) := do
  let w ← ask (·.window s)
  if w.length = 0 then return none
  let slot ← ask fun q => .ok ((q.store w.store).next w.slot)
  return some (← drop s w slot)

/-- Insert a cell so that it ends up at an index. -/
def insert (s : SequenceRef) (index : Int) (cell : CellRef) : Edit Unit := do
  let w ← ask (·.window s)
  let i ← ask fun _ => resolveIndex index w.length
  if w.length < i then throw (.badIndex (.insertion i w.length))
  modify fun q =>
    (q.modifyStore w.store fun store =>
      store.insertAfter (store.nthAfter w.slot i) cell).modifyLength s (· + 1)

def unshift (s : SequenceRef) (cell : CellRef) : Edit Unit :=
  insert s 0 cell

def removeAt (s : SequenceRef) (index : Int) : Edit CellRef := do
  let w ← ask (·.window s)
  let i ← ask fun _ => resolveIndex index w.length
  if w.length ≤ i then throw (.badIndex (.removal i w.length))
  let slot ← ask fun q => .ok (slotAt (q.store w.store) w i)
  drop s w slot

/-- Remove every element whose cell satisfies `p`; the result is how many went. -/
def removeWhere (s : SequenceRef) (p : CellRef → Bool) : Edit Nat := do
  let w ← ask (·.window s)
  let doomed ← ask fun q =>
    let store := q.store w.store
    .ok ((store.slotsAfter w.slot w.length).filter fun slot => p (store.cell slot))
  modify fun q =>
    (q.modifyStore w.store fun store => doomed.foldl Store.unlink store).modifyLength s
      (· - doomed.length)
  return doomed.length

/-- Remove all elements of the window. -/
def clear (s : SequenceRef) : Edit Unit := do
  let w ← ask (·.window s)
  modify fun q =>
    (q.modifyStore w.store (·.unlinkAfter w.slot w.length)).modifyLength s (· - w.length)

/-- Write cells into the element positions in order. No slot is linked or unlinked, so views stay
valid. -/
def reorder (s : SequenceRef) (cells : List CellRef) : Edit Unit := do
  let w ← ask (·.window s)
  if cells.length ≠ w.length then throw (.runtime (.reorder w.length cells.length))
  modify fun q => q.modifyStore w.store fun store =>
    ((store.slotsAfter w.slot w.length).zip cells).foldl
    (fun store (slot, cell) => store.setCell slot cell) store

/-- A live view of the elements from one position up to, but without, another. -/
def sublist (s : SequenceRef) (first last : Int) : Edit SequenceRef := do
  let w ← ask (·.window s)
  let i ← ask fun _ => resolveIndex first w.length
  let j ← ask fun _ => resolveIndex last w.length
  if j < i ∨ w.length < j then throw (.badIndex (.window i j w.length))
  let anchor ← ask fun q =>
    let store := q.store w.store
    .ok (store.anchor (store.nthAfter w.slot i))
  let new ← ask fun q => .ok ⟨q.views.size⟩
  modify fun q => { q with views := q.views.push ⟨w.store, anchor, j - i, some s⟩ }
  return new

end Sequences

end CellScript
