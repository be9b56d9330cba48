import CellScript.Value

/-!
# Linked storage of sequences

The elements of a sequence live in the slots of a store. The live slots form a ring closed by a
sentinel, slot 0. Slots that were unlinked are kept on a stack and used again; each use of a slot
raises its generation, so that a slot remembered with its generation is known to have been unlinked
even after it is in use again.

## Main definitions

* `Slot`, `Store` — the storage.
* `Store.insertAfter`, `Store.unlink` — link a new slot, take one out of the ring.
* `Store.slotsAfter` — the slots that follow one, in order.
* `Anchor` — a slot as it was at some moment.
-/

namespace CellScript

/-- A place for an element. The cell of the sentinel and of a slot that is not live means
nothing. -/
structure Slot where
  cell : CellRef
  prev : Nat
  next : Nat
  generation : Nat
  live : Bool
  deriving Inhabited, Repr

/-- The slots of a sequence and of all views onto it. -/
structure Store where
  slots : Array Slot
  /-- slots to use again, the one unlinked last first -/
  free : List Nat
  deriving Inhabited, Repr

/-- A slot at the time when it was in its generation. -/
structure Anchor where
  slot : Nat
  generation : Nat
  deriving DecidableEq, Inhabited, Repr

namespace Store

/-- The slot that closes the ring. -/
def sentinel : Nat := 0

/-- No elements. -/
def empty : Store :=
  ⟨#[⟨⟨0⟩, sentinel, sentinel, 0, true⟩], []⟩

def slot (store : Store) (i : Nat) : Slot :=
  store.slots.getD i default

def next (store : Store) (i : Nat) : Nat :=
  (store.slot i).next

def prev (store : Store) (i : Nat) : Nat :=
  (store.slot i).prev

def cell (store : Store) (i : Nat) : CellRef :=
  (store.slot i).cell

def anchor (store : Store) (i : Nat) : Anchor :=
  ⟨i, (store.slot i).generation⟩

/-- Whether the slot of an anchor has stayed in the ring. -/
def isCurrent (store : Store) (a : Anchor) : Bool :=
  match store.slots[a.slot]? with
  | some slot => slot.live && slot.generation == a.generation
  | none => false

def setNext (store : Store) (i next : Nat) : Store :=
  { store with slots := store.slots.modify i fun slot => { slot with next } }

def setPrev (store : Store) (i prev : Nat) : Store :=
  { store with slots := store.slots.modify i fun slot => { slot with prev } }

def setCell (store : Store) (i : Nat) (cell : CellRef) : Store :=
  { store with slots := store.slots.modify i fun slot => { slot with cell } }

/-- A slot for a new element: the one unlinked last, or one past the end. -/
def fresh (store : Store) : Nat :=
  store.free.headD store.slots.size

/-- Put a cell between two neighbours into the fresh slot, without linking the neighbours to it. -/
def occupy (store : Store) (cell : CellRef) (prev next : Nat) : Store :=
  match store.free with
  | [] => { store with slots := store.slots.push ⟨cell, prev, next, 0, true⟩ }
  | i :: free =>
    { slots := store.slots.modify i fun slot => ⟨cell, prev, next, slot.generation + 1, true⟩
      free }

/-- Link a new slot that holds `cell` directly after slot `i`. -/
def insertAfter (store : Store) (i : Nat) (cell : CellRef) : Store :=
  let next := store.next i
  let new := store.fresh
  ((store.occupy cell i next).setNext i new).setPrev next new

/-- Take a slot out of the ring and put it on the stack. -/
def unlink (store : Store) (i : Nat) : Store :=
  let slot := store.slot i
  let store := (store.setNext slot.prev slot.next).setPrev slot.next slot.prev
  { slots := store.slots.modify i fun slot => { slot with live := false }
    free := i :: store.free }

/-- The slot `n` links after slot `i`. -/
def nthAfter (store : Store) (i : Nat) : Nat → Nat
  | 0 => i
  | n + 1 => nthAfter store (store.next i) n

/-- The slot `n` links before slot `i`. -/
def nthBefore (store : Store) (i : Nat) : Nat → Nat
  | 0 => i
  | n + 1 => nthBefore store (store.prev i) n

/-- The `n` slots that follow slot `i`, in order. -/
def slotsAfter (store : Store) (i : Nat) : Nat → List Nat
  | 0 => []
  | n + 1 => store.next i :: slotsAfter store (store.next i) n

/-- Whether at least `n` slots follow slot `i` before the sentinel. -/
def fits (store : Store) (i : Nat) : Nat → Bool
  | 0 => true
  | n + 1 => store.next i != sentinel && fits store (store.next i) n

/-- Link new slots that hold `cells` after slot `i`, in order. -/
def insertAllAfter (store : Store) (i : Nat) : List CellRef → Store
  | [] => store
  | cell :: rest => insertAllAfter (store.insertAfter i cell) store.fresh rest

/-- Unlink the `n` slots after slot `i`, the first one first. -/
def unlinkAfter (store : Store) (i : Nat) : Nat → Store
  | 0 => store
  | n + 1 => unlinkAfter (store.unlink (store.next i)) i n

/-- A store of these cells. -/
def ofCells (cells : List CellRef) : Store :=
  empty.insertAllAfter sentinel cells

end Store

end CellScript
