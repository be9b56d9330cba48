import CellScript.Heap.Basic

/-!
# Containers

A value may hold further cells: the elements of a sequence, the values of a map, the key and the
value of a pair. Marking a cell spreads to all that can be reached through them; clearing spreads
through elements and map values only.

## Main definitions

* `Container`, `Heap.container?`, `Heap.parts` — what holds cells, and which.
* `Tour`, `Walk.visit` — a depth-first walk over cells that does something to each.
* `Heap.reach`, `Heap.beneath` — all cells that can be reached from a cell, or from content.
* `Heap.nesting` — a bound on how deep content is nested.
* `Tour.marking`, `Tour.clearing` — how marks are set and taken away on a walk.
* `Heap.taintDeep`, `Heap.sanitizeDeep` — mark or clear a cell and all that it reaches.
-/

namespace CellScript

/-- Something that holds cells. -/
inductive Container where
  | sequence (s : SequenceRef)
  | table (t : TableRef)
  | pair (o : ObjectRef)
  deriving DecidableEq, Repr

namespace Heap

/-- The container that content is. -/
def container? (h : Heap) : Content → Option Container
  | .sequence s => some (.sequence s)
  | .table t => some (.table t)
  | .object o =>
    match h.object o with
    | .pair _ _ => some (.pair o)
    | _ => none
  | _ => none

/-- The cells that a container holds; none when it is a stale sequence. -/
def parts (h : Heap) : Container → List CellRef
  | .sequence s => h.elements s
  | .table t => (h.entries t).map (·.2)
  | .pair o =>
    match h.object o with
    | .pair key value => [key, value]
    | _ => []

end Heap

/-! ## Walks -/

/-- A place that a walk comes to: a cell, or a container that is met in cells. -/
inductive Place where
  | cell (c : CellRef)
  | container (c : Container)
  deriving DecidableEq, Repr

/-- How to walk over cells. -/
structure Tour where
  /-- what becomes of the value of a cell -/
  mark : Value → Value
  /-- the containers whose parts are walked over -/
  enters : Container → Bool
  /-- the containers that are entered only once, whatever cells they are met in -/
  remembers : Container → Bool

/-- A walk: the places it has come to, and the heap as it has left it. -/
structure Walk where
  seen : List Place
  heap : Heap

namespace Walk

/-- Come to a cell for the first time. -/
def come (t : Tour) (w : Walk) (cell : CellRef) : Walk :=
  ⟨.cell cell :: w.seen, w.heap.set cell (t.mark (w.heap.get cell))⟩

/-- Remember a container that is entered, if it has to be. -/
def enter (t : Tour) (w : Walk) (container : Container) : Walk :=
  if t.remembers container then { w with seen := .container container :: w.seen } else w

/-- Go to a cell, and from there to the parts of what it holds, at most `n` cells deep. Cells where
the walk has been before, and containers that it remembers, are left out. -/
def visit (t : Tour) : Nat → Walk → CellRef → Walk
  | 0, w, _ => w
  | n + 1, w, cell =>
    if w.seen.contains (.cell cell) then w
    else
      let w := w.come t cell
      match w.heap.container? (w.heap.content cell) with
      | none => w
      | some container =>
        if !t.enters container || w.seen.contains (.container container) then w
        else (w.heap.parts container).foldl (visit t n) (w.enter t container)

end Walk

namespace Heap

/-- The walk from several cells, one after the other. It is never deeper than there are cells. -/
def walkAll (h : Heap) (t : Tour) (cells : List CellRef) : Walk :=
  cells.foldl (Walk.visit t (h.cells.size + 1)) ⟨[], h⟩

/-- The walk from a cell. -/
def walk (h : Heap) (t : Tour) (cell : CellRef) : Walk :=
  h.walkAll t [cell]

/-- Several cells and all that they reach through containers that satisfy `through`. -/
def reachAll (h : Heap) (through : Container → Bool) (cells : List CellRef) : List CellRef :=
  (h.walkAll ⟨id, through, fun _ => false⟩ cells).seen.filterMap fun
    | .cell c => some c
    | .container _ => none

/-- A cell and all that it reaches through containers that satisfy `through`. -/
def reach (h : Heap) (through : Container → Bool) (cell : CellRef) : List CellRef :=
  h.reachAll through [cell]

/-- The cells that content reaches through containers. -/
def beneath (h : Heap) (content : Content) : List CellRef :=
  match h.container? content with
  | none => []
  | some container => h.reachAll (fun _ => true) (h.parts container)

/-- More than the containers that can be nested in each other in content: all but the first are held
by cells. -/
def nesting (h : Heap) (content : Content) : Nat :=
  (h.beneath content).length + 1

end Heap

/-! ## Taint -/

namespace Container

def isPair : Container → Bool
  | .pair _ => true
  | _ => false

end Container

namespace Tour

/-- Marking enters all containers. Sequences and maps are remembered; a pair is entered again, but
the cells that it holds are not. -/
def marking : Tour where
  mark := Value.taint
  enters _ := true
  remembers c := !c.isPair

/-- Clearing goes by cells alone and does not enter pairs. -/
def clearing : Tour where
  mark := Value.untaint
  enters c := !c.isPair
  remembers _ := false

end Tour

namespace Heap

/-- Mark the value of a cell tainted. -/
def taint (h : Heap) (cell : CellRef) : Heap :=
  h.set cell (h.get cell).taint

/-- Clear the taint mark of the value of a cell. -/
def untaint (h : Heap) (cell : CellRef) : Heap :=
  h.set cell (h.get cell).untaint

/-- Mark a cell and all that it reaches. -/
def taintDeep (h : Heap) (cell : CellRef) : Heap :=
  (h.walk .marking cell).heap

/-- Clear a cell and all that it reaches, pairs left alone. -/
def sanitizeDeep (h : Heap) (cell : CellRef) : Heap :=
  (h.walk .clearing cell).heap

def anyTainted (h : Heap) (cells : List CellRef) : Bool :=
  cells.any h.isTainted

end Heap

namespace HeapM

/-- A marked copy of a cell. -/
def taintedCopy (cell : CellRef) : HeapM CellRef := do
  let new ← copy cell
  change (·.taintDeep new)
  return new

/-- A cleared copy of a cell. -/
def sanitizedCopy (cell : CellRef) : HeapM CellRef := do
  let new ← copy cell
  change (·.sanitizeDeep new)
  return new

end HeapM

end CellScript
