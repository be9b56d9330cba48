import CellScript.Heap.Basic

/-!
# Scopes

Each call has a scope level. A name is looked up in the containers of the current level, the newest
first, then among the private variables of the closure, then among the global variables. A name that
is declared nowhere is a global one.

## Main definitions

* `ScopeChain` — the levels of the calls in progress and the global variables.
* `ScopeChain.find?`, `ScopeChain.lookup?` — the container and the cell of a name.
* `ScopeChain.bind`, `declareLocal`, `declareThis` — let a name stand for a cell.
-/

namespace CellScript

namespace ScopeLevel

/-- The level of a call with variables of its own. -/
def ofBase (base : VarsRef) (this : Option VarsRef) : ScopeLevel :=
  ⟨base, [], this⟩

/-- The containers of a level, the newest first. -/
def locals (l : ScopeLevel) : List VarsRef :=
  l.inner ++ [l.base]

/-- The container that declarations go to. -/
def top (l : ScopeLevel) : VarsRef :=
  l.inner.headD l.base

/-- The number of containers. -/
def depth (l : ScopeLevel) : Nat :=
  l.inner.length + 1

def push (l : ScopeLevel) (vars : VarsRef) : ScopeLevel :=
  { l with inner := vars :: l.inner }

/-- Drop the newest container; that of the call itself stays. -/
def pop (l : ScopeLevel) : ScopeLevel :=
  { l with inner := l.inner.tail }

/-- Drop containers until `depth` are left, or that of the call itself. -/
def truncate (l : ScopeLevel) (depth : Nat) : ScopeLevel :=
  { l with inner := l.inner.drop (l.inner.length - (depth - 1)) }

end ScopeLevel

/-- The levels of the calls in progress, newest first, above a level that stays. -/
structure ScopeChain where
  base : ScopeLevel
  levels : List ScopeLevel
  global : VarsRef
  deriving DecidableEq, Inhabited, Repr

namespace ScopeChain

/-- A chain with the base level only. -/
def create (global : VarsRef) : HeapM ScopeChain := do
  return ⟨.ofBase (← HeapM.newVars) none, [], global⟩

/-- The level of the current call. -/
def current (s : ScopeChain) : ScopeLevel :=
  s.levels.headD s.base

/-- Change the level of the current call. -/
def modifyCurrent (s : ScopeChain) (f : ScopeLevel → ScopeLevel) : ScopeChain :=
  match s.levels with
  | [] => { s with base := f s.base }
  | level :: rest => { s with levels := f level :: rest }

def depth (s : ScopeChain) : Nat :=
  s.levels.length + 1

def pushLevel (s : ScopeChain) (level : ScopeLevel) : ScopeChain :=
  { s with levels := level :: s.levels }

/-- Take the level of the current call off. The base level stays. -/
def popLevel (s : ScopeChain) : Option ScopeLevel × ScopeChain :=
  (s.levels.head?, { s with levels := s.levels.tail })

def pushLocal (s : ScopeChain) (vars : VarsRef) : ScopeChain :=
  s.modifyCurrent (·.push vars)

def popLocal (s : ScopeChain) : ScopeChain :=
  s.modifyCurrent (·.pop)

/-- The number of containers of the current level. -/
def localDepth (s : ScopeChain) : Nat :=
  s.current.depth

def truncateLocals (s : ScopeChain) (depth : Nat) : ScopeChain :=
  s.modifyCurrent (·.truncate depth)

/-- The containers in which names are looked up, in that order. -/
def containers (s : ScopeChain) : List VarsRef :=
  s.current.locals ++ s.current.this.toList ++ [s.global]

/-- The container that holds a name. -/
def find? (s : ScopeChain) (h : Heap) (name : String) : Option VarsRef :=
  s.containers.find? (h.hasVariable · name)

/-- The cell of a name. -/
def lookup? (s : ScopeChain) (h : Heap) (name : String) : Option CellRef :=
  s.containers.findSome? (h.findVariable? · name)

/-- Let a name stand for a cell where it is declared, or globally. -/
def bind (s : ScopeChain) (h : Heap) (name : String) (cell : CellRef) : Heap :=
  h.putVariable ((s.find? h name).getD s.global) name cell

/-- Declare a name in the newest container of the current call. -/
def declareLocal (s : ScopeChain) (h : Heap) (name : String) (cell : CellRef) : Heap :=
  h.putVariable s.current.top name cell

/-- Declare a name among the private variables of the closure, unless it is there. Outside of a
closure there are none. -/
def declareThis (s : ScopeChain) (h : Heap) (name : String) (cell : CellRef) : Bool × Heap :=
  match s.current.this with
  | none => (false, h)
  | some this => (true, if h.hasVariable this name then h else h.putVariable this name cell)

/-- The names that can be looked up, innermost first, each once. -/
def visibleNames (s : ScopeChain) (h : Heap) : List String :=
  (s.containers.flatMap h.variableNames).eraseDups

end ScopeChain

end CellScript
