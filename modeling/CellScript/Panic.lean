import CellScript.Fault

/-!
# Panics of host code

Host code may panic instead of failing. At the boundary a panic becomes an error with the text it
carries, and for a script a fatal fault.

## Main definitions

* `PanicPayload`, `HostWork` — what a panic carries; work that may panic.
* `PanicError` — a panic that was caught.
* `catchPanic`, `PanicPolicy.guard`, `guardHostCall` — boundaries.
-/

namespace CellScript

/-- What a panic carries. -/
inductive PanicPayload where
  | text (s : String)
  | other
  deriving DecidableEq, Inhabited, Repr

/-- The outcome of host code that may panic. -/
abbrev HostWork (α : Type) := Except PanicPayload α

/-- A panic that was caught. -/
structure PanicError where
  payload : String
  deriving DecidableEq, Inhabited, Repr

namespace PanicError

def ofPayload : PanicPayload → PanicError
  | .text s => ⟨s⟩
  | .other => ⟨"unknown panic payload"⟩

def message (e : PanicError) : String :=
  "host panic: " ++ e.payload

/-- The fault a script sees. -/
def toFault (e : PanicError) : Fault :=
  .fatal e.message

end PanicError

/-- Catch a panic. -/
def catchPanic {α : Type} : HostWork α → Except PanicError α
  | .ok value => .ok value
  | .error payload => .error (.ofPayload payload)

/-- What a boundary does with a panic. -/
inductive PanicPolicy where
  | catch
  /-- catch it and write it to the log -/
  | log
  /-- let it pass -/
  | propagate
  deriving DecidableEq, Inhabited, Repr

/-- Work inside of a boundary; the outer panic is one that passes through. -/
def PanicPolicy.guard {α : Type} (policy : PanicPolicy) (work : HostWork α) :
    HostWork (Except PanicError α) :=
  match policy with
  | .catch | .log => .ok (catchPanic work)
  | .propagate => work.map .ok

/-- A call of host code that may fail or panic. -/
def guardHostCall {α : Type} (work : HostWork (Except Fault α)) : Except Fault α :=
  match catchPanic work with
  | .ok result => result
  | .error e => .error e.toFault

end CellScript
