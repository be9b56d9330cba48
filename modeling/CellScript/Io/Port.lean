import CellScript.Io.Handle

/-!
# Ports

The ports that an engine listens on. A port has at most one listener.

## Main definitions

* `Ports` — the ports with a listener.
* `Ports.isListening`, `Ports.listen`, `Ports.accept`, `Ports.release` — the operations on them.
-/

namespace CellScript

/-- The ports with a listener, in order. -/
structure Ports where
  listening : List Nat
  deriving DecidableEq, Inhabited, Repr

namespace Ports

def empty : Ports :=
  ⟨[]⟩

def isListening (p : Ports) (port : Nat) : Bool :=
  p.listening.contains port

/-- Open a port, which the system has bound to a number or not. Any free port is meant by 0. -/
def listen (p : Ports) (port : Nat) (bound : Except String Nat) : Except IoFault (Nat × Ports) :=
  if port ≠ 0 && p.isListening port then .error (.portInUse port)
  else
    match bound with
    | .error problem => .error (.system problem)
    | .ok bound =>
      .ok (bound, ⟨p.listening.filter (· < bound) ++ bound :: p.listening.filter (bound < ·)⟩)

/-- Why no connection has come in on a port up to a limit. -/
def accept (p : Ports) (port limit : Nat) : IoFault :=
  if p.isListening port then .timeout limit else .notListening port

/-- Close a port; whether it was open. -/
def release (p : Ports) (port : Nat) : Bool × Ports :=
  (p.isListening port, ⟨p.listening.filter (· ≠ port)⟩)

end Ports

end CellScript
