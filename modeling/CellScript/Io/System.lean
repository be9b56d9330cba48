import CellScript.Io.Port

/-!
# The system outside

An engine starts processes, opens ports and makes connections by asking the system for it. What
comes of a request is up to the system: it is a function of the request, and of its number, so that
the same request may come to something else the next time.

## Main definitions

* `System` — what comes of requests.
* `System.still` — a system with a few programs on which nobody connects to anybody.
* `Outside` — a system, with the number of requests so far and the ports that are listened on.
-/

namespace CellScript

/-- What comes of requests to the system, which go by numbers. A problem is told in the words of the
system. -/
structure System where
  /-- start a program with arguments -/
  spawn : Nat → String → List String → Except String Stream
  /-- bind a listener to a port, or to any free one for 0 -/
  bind : Nat → Nat → Except String Nat
  /-- the next connection that comes in on a port -/
  accept : Nat → Nat → Eventual (Except String Stream)
  /-- a connection to a host and port -/
  connect : Nat → String → Eventual (Except String Stream)

namespace System

/-- A system with four programs that end at once, on which all ports are free and nobody connects to
anybody. -/
def still : System where
  spawn _ program args :=
    let process (output : List UInt8) (echoes : Bool) (exitCode : Int) : Except String Stream :=
      .ok ⟨some output, true, echoes, some ⟨some exitCode, some 0⟩⟩
    match program, args with
    | "cat", [] => process [] true 0
    | "echo", args => process (Bytes.utf8 (" ".intercalate args ++ "\n")) false 0
    | "true", _ => process [] false 0
    | "false", _ => process [] false 1
    | _, _ => .error "No such file or directory (os error 2)"
  bind n port := .ok (if port = 0 then 49152 + n else port)
  accept _ _ := ⟨.error "", none⟩
  connect _ _ := ⟨.error "Connection refused (os error 111)", some 0⟩

end System

/-- The system, and what the engine has asked of it. -/
structure Outside where
  system : System
  requests : Nat
  ports : Ports

namespace Outside

/-- Nothing was asked yet. -/
def ofSystem (system : System) : Outside :=
  ⟨system, 0, .empty⟩

instance : Inhabited Outside := ⟨ofSystem .still⟩

end Outside

end CellScript
