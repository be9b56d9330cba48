import CellScript.BackgroundTask
import CellScript.Bytes
import CellScript.Text.Category

/-!
# Handles

A handle is read from and written to until it is closed. A buffer handle serves prepared lines and
keeps what is written. A stream handle has a reader over bytes and a writer, each of which may be
missing; at its other side is a peer, which may answer what is written, and which may be a process
that ends after some time. What fails, fails for one of a few reasons, and a script sees each as a
fault.

## Main definitions

* `IoFault` — why an operation on a handle or a port failed.
* `IoFault.toFault` — the fault a script sees.
* `Peer` — the other side of a stream.
* `Buffer`, `Stream`, `Handle` — handles.
* `Handle.readLine`, `readAll`, `write`, `close`, `wait` — the operations, each with the handle
  after it.
* `Connection` — a handle with its label, or why there is none.
-/

namespace CellScript

/-- Why an operation on a handle or a port failed. -/
inductive IoFault where
  | closed
  | timeout (milliseconds : Nat)
  | portInUse (port : Nat)
  | notListening (port : Nat)
  /-- the system refused, in its own words -/
  | system (text : String)
  deriving Repr

namespace IoFault

def message : IoFault → String
  | .closed => "handle is closed"
  | .timeout milliseconds => s!"operation timed out after {milliseconds} ms"
  | .portInUse port => s!"port {port} already has a listener"
  | .notListening port => s!"no listener on port {port}"
  | .system text => text

def toFault : IoFault → Fault
  | .closed => .runtime .handleClosed
  | .timeout milliseconds => .timeout milliseconds
  | .portInUse port => .runtime (.portInUse port)
  | .notListening port => .runtime (.notListening port)
  | .system text => .runtime (.stated text)

end IoFault

/-- Prepared lines, and what was written. -/
structure Buffer where
  lines : List String
  written : String
  closed : Bool
  deriving Inhabited, Repr

/-- The other side of a stream, with what was sent to it, the latest first. -/
structure Peer where
  sent : List String
  /-- what it sends back when all this was sent to it, or why the latest does not get through -/
  answer : List String → Except String (List UInt8)

namespace Peer

/-- A peer that sends back what it is sent, or one that is silent. -/
def ofEcho (echoes : Bool) : Peer :=
  ⟨[], fun sent => .ok (if echoes then Bytes.utf8 (sent.headD "") else [])⟩

instance : Coe Bool Peer := ⟨ofEcho⟩

instance : Inhabited Peer := ⟨ofEcho false⟩

end Peer

/-- A reader over bytes and a writer. -/
structure Stream where
  reader : Option (List UInt8)
  writable : Bool
  peer : Peer
  /-- the exit code of the process behind it, when it has one -/
  process : Option (Eventual (Option Int))
  deriving Inhabited

/-- Something to read from and write to. -/
inductive Handle where
  | buffer (b : Buffer)
  | stream (s : Stream)
  deriving Inhabited

/-- A handle with its label, or why there is none. -/
abbrev Connection := Except String (String × Handle)

/-- A line without the line feeds and carriage returns at its end. -/
def stripNewline (line : String) : String :=
  String.ofList (Text.dropTrailing (fun c => c == '\n' || c == '\r') line.toList)

/-- Bytes up to and with the first line feed, and those after it. -/
def splitLine : List UInt8 → List UInt8 × List UInt8
  | [] => ([], [])
  | b :: rest =>
    if b = 10 then ([b], rest)
    else
      let (line, after) := splitLine rest
      (b :: line, after)

/-- Bytes that are no text. -/
def invalidText : IoFault :=
  .system "stream did not contain valid UTF-8"

namespace Buffer

def ofText (text : String) : Buffer :=
  ⟨Text.lines text, "", false⟩

end Buffer

namespace Stream

/-- The next line; bytes that are no text are skipped with an error. -/
def readLine (s : Stream) : Except IoFault (Option String) × Stream :=
  match s.reader with
  | none => (.error .closed, s)
  | some [] => (.ok none, s)
  | some bytes =>
    let (line, rest) := splitLine bytes
    let s := { s with reader := some rest }
    match Bytes.text? line with
    | none => (.error invalidText, s)
    | some text => (.ok (some (stripNewline text)), s)

/-- The rest; when it is no text it stays unread. -/
def readAll (s : Stream) : Except IoFault String × Stream :=
  match s.reader with
  | none => (.error .closed, s)
  | some bytes =>
    match Bytes.text? bytes with
    | none => (.error invalidText, s)
    | some text => (.ok text, { s with reader := some [] })

def write (s : Stream) (text : String) : Except IoFault Unit × Stream :=
  if s.writable then
    let peer := { s.peer with sent := text :: s.peer.sent }
    match peer.answer peer.sent with
    | .ok bytes => (.ok (), { s with peer, reader := s.reader.map (· ++ bytes) })
    | .error problem => (.error (.system problem), { s with peer })
  else (.error .closed, s)

end Stream

namespace Handle

def isClosed : Handle → Bool
  | .buffer b => b.closed
  | .stream s => s.reader.isNone && !s.writable

/-- The next line without its end, or nothing at the end of the input. -/
def readLine : Handle → Except IoFault (Option String) × Handle
  | .buffer b =>
    if b.closed then (.error .closed, .buffer b)
    else (.ok b.lines.head?, .buffer { b with lines := b.lines.tail })
  | .stream s =>
    let (result, s) := s.readLine
    (result, .stream s)

/-- The rest of the input. -/
def readAll : Handle → Except IoFault String × Handle
  | .buffer b =>
    if b.closed then (.error .closed, .buffer b)
    else (.ok ("\n".intercalate b.lines), .buffer { b with lines := [] })
  | .stream s =>
    let (result, s) := s.readAll
    (result, .stream s)

def write (text : String) : Handle → Except IoFault Unit × Handle
  | .buffer b =>
    if b.closed then (.error .closed, .buffer b)
    else (.ok (), .buffer { b with written := b.written ++ text })
  | .stream s =>
    let (result, s) := s.write text
    (result, .stream s)

def close : Handle → Handle
  | .buffer b => .buffer { b with closed := true }
  | .stream s => .stream { s with reader := none, writable := false }

/-- Stop writing and wait for the process behind the handle, if there is one; the result is its exit
code, unless something else ended it. -/
def wait : Handle → Option Int × Handle
  | .buffer b => (none, .buffer b)
  | .stream s => (s.process.bind (·.value), .stream { s with writable := false })

/-- How long a wait takes; there is nothing to wait for without a process. -/
def waitingTime : Handle → Option Nat
  | .stream ⟨_, _, _, some process⟩ => process.after
  | _ => some 0

/-- Milliseconds pass for the process behind the handle. -/
def later (milliseconds : Nat) : Handle → Handle
  | .buffer b => .buffer b
  | .stream s => .stream { s with process := s.process.map (·.later milliseconds) }

end Handle

end CellScript
