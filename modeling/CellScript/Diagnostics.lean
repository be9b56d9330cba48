import CellScript.Config
import CellScript.Decimal.Format
import CellScript.Dictionary

/-!
# Diagnostics

Warnings and call traces, the stack trace of a throw, and call profiles: how often functions were
called and how long they took, by name and by the line of the call.

## Main definitions

* `Warning` — a report to watchers; `Warning.text` its line of text.
* `StackFrame`, `formatStackTrace` — the calls that a throw passed through.
* `CallStat` — calls and nanoseconds.
* `Profiler.record`, `Profiler.entries`, `Profiler.lineEntries` — count a call; the counts in order.
* `formatEntry` — a line of a profile.
-/

namespace CellScript

/-- A report. -/
structure Warning where
  message : String
  line : UInt32
  source : Option String
  /-- a call trace, not a problem -/
  trace : Bool
  deriving DecidableEq, Inhabited, Repr

/-- Where something is: in a source at a line, or at a line. -/
def locationText (source : Option String) (line : UInt32) : String :=
  match source with
  | some source => s!"at {source}:{line}"
  | none => s!"at line {line}"

def Warning.text (w : Warning) : String :=
  (if w.trace then "Trace" else "Warning") ++ ": " ++ w.message ++ " " ++
    locationText w.source w.line

/-- A call that a throw passed through. -/
structure StackFrame where
  description : String
  source : Option String
  line : UInt32
  deriving DecidableEq, Inhabited, Repr

def StackFrame.text (f : StackFrame) : String :=
  f.description ++ " " ++ locationText f.source f.line

/-- Numbered frames, the latest first, one on each line. The frames are given from the first to the
latest. -/
def formatStackTrace (frames : List StackFrame) : String :=
  "\n".intercalate (frames.reverse.mapIdx fun i frame => s!"  #{i}: " ++ frame.text)

/-! ## Call profiles -/

/-- A number of calls and the nanoseconds they took. -/
structure CallStat where
  calls : Nat
  total : Nat
  deriving DecidableEq, Inhabited, Repr

/-- Counts by name and by call site, call sites in order. -/
structure Profiler where
  byName : Dictionary CallStat
  byLine : List ((Option String × UInt32) × CallStat)
  deriving Inhabited, Repr

def CallStat.add (s : CallStat) (nanoseconds : Nat) : CallStat :=
  ⟨s.calls + 1, s.total + nanoseconds⟩

/-- Sites without a source come first, then by source and line. -/
def siteBefore (a b : Option String × UInt32) : Bool :=
  match a.1, b.1 with
  | none, some _ => true
  | some _, none => false
  | none, none => a.2 < b.2
  | some s, some t => s < t || (s == t && a.2 < b.2)

namespace Profiler

def empty : Profiler :=
  ⟨.empty, []⟩

/-- Count a call at its site. -/
def recordSite (site : Option String × UInt32) (nanoseconds : Nat) :
    List ((Option String × UInt32) × CallStat) → List ((Option String × UInt32) × CallStat)
  | [] => [(site, ⟨1, nanoseconds⟩)]
  | (other, stat) :: rest =>
    if other = site then (other, stat.add nanoseconds) :: rest
    else if siteBefore site other then (site, ⟨1, nanoseconds⟩) :: (other, stat) :: rest
    else (other, stat) :: recordSite site nanoseconds rest

/-- Count a call. -/
def record (p : Profiler) (name : String) (source : Option String) (line : UInt32)
    (nanoseconds : Nat) :
    Profiler :=
  { byName := p.byName.insert name (((p.byName.get? name).getD ⟨0, 0⟩).add nanoseconds)
    byLine := recordSite (source, line) nanoseconds p.byLine }

/-- Names and counts, what took longest first and then by name. -/
def entries (p : Profiler) : List (String × CallStat) :=
  p.byName.entries.mergeSort fun a b => b.2.total ≤ a.2.total

end Profiler

/-- A line of a profile: seconds, calls and name. -/
def formatEntry (name : String) (stat : CallStat) : String :=
  let seconds := (stat.total / 1000000000).toFloat + (stat.total % 1000000000).toFloat / 1000000000
  Decimal.fixed 3 seconds ++ s!"s {stat.calls} {name}"

end CellScript
