/-!
# Configuration

The switches of an engine. The debug switches have a compact numeric form, the debug level.

## Main definitions

* `DebugFlags`, `DebugFlags.ofLevel`, `DebugFlags.level` — the debug switches and their level.
* `EngineConfig` — the configuration of an engine.
-/

namespace CellScript

/-- What is reported while a script runs. -/
structure DebugFlags where
  showErrors : Bool
  showWarnings : Bool
  /-- warn when a variable is used before it is declared -/
  strict : Bool
  traceCalls : Bool
  profile : Bool
  traceLogic : Bool
  traceTaint : Bool
  /-- warnings become throws -/
  throwWarnings : Bool
  deriving DecidableEq, Inhabited, Repr

namespace DebugFlags

/-- Bits 0 to 2 show errors and warnings and make the script strict, bit 3 traces calls and counts
them, with bit 4 only counts them, bit 5 throws warnings, bits 6 and 7 trace conditions and
taint. -/
def ofLevel (level : Nat) : DebugFlags :=
  let traced := level.testBit 3
  { showErrors := level.testBit 0
    showWarnings := level.testBit 1
    strict := level.testBit 2
    traceCalls := traced && !level.testBit 4
    profile := traced
    traceLogic := level.testBit 6
    traceTaint := level.testBit 7
    throwWarnings := level.testBit 5 }

/-- The level of a set of switches. -/
def level (f : DebugFlags) : Nat :=
  (if f.showErrors then 1 else 0) + (if f.showWarnings then 2 else 0) +
  (if f.strict then 4 else 0) +
    (if f.traceCalls then 8 else if f.profile then 24 else 0) +
    (if f.throwWarnings then 32 else 0) +
    (if f.traceLogic then 64 else 0) + (if f.traceTaint then 128 else 0)

/-- Whether calls have to be timed. -/
def timing (f : DebugFlags) : Bool :=
  f.traceCalls || f.profile

/-- Errors and warnings are shown, and nothing else. -/
def standard : DebugFlags :=
  ofLevel 3

end DebugFlags

/-- The configuration of an engine. -/
structure EngineConfig where
  /-- guard the functions that taint concerns -/
  taint : Bool
  maxCallDepth : Nat
  debug : DebugFlags
  deriving DecidableEq, Inhabited, Repr

def EngineConfig.standard : EngineConfig :=
  ⟨false, 1024, .standard⟩

end CellScript
