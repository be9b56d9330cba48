import CellScript.Config
import CellScript.Json.Printer
import CellScript.Json.Reader
import CellScript.Json.Record

/-!
# Configurations as documents

A configuration is a record whose fields all have defaults.

## Main definitions

* `EngineConfig.document`, `EngineConfig.ofJson?` — the document of a configuration, and the
  configuration of a text.
-/

namespace CellScript

def DebugFlags.document (f : DebugFlags) : Json :=
  .object [("show_errors", .bool f.showErrors), ("show_warnings", .bool f.showWarnings),
    ("strict", .bool f.strict), ("trace_calls", .bool f.traceCalls), ("profile", .bool f.profile),
    ("trace_logic", .bool f.traceLogic), ("trace_taint", .bool f.traceTaint),
    ("throw_warnings", .bool f.throwWarnings)]

def EngineConfig.document (c : EngineConfig) : Json :=
  .object [("taint", .bool c.taint), ("max_call_depth", .number (toString c.maxCallDepth)),
    ("debug", c.debug.document)]

/-- Switches; those that are missing are as in the standard ones. -/
def DebugFlags.ofDocument? (room : Nat) (j : Json) : Option DebugFlags :=
  let names :=
    ["show_errors", "show_warnings", "strict", "trace_calls", "profile", "trace_logic",
      "trace_taint", "throw_warnings"]
  j.record? names room fun _ fields => do
    let flag (i : Nat) (standard : Bool) := Json.orDefault? standard Json.flag? (fields.getD i none)
    let s := DebugFlags.standard
    return { showErrors := ← flag 0 s.showErrors
             showWarnings := ← flag 1 s.showWarnings
             strict := ← flag 2 s.strict
             traceCalls := ← flag 3 s.traceCalls
             profile := ← flag 4 s.profile
             traceLogic := ← flag 5 s.traceLogic
             traceTaint := ← flag 6 s.traceTaint
             throwWarnings := ← flag 7 s.throwWarnings }

/-- A configuration; what is missing is as in the standard one. -/
def EngineConfig.ofDocument? (room : Nat) (j : Json) : Option EngineConfig :=
  j.record? ["taint", "max_call_depth", "debug"] room fun room fields => do
    let s := EngineConfig.standard
    return { taint := ← Json.orDefault? s.taint Json.flag? (fields.getD 0 none)
             maxCallDepth :=
               ← Json.orDefault? s.maxCallDepth (Json.unsigned? 64) (fields.getD 1 none)
             debug := ← Json.orDefault? s.debug (DebugFlags.ofDocument? room) (fields.getD 2 none) }

/-- The configuration of a text. -/
def EngineConfig.ofJson? (text : String) : Option EngineConfig :=
  (Json.read? text).bind (EngineConfig.ofDocument? 128)

end CellScript
