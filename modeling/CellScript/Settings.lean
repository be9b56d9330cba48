import CellScript.Config
import CellScript.Files.Tree
import CellScript.Toml.Reader

/-!
# Settings

What a user sets for all runs, in a file `drowse.toml` with the sections `engine`, `console` and
`log`. Everything has a default, and what is unknown is ignored. The nearest file at or above a
directory counts.

## Main definitions

* `Settings`, `Settings.standard` — the settings and their defaults.
* `Settings.read?`, `Settings.template` — the settings of a text, and a text to start from.
* `Overrides`, `Settings.apply` — settings for a single run.
* `Settings.discover`, `load`, `writeTemplate` — find, read and create the file.
* `Settings.historyPath` — where the console keeps its history.
-/

namespace CellScript

structure Settings where
  taint : Bool
  maxCallDepth : Nat
  debugLevel : Nat
  /-- the stack for scripts in units of 1024 * 1024 bytes -/
  stackUnits : Nat
  prompt : String
  history : Option String
  logFilter : String
  deriving DecidableEq, Inhabited, Repr

/-- Settings for a single run; what is missing is as in the file. -/
structure Overrides where
  taint : Option Bool
  maxCallDepth : Option Nat
  debugLevel : Option Nat
  deriving Inhabited, Repr

/-- Why there are no settings. -/
inductive SettingsError where
  | read (e : FileError)
  | parse
  | write (e : FileError)
  deriving DecidableEq, Repr

namespace Settings

def standard : Settings where
  taint := EngineConfig.standard.taint
  maxCallDepth := EngineConfig.standard.maxCallDepth
  debugLevel := EngineConfig.standard.debug.level
  stackUnits := 64
  prompt := "drowse> "
  history := none
  logFilter := "warn"

/-- A field that may be missing. -/
def orStandard {α : Type} (standard : α) (read : Toml → Option α) : Option Toml → Option α
  | none => some standard
  | some value => read value

/-- The fields of a section, which may be missing itself. -/
def section? (names : List String) : Option Toml → Option (List (Option Toml)) :=
  orStandard (names.map fun _ => none) (Toml.fields? names)

def ofToml? (document : Toml) : Option Settings := do
  let sections ← document.fields? ["engine", "console", "log"]
  let engine ← section? ["taint", "max_call_depth", "debug", "stack_mib"] (sections.getD 0 none)
  let console ← section? ["prompt", "history"] (sections.getD 1 none)
  let log ← section? ["filter"] (sections.getD 2 none)
  let s := standard
  return { taint := ← orStandard s.taint Toml.boolean? (engine.getD 0 none)
           maxCallDepth :=
             ← orStandard s.maxCallDepth (Toml.natBelow? (Nat.pow 2 64)) (engine.getD 1 none)
           debugLevel :=
             ← orStandard s.debugLevel (Toml.natBelow? (Nat.pow 2 32)) (engine.getD 2 none)
           stackUnits :=
             ← orStandard s.stackUnits (Toml.natBelow? (Nat.pow 2 64)) (engine.getD 3 none)
           prompt := ← orStandard s.prompt Toml.text? (console.getD 0 none)
           history := ← orStandard s.history (fun t => t.text?.map some) (console.getD 1 none)
           logFilter := ← orStandard s.logFilter Toml.text? (log.getD 0 none) }

/-- The settings of a text. -/
def read? (text : String) : Option Settings :=
  (Toml.read? text).bind ofToml?

/-- The settings with those of a run in their place. -/
def apply (s : Settings) (o : Overrides) : Settings :=
  { s with
    taint := o.taint.getD s.taint
    maxCallDepth := o.maxCallDepth.getD s.maxCallDepth
    debugLevel := o.debugLevel.getD s.debugLevel }

def engineConfig (s : Settings) : EngineConfig :=
  ⟨s.taint, s.maxCallDepth, .ofLevel s.debugLevel⟩

/-- The bytes of the stack for scripts, as a 64-bit word; there is at least one unit. -/
def stackSize (s : Settings) : Nat :=
  max s.stackUnits 1 * (1024 * 1024) % Nat.pow 2 64

/-- A text with the defaults to start from. -/
def template : String :=
  "\n".intercalate [
    "# Drowse configuration",
    "",
    "[engine]",
    "# Track data read from the console, sockets and processes.",
    "taint = false",
    "max_call_depth = 1024",
    "# 1 errors, 2 warnings, 4 strict, 8 trace calls, 24 profile only,",
    "# 34 warnings throw, 64 trace logic, 128 trace taint",
    "debug = 3",
    "stack_mib = 64",
    "",
    "[console]",
    "prompt = \"drowse> \"",
    "# history = \"~/.drowse/history\"",
    "",
    "[log]",
    "# Overridden by DROWSE_LOG.",
    "filter = \"warn\"",
    ""]

/-! ## The file -/

def fileName : String :=
  "drowse.toml"

/-- The file that counts when no other one does. -/
def globalPath (home : String) : String :=
  [".config", "drowse", fileName].foldl Path.join home

variable {m : Type → Type} [Monad m] [FileAccess m]

/-- The first path that leads to a file. -/
def firstFile? : List String → m (Option String)
  | [] => return none
  | path :: rest => do if ← FileAccess.isFile path then return some path else firstFile? rest

/-- The nearest file at or above a directory, or another one if it exists. -/
def discover (start : String) (fallback : Option String) : m (Option String) :=
  firstFile? ((Path.ancestors start).map (Path.join · fileName) ++ fallback.toList)

def load (path : String) : m (Except SettingsError Settings) := do
  match ← FileAccess.readText path with
  | .error e => return .error (.read e)
  | .ok text => return ((read? text).map .ok).getD (.error .parse)

/-- Create a file with the defaults; whether there was none before. -/
def writeTemplate (path : String) : m (Except SettingsError Bool) := do
  if ← FileAccess.isKnown path then return .ok false
  match ← FileAccess.write path (Bytes.utf8 template) with
  | .ok _ => return .ok true
  | .error e => return .error (.write e)

/-- Where the console keeps its history: in the file that is set, else in one in the home directory.
A tilde stands for the home directory, and relative paths start there. -/
def historyPath (home : Option String) (set : Option String) : Option String :=
  match (set.map Text.trim).filter (!·.isEmpty) with
  | none => home.map fun home => Path.join (Path.join home ".drowse") "history"
  | some path =>
    match path.toList with
    | ['~'] => home
    | '~' :: '/' :: rest => home.map (Path.join · (String.ofList rest))
    | _ => if Path.isAbsolute path then some path else home.map (Path.join · path)

end Settings

end CellScript
