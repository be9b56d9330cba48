/-!
# Names of the library

## Main definitions

* `TaintPolicy` — what a function does to taint.
* `LibraryFunction` — the functions that every script has.
* `Probe` — functions that an embedding program may add.
-/

namespace CellScript

/-- What a function does to taint. -/
inductive TaintPolicy where
  /-- tainted arguments give a tainted result -/
  | permeable
  /-- refuses tainted arguments -/
  | sensitive
  /-- the result is always tainted -/
  | tainter
  /-- the result is always clean -/
  | sanitizer
  deriving DecidableEq, Inhabited, Repr

def TaintPolicy.name : TaintPolicy → String
  | .permeable => "permeable"
  | .sensitive => "sensitive"
  | .tainter => "tainter"
  | .sanitizer => "sanitizer"

/-- The functions that every script has. -/
inductive LibraryFunction where
  | add | array | closef | connect | copy | debug | double | exec | filter | getStackTrace | hash
  | importClass | int
  | invoke | join | keys | lc | listen | localNames | map | ohash | ohasha | pop | print | println
  | profile | push
  | putAll | readln | remove | reverse | setCapacity | setMissPolicy | setRemovalPolicy | shift
  | size | sort
  | split | strlen | sublist | substr | taint | thisNames | typeOf | uc | unshift | untaint | values
  | wait | warn
  deriving DecidableEq, Inhabited, Repr

namespace LibraryFunction

/-- The library functions under their names. -/
def table : List (String × LibraryFunction) :=
  [("&add", .add), ("&array", .array), ("&closef", .closef), ("&connect", .connect),
    ("&copy", .copy), ("&debug", .debug), ("&double", .double), ("&exec", .exec),
    ("&filter", .filter), ("&getStackTrace", .getStackTrace), ("&hash", .hash),
    ("&import", .importClass), ("&int", .int), ("&invoke", .invoke), ("&join", .join),
    ("&keys", .keys), ("&lc", .lc), ("&listen", .listen), ("&local", .localNames), ("&map", .map),
    ("&ohash", .ohash), ("&ohasha", .ohasha), ("&pop", .pop), ("&print", .print),
    ("&println", .println), ("&profile", .profile), ("&push", .push), ("&putAll", .putAll),
    ("&readln", .readln), ("&remove", .remove), ("&reverse", .reverse),
    ("&setCapacity", .setCapacity), ("&setMissPolicy", .setMissPolicy),
    ("&setRemovalPolicy", .setRemovalPolicy), ("&shift", .shift), ("&size", .size),
    ("&sort", .sort), ("&split", .split), ("&strlen", .strlen), ("&sublist", .sublist),
    ("&substr", .substr), ("&taint", .taint), ("&this", .thisNames), ("&typeOf", .typeOf),
    ("&uc", .uc), ("&unshift", .unshift), ("&untaint", .untaint), ("&values", .values),
    ("&wait", .wait), ("&warn", .warn)]

/-- What a library function does to taint. -/
def taintPolicy : LibraryFunction → TaintPolicy
  | .readln => .tainter
  | .exec => .sensitive
  | .untaint => .sanitizer
  | _ => .permeable

end LibraryFunction

/-- Functions that an embedding program may add to try out an engine. -/
inductive Probe where
  /-- fail with a fault of a given class and text -/
  | fault
  /-- a handle over lines -/
  | buffer
  /-- the rest of a handle -/
  | slurp
  /-- whether a value can be called -/
  | callable
  /-- where the run is -/
  | location
  /-- the first argument -/
  | first
  deriving DecidableEq, Inhabited, Repr

end CellScript
