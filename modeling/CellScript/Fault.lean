import CellScript.Decimal.Numeral
import CellScript.Value

/-!
# Faults

What can go wrong while a script runs. A fault says its cause; its wording is `Fault.message`. A
fault that is not fatal becomes a throw that the script may catch; fatal faults and taint violations
end the run.

## Main definitions

* `BadIndex`, `Staleness`, `BadCast`, `NullUse`, `Mishap` — causes of the common classes of faults.
* `Fault` — a fault; `FaultClass` its class and `FaultKind` the kind that a script is told of.
* `Fault.stated?` — the fault of a class and a text.
-/

namespace CellScript

/-- An index outside of what it indexes. -/
inductive BadIndex where
  | beforeFirst (index : Int) (size : Nat)
  | insertion (index : Int) (size : Nat)
  | removal (index : Int) (size : Nat)
  | window (first last : Nat) (size : Nat)
  | inText (index : Int) (length : Nat)
  | substring (start : Int) (stop : Nat) (text : String)
  | stated (text : String)
  deriving Repr

/-- A view that no longer fits the sequence it looks at. -/
inductive Staleness where
  | anchorRemoved
  | tooFewElements
  | stated (text : String)
  deriving Repr

/-- A value of the wrong type. -/
inductive BadCast where
  | argument (function : String) (position : Nat) (wanted : String) (got : String)
  | pairWanted
  | pairWantedFor (function : String) (got : String)
  | notIterable (type : String)
  | notCallable (type : String)
  | notFunction (type : String)
  | notIndexable (type : String)
  | noMessages (member : String) (type : String)
  | hashWanted (predicate : String) (type : String)
  | noWaiting (what : String)
  | noWaitingFor (type : String)
  | noClosing (type : String)
  | stated (text : String)
  deriving Repr

/-- A use of the empty value. -/
inductive NullUse where
  | call
  | send (member : Option String)
  | stated (text : String)
  deriving Repr

/-- What else can go wrong without ending the run. -/
inductive Mishap where
  | reorder (expected got : Nat)
  | unknownOperator (op : String)
  | unknownPredicate (name : String)
  | operandCount (op : String) (got : Nat)
  | predicateOperands (name : String) (wanted got : Nat)
  | divisionByZero
  | targetWithoutValue
  | flowInExpression (flow : String)
  | suspendedInline (name : String)
  | noIterator
  | callDepth (limit : Nat)
  | ownerUnloaded (what : String)
  | noReceiver
  | callccOutside (target : String)
  | thisOutside (name : String)
  | debugLevel (level : Int)
  | pattern (source : String)
  | emptyCommand
  | command (line : String) (problem : String)
  | port (function : String) (number : Int)
  | handleClosed
  | portInUse (number : Nat)
  | notListening (number : Nat)
  | resultTaken
  | stated (text : String)
  deriving Repr

/-- A fault and its cause. -/
inductive Fault where
  | badIndex (cause : BadIndex)
  | badCast (cause : BadCast)
  | nullDereference (cause : NullUse)
  | concurrentModification (cause : Staleness)
  | runtime (cause : Mishap)
  | fatal (text : String)
  | taintViolation (text : String)
  | timeout (milliseconds : Nat)
  /-- a throw of a script on its way through host code -/
  | thrown (value : CellRef)
  deriving Repr

/-- The classes of faults. -/
inductive FaultClass where
  | badIndex
  | badCast
  | nullDereference
  | concurrentModification
  | runtime
  | fatal
  | taintViolation
  | timeout
  | thrown
  deriving DecidableEq, Repr

/-- The kinds of faults; a throw of a script has none. -/
inductive FaultKind where
  | badIndex
  | badCast
  | nullDereference
  | concurrentModification
  | runtime
  | fatal
  deriving DecidableEq, Repr

def FaultKind.text : FaultKind → String
  | .badIndex => "bad index"
  | .badCast => "bad cast"
  | .nullDereference => "null dereference"
  | .concurrentModification => "concurrent modification"
  | .runtime => "runtime"
  | .fatal => "fatal"

def BadIndex.text : BadIndex → String
  | .beforeFirst index size => s!"{index} from end of sequence of size {size}"
  | .insertion index size => s!"insert at {index} into sequence of size {size}"
  | .removal index size => s!"remove {index} from sequence of size {size}"
  | .window first last size => s!"sublist [{first}, {last}) of sequence of size {size}"
  | .inText index length => s!"{index} in a string of length {length}"
  | .substring start stop text => s!"substr: start {start} is past end {stop} of \"{text}\""
  | .stated text => text

def Staleness.text : Staleness → String
  | .anchorRemoved => "sublist anchor was removed from its parent"
  | .tooFewElements => "sublist window extends past the end of its parent"
  | .stated text => text

def BadCast.text : BadCast → String
  | .argument function position wanted got =>
    s!"{function}: argument {position} must be {wanted}, got {got}"
  | .pairWanted => "&add: expected key => value"
  | .pairWantedFor function got => s!"{function}: expected key => value, got {got}"
  | .notIterable type => s!"cannot iterate over a value of type {type}"
  | .notCallable type => s!"a value of type {type} is not callable"
  | .notFunction type => s!"{type} is not a function"
  | .notIndexable type => s!"cannot index into a value of type {type}"
  | .noMessages member type => s!"cannot send {member} to a value of type {type}"
  | .hashWanted predicate type => s!"{predicate} expects a hash, got {type}"
  | .noWaiting what => s!"&wait: cannot wait on {what}"
  | .noWaitingFor type => s!"&wait: cannot wait on a value of type {type}"
  | .noClosing type => s!"&closef: cannot close a value of type {type}"
  | .stated text => text

def NullUse.text : NullUse → String
  | .call => "cannot call $null"
  | .send member => "cannot send " ++ member.getD "a call" ++ " to $null"
  | .stated text => text

/-- `operand` or `operands`. -/
def operandWord (n : Nat) : String :=
  if n = 1 then "operand" else "operands"

def Mishap.text : Mishap → String
  | .reorder expected got => s!"reorder expected {expected} elements, got {got}"
  | .unknownOperator op => s!"unknown operator '{op}'"
  | .unknownPredicate name => s!"unknown predicate '{name}'"
  | .operandCount op got => s!"operator {op} expects 2 operands, got {got}"
  | .predicateOperands name wanted got =>
    s!"predicate {name} expects {wanted} " ++ operandWord wanted ++ s!", got {got}"
  | .divisionByZero => "division by zero"
  | .targetWithoutValue => "assignment target produced no value"
  | .flowInExpression flow => s!"{flow} is not allowed inside an expression"
  | .suspendedInline name => s!"yield and callcc are not allowed in inline code ({name})"
  | .noIterator => "no active iterator"
  | .callDepth limit => s!"stack overflow: call depth exceeded {limit}"
  | .ownerUnloaded what => s!"the script that owns this {what} was unloaded"
  | .noReceiver => "message send without a receiver"
  | .callccOutside target => s!"callcc outside a closure (target {target})"
  | .thisOutside name => s!"&this: {name} declared outside a closure"
  | .debugLevel level => s!"invalid debug level {level}"
  | .pattern source => s!"invalid pattern '{source}'"
  | .emptyCommand => "&exec: empty command"
  | .command line problem => s!"&exec: {line}: {problem}"
  | .port function number => s!"{function}: invalid port {number}"
  | .handleClosed => "handle is closed"
  | .portInUse number => s!"port {number} already has a listener"
  | .notListening number => s!"no listener on port {number}"
  | .resultTaken => "worker result was already taken"
  | .stated text => text

namespace Fault

def faultClass : Fault → FaultClass
  | .badIndex _ => .badIndex
  | .badCast _ => .badCast
  | .nullDereference _ => .nullDereference
  | .concurrentModification _ => .concurrentModification
  | .runtime _ => .runtime
  | .fatal _ => .fatal
  | .taintViolation _ => .taintViolation
  | .timeout _ => .timeout
  | .thrown _ => .thrown

/-- The kind of a fault. A timeout counts as a runtime fault and a taint violation as a fatal
one. -/
def kind : Fault → Option FaultKind
  | .badIndex _ => some .badIndex
  | .badCast _ => some .badCast
  | .nullDereference _ => some .nullDereference
  | .concurrentModification _ => some .concurrentModification
  | .runtime _ | .timeout _ => some .runtime
  | .fatal _ | .taintViolation _ => some .fatal
  | .thrown _ => none

/-- No script can catch a fatal fault or a taint violation. -/
def isFatal : Fault → Bool
  | .fatal _ | .taintViolation _ => true
  | _ => false

/-- The wording of a fault; `textOf` gives the text of a thrown value. -/
def message (textOf : CellRef → String) : Fault → String
  | .badIndex cause => "index out of bounds: " ++ cause.text
  | .badCast cause => "bad cast: " ++ cause.text
  | .nullDereference cause => "null dereference: " ++ cause.text
  | .concurrentModification cause => "concurrent modification: " ++ cause.text
  | .runtime cause => cause.text
  | .fatal text => "fatal: " ++ text
  | .taintViolation text => "taint violation: " ++ text
  | .timeout milliseconds => s!"operation timed out after {milliseconds} ms"
  | .thrown value => "uncaught exception: " ++ textOf value

end Fault

/-! ## Faults by name -/

/-- The fault of a class and a text, when the class is known. -/
def Fault.stated? (className text : String) : Option Fault :=
  match className with
  | "BadIndex" => some (.badIndex (.stated text))
  | "BadCast" => some (.badCast (.stated text))
  | "NullDereference" => some (.nullDereference (.stated text))
  | "ConcurrentModification" => some (.concurrentModification (.stated text))
  | "Runtime" => some (.runtime (.stated text))
  | "Fatal" => some (.fatal text)
  | "TaintViolation" => some (.taintViolation text)
  | "Timeout" => some (.timeout ((Decimal.readUnsigned? 64 text).getD 0))
  | _ => none

end CellScript
