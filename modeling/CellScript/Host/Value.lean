import CellScript.Heap.Text

/-!
# The host side of the bridge

Types that host members declare, values on the side of the host, and what host code fails with.

## Main definitions

* `HostType` — declared types; `HostType.spelling` writes one.
* `HostValue` — values of the host; `Heap.renderHost` their text.
* `HostFault` — why a host member failed.
-/

namespace CellScript

/-- The declared type of a parameter, a field or a result. -/
inductive HostType where
  | void
  | boolean
  | char
  | byte
  | short
  | int
  | long
  | float
  | double
  | text
  | object
  | array (element : HostType)
  | collection
  | map
  /-- a class or interface by name -/
  | named (name : String)
  deriving DecidableEq, Inhabited, Repr

namespace HostType

def spelling : HostType → String
  | .void => "void"
  | .boolean => "boolean"
  | .char => "char"
  | .byte => "byte"
  | .short => "short"
  | .int => "int"
  | .long => "long"
  | .float => "float"
  | .double => "double"
  | .text => "String"
  | .object => "Object"
  | .array element => element.spelling ++ "[]"
  | .collection => "Collection"
  | .map => "Map"
  | .named name => name

def isNumeric : HostType → Bool
  | .byte | .short | .int | .long | .float | .double => true
  | _ => false

def isPrimitive : HostType → Bool
  | .boolean | .char => true
  | t => t.isNumeric

/-- A rank for ties between overloads: types of exact values before named classes before
`Object`. -/
def specificity : HostType → Nat
  | .object | .void => 0
  | .named _ | .collection | .map => 1
  | _ => 2

end HostType

/-- A value of the host. -/
inductive HostValue where
  | null
  | bool (b : Bool)
  | char (c : Char)
  | int (n : Int64)
  | float (x : Float)
  | text (s : String)
  | array (items : List HostValue)
  | list (items : List HostValue)
  | map (entries : List (String × HostValue))
  | object (o : ObjectRef)
  | function (f : FunctionRef)
  deriving Inhabited

namespace HostValue

def int? : HostValue → Option Int64
  | .int n => some n
  | .float x => some x.toInt64
  | .bool b => some (if b then 1 else 0)
  | .char c => some (Int64.ofNat c.toNat)
  | _ => none

def float? : HostValue → Option Float
  | .int n => some (nearestFloat n)
  | .float x => some x
  | _ => none

def text? : HostValue → Option String
  | .text s => some s
  | _ => none

def object? : HostValue → Option ObjectRef
  | .object o => some o
  | _ => none

end HostValue

namespace Heap

mutual

/-- The text of a value as host code prints it. -/
def renderHost (h : Heap) : HostValue → String
  | .null => "null"
  | .bool b => if b then "true" else "false"
  | .char c => String.singleton c
  | .int n => toString n
  | .float x => Decimal.valueText x
  | .text s => s
  | .array items => "[" ++ ", ".intercalate (h.renderHostItems items) ++ "]"
  | .list items => "[" ++ ", ".intercalate (h.renderHostItems items) ++ "]"
  | .map entries => "\x7b" ++ ", ".intercalate (h.renderHostEntries entries) ++ "\x7d"
  | .object o => h.describeObject o
  | .function f => (h.callable f).describe

/-- The texts of several values. -/
def renderHostItems (h : Heap) : List HostValue → List String
  | [] => []
  | item :: rest => h.renderHost item :: h.renderHostItems rest

/-- The texts of entries, a name and a value each. -/
def renderHostEntries (h : Heap) : List (String × HostValue) → List String
  | [] => []
  | (name, value) :: rest => (name ++ "=" ++ h.renderHost value) :: h.renderHostEntries rest

end

/-- The text of a value for a listing; objects and functions are named. -/
def debugHost (h : Heap) : HostValue → String
  | .object o => "Object(" ++ (h.object o).className ++ ")"
  | .function f => "Function(" ++ (h.callable f).describe ++ ")"
  | other => h.renderHost other

end Heap

/-- Why a host member failed. -/
inductive HostFault where
  | noSuchMember (text : String)
  | illegalArgument (text : String)
  | inaccessible (text : String)
  | instantiation (text : String)
  /-- an exception of host code, which becomes a throw -/
  | thrown (text : String)
  | fatal (text : String)
  /-- a callback handed tainted data to a sensitive function -/
  | taintViolation (text : String)
  deriving DecidableEq, Inhabited, Repr

def HostFault.message : HostFault → String
  | .noSuchMember text => "no such member: " ++ text
  | .illegalArgument text => "illegal argument: " ++ text
  | .inaccessible text => "inaccessible member: " ++ text
  | .instantiation text => "cannot instantiate " ++ text
  | .thrown text | .fatal text | .taintViolation text => text

end CellScript
