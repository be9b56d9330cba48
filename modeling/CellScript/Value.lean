/-!
# Values and cells

A value is plain content with a taint mark. Numbers and strings are copied; containers, host objects
and functions are shared by reference. A variable or an element is a cell that holds a value:
assigning replaces the value and keeps the cell.

## Main definitions

* `CellRef`, `SequenceRef`, `TableRef`, `ObjectRef`, `FunctionRef`, `VarsRef` — references into a
  heap.
* `Content` — what a value is, apart from taint.
* `Value` — content and its taint mark.
* `nearestFloat` — the float for an integer.
-/

namespace CellScript

/-- A cell. -/
structure CellRef where
  index : Nat
  deriving DecidableEq, Inhabited, Repr

/-- A sequence, or a live window onto one. -/
structure SequenceRef where
  index : Nat
  deriving DecidableEq, Inhabited, Repr

/-- A map. -/
structure TableRef where
  index : Nat
  deriving DecidableEq, Inhabited, Repr

/-- A host object. -/
structure ObjectRef where
  index : Nat
  deriving DecidableEq, Inhabited, Repr

/-- Something that can be called. -/
structure FunctionRef where
  index : Nat
  deriving DecidableEq, Inhabited, Repr

/-- A container of variables. -/
structure VarsRef where
  index : Nat
  deriving DecidableEq, Inhabited, Repr

/-- A loaded script. -/
structure ScriptRef where
  index : Nat
  deriving DecidableEq, Inhabited, Repr

/-- The float nearest to an integer; of two as near, the even one. -/
def nearestFloat (n : Int64) : Float :=
  .ofModel (.ofInt64 n)

/-- A value without its taint mark. -/
inductive Content where
  | null
  | int (n : Int64)
  | float (x : Float)
  | text (s : String)
  | object (o : ObjectRef)
  | sequence (s : SequenceRef)
  | table (t : TableRef)
  | function (f : FunctionRef)
  deriving Inhabited

/-- A value. Whether it is tainted does not change what it is. -/
structure Value where
  content : Content
  tainted : Bool
  deriving Inhabited

namespace Content

/-- The name of the type, as scripts see it. -/
def typeName : Content → String
  | .null => "null"
  | .int _ => "int"
  | .float _ => "double"
  | .text _ => "string"
  | .object _ => "object"
  | .sequence _ => "array"
  | .table _ => "hash"
  | .function _ => "function"

def isNull : Content → Bool
  | .null => true
  | _ => false

def isNumber : Content → Bool
  | .int _ | .float _ => true
  | _ => false

/-- Everything but the empty value, zero, the empty string and the string `0`. -/
def isTruthy : Content → Bool
  | .null => false
  | .int n => n != 0
  | .float x => x != 0
  | .text s => s != "" && s != "0"
  | _ => true

/-- Numbers by amount, strings by text, shared values by identity. -/
def same : Content → Content → Bool
  | .null, .null => true
  | .int a, .int b => a == b
  | .float a, .float b => a == b
  | .int a, .float b => nearestFloat a == b
  | .float a, .int b => a == nearestFloat b
  | .text a, .text b => a == b
  | .sequence a, .sequence b => a == b
  | .table a, .table b => a == b
  | .object a, .object b => a == b
  | .function a, .function b => a == b
  | _, _ => false

end Content

namespace Value

/-- Untainted content. -/
def clean (content : Content) : Value :=
  ⟨content, false⟩

def null : Value := clean .null

def taint (v : Value) : Value :=
  { v with tainted := true }

def untaint (v : Value) : Value :=
  { v with tainted := false }

/-- Equality as scripts see it: taint does not count. -/
def same (v w : Value) : Bool :=
  v.content.same w.content

def isNull (v : Value) : Bool :=
  v.content.isNull

@[simp] theorem taint_taint (v : Value) : v.taint.taint = v.taint := rfl

@[simp] theorem untaint_taint (v : Value) : v.taint.untaint = v.untaint := rfl

end Value

end CellScript
