import CellScript.Decimal.Format
import CellScript.Decimal.Numeral
import CellScript.Heap.Container

/-!
# Values as text and numbers

Values have a plain form, which is what a script prints, and a quoted form for traces and for the
elements of containers. A container that is met again while it is being written is written as a
placeholder. As a number, what has none is zero.

## Main definitions

* `Callable.describe` — the name of a function in traces.
* `Heap.text`, `Heap.describe` — the plain and the quoted form of a value.
* `Heap.faultMessage` — the wording of a fault.
* `Heap.toInt`, `Heap.toFloat` — any value as an integer or a float.
* `Num`, `Heap.number` — the number that arithmetic takes a value for.
* `Num.compare` — the order of numbers.
-/

namespace CellScript

/-! ## Text -/

namespace Closure

/-- A name, or the source and line where the body starts. -/
def describe (c : Closure) : String :=
  match c.name with
  | some name => name
  | none => "&closure[" ++ c.source.getD "<unknown>" ++ s!":{c.body.firstLine}]"

end Closure

namespace Callable

def describe : Callable → String
  | .closure c => c.describe
  | .named name _ => name
  | .host name _ => name

end Callable

namespace HostObject

/-- The name of the class of an object. -/
def className : HostObject → String
  | .pair _ _ => "KeyValuePair"
  | .text _ => "String"
  | .builder _ => "StringBuilder"
  | .handle _ _ => "Handle"
  | .task _ => "Task"
  | .labelled className _ => className
  | .proxy _ interface => interface

end HostObject

namespace Heap

/-- More than the containers and objects that there are. -/
def depthBound (h : Heap) : Nat :=
  h.sequences.views.size + h.tables.size + h.objects.size + 1

/-- The text of content, quoted or plain, inside of the containers `path`. The elements of
containers are quoted; the key and the value of a pair are plain, each with a path of its own. -/
def render (h : Heap) : Nat → Bool → List Container → Content → String
  | 0, _, _, _ => ""
  | n + 1, quoted, path, content =>
    match content with
    | .null => if quoted then "$null" else ""
    | .int i => toString i
    | .float x => Decimal.valueText x
    | .text s => if quoted then "'" ++ s ++ "'" else s
    | .function f => (h.callable f).describe
    | .object o =>
      match h.object o with
      | .pair key value =>
        h.render n false [] (h.content key) ++ "=" ++ h.render n false [] (h.content value)
      | .text s => s
      | .builder s => s
      | .handle label handle =>
        s!"handle[{label}, " ++ (if handle.isClosed then "closed" else "open") ++ "]"
      | .task u =>
        s!"task[{u.task.name}, " ++ (if u.task.isFinished then "finished" else "running") ++ "]"
      | .labelled _ label => "<" ++ label ++ ">"
      | .proxy f interface => s!"{interface} proxy for " ++ (h.callable f).describe
    | .sequence s =>
      if path.contains (.sequence s) then "@(...)"
      else
        let items := (h.elements s).map fun cell =>
          h.render n true (.sequence s :: path) (h.content cell)
        "@(" ++ ", ".intercalate items ++ ")"
    | .table t =>
      if path.contains (.table t) then "%(...)"
      else
        let items := (h.entries t).map fun (key, cell) =>
          key ++ " => " ++ h.render n true (.table t :: path) (h.content cell)
        "%(" ++ ", ".intercalate items ++ ")"

/-- The plain form of content. -/
def contentText (h : Heap) (content : Content) : String :=
  h.render (h.nesting content + 1) false [] content

/-- The quoted form of content. -/
def contentDescribe (h : Heap) (content : Content) : String :=
  h.render (h.nesting content + 1) true [] content

/-- The plain form of what a cell holds. -/
def text (h : Heap) (cell : CellRef) : String :=
  h.contentText (h.content cell)

/-- The quoted form of what a cell holds. -/
def describe (h : Heap) (cell : CellRef) : String :=
  h.contentDescribe (h.content cell)

/-- The text of an object. -/
def describeObject (h : Heap) (o : ObjectRef) : String :=
  h.contentText (.object o)

/-- The wording of a fault. -/
def faultMessage (h : Heap) (fault : Fault) : String :=
  fault.message h.text

/-- The name of the type of what a cell holds. -/
def typeName (h : Heap) (cell : CellRef) : String :=
  (h.content cell).typeName

end Heap

/-! ## Values as numbers -/

namespace Heap

/-- Content as an integer: a string by its numeral, a container by its size. -/
def toInt (h : Heap) : Content → Int64
  | .null => 0
  | .int n => n
  | .float x => x.toInt64
  | .text s => Decimal.intOfText s
  | .sequence s => Int64.ofNat ((h.sequences.length s).toOption.getD 0)
  | .table t => Int64.ofNat (h.count t)
  | .object _ | .function _ => 0

/-- Content as a float. -/
def toFloat (h : Heap) : Content → Float
  | .int n => nearestFloat n
  | .float x => x
  | .text s => Decimal.floatOfText s
  | other => nearestFloat (h.toInt other)

def cellInt (h : Heap) (cell : CellRef) : Int64 :=
  h.toInt (h.content cell)

def cellFloat (h : Heap) (cell : CellRef) : Float :=
  h.toFloat (h.content cell)

def isTruthy (h : Heap) (cell : CellRef) : Bool :=
  (h.content cell).isTruthy

end Heap

/-- A number. -/
inductive Num where
  | int (n : Int64)
  | float (x : Float)
  deriving Inhabited

namespace Num

def toFloat : Num → Float
  | .int n => nearestFloat n
  | .float x => x

def content : Num → Content
  | .int n => .int n
  | .float x => .float x

end Num

/-- The order of floats; one that is not a number is equal to all. -/
def compareFloats (x y : Float) : Ordering :=
  if x < y then .lt else if y < x then .gt else .eq

/-- The order of texts by code points. -/
def compareTexts (s t : String) : Ordering :=
  if s < t then .lt else if t < s then .gt else .eq

/-- The order of numbers: exact between integers, by floats otherwise. -/
def Num.compare : Num → Num → Ordering
  | .int a, .int b => if a < b then .lt else if b < a then .gt else .eq
  | a, b => compareFloats a.toFloat b.toFloat

/-- The number that arithmetic takes content for. A string that is no numeral is zero. -/
def Heap.number (h : Heap) : Content → Num
  | .int n => .int n
  | .float x => .float x
  | .text s =>
    match Decimal.readInt64? (Text.trim s) with
    | some n => .int n
    | none =>
      match Decimal.readFloat? (Text.trim s) with
      | some x => .float x
      | none => .int 0
  | other => .int (h.toInt other)

/-- The integer for an order: -1, 0 or 1. -/
def orderingInt : Ordering → Int64
  | .lt => -1
  | .eq => 0
  | .gt => 1

end CellScript
