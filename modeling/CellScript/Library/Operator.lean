import CellScript.Machine.Basic
import CellScript.Text.Search

/-!
# Operators

## Main definitions

* `Operator`, `Operator.ofSymbol?` — the operators and their symbols.
* `Operator.apply` — the result of an operator on operand cells.
* `remainder` — the exact remainder of floats.
-/

namespace CellScript

/-- Arithmetic. -/
inductive Arithmetic where
  | add | subtract | multiply | divide | remainder | power
  deriving DecidableEq, Repr

/-- Operations on the bits of integers. -/
inductive Bitwise where
  | and | or | xor | shiftLeft | shiftRight
  deriving DecidableEq, Repr

/-- The operators. -/
inductive Operator where
  | arithmetic (op : Arithmetic)
  | bitwise (op : Bitwise)
  | concat
  | repeat
  | compareNumbers
  | compareTexts
  | not
  | pair
  deriving DecidableEq, Repr

/-- The operators under their symbols, in order. -/
def Operator.table : List (String × Operator) :=
  [("!", .not), ("%", .arithmetic .remainder), ("&", .bitwise .and), ("*", .arithmetic .multiply),
    ("**", .arithmetic .power), ("+", .arithmetic .add), ("-", .arithmetic .subtract),
    (".", .concat), ("/", .arithmetic .divide), ("<<", .bitwise .shiftLeft),
    ("<=>", .compareNumbers), ("=>", .pair), (">>", .bitwise .shiftRight), ("^", .bitwise .xor),
    ("cmp", .compareTexts), ("x", .repeat), ("|", .bitwise .or)]

/-- The symbols of all operators, in order. -/
def Operator.symbols : List String :=
  table.map (·.1)

def Operator.ofSymbol? (symbol : String) : Option Operator :=
  table.lookup symbol

/-- The exact remainder of `x` by `y`, with the sign of `x`. -/
def remainder (x y : Float) : Float :=
  if x.isNaN || y.isNaN || x.isInf || y == 0 then 0.0 / 0.0
  else
    match Decimal.Binary.ofFloat? x, Decimal.Binary.ofFloat? y with
    | none, _ => x
    | some _, none => x
    | some a, some b =>
      if y.isInf then x
      else
        let e := min a.exponent b.exponent
        let r :=
          (a.mantissa * Nat.pow 2 (a.exponent - e).toNat) %
            (b.mantissa * Nat.pow 2 (b.exponent - e).toNat)
        let magnitude := (Float.ofNat r).scaleB e
        if 0x8000000000000000 ≤ x.toBits then -magnitude else magnitude

/-- An integer to the power of another, when the exponent has 32 bits and the result 64. -/
def intPower? (a b : Int64) : Option Int64 :=
  if b < 0 ∨ 4294967295 < b then none
  else
    let exponent := b.toNatClampNeg
    if a = 0 ∨ a = 1 then some (if exponent = 0 then 1 else a)
    else if a = -1 then some (if exponent % 2 = 0 then 1 else -1)
    else if 64 ≤ exponent then none
    else
      let result := Int.pow a.toInt exponent
      if -(Int.pow 2 63) ≤ result ∧ result < Int.pow 2 63 then some (Int64.ofInt result) else none

namespace Arithmetic

/-- Arithmetic on integers, which wraps; only powers leave the integers. -/
def onInts (op : Arithmetic) (a b : Int64) : Except Fault Num :=
  match op with
  | .add => .ok (.int (a + b))
  | .subtract => .ok (.int (a - b))
  | .multiply => .ok (.int (a * b))
  | .divide =>
    if b = 0 then .error (.runtime .divisionByZero) else .ok (.int (if b = -1 then -a else a / b))
  | .remainder =>
    if b = 0 then .error (.runtime .divisionByZero) else .ok (.int (if b = -1 then 0 else a % b))
  | .power =>
    match intPower? a b with
    | some n => .ok (.int n)
    | none => .ok (.float (a.toFloat.pow b.toFloat))

def onFloats (op : Arithmetic) (x y : Float) : Float :=
  match op with
  | .add => x + y
  | .subtract => x - y
  | .multiply => x * y
  | .divide => x / y
  | .remainder => CellScript.remainder x y
  | .power => x.pow y

/-- Arithmetic on numbers: on integers when both are, otherwise on floats. -/
def apply (op : Arithmetic) : Num → Num → Except Fault Num
  | .int a, .int b => op.onInts a b
  | a, b => .ok (.float (op.onFloats a.toFloat b.toFloat))

end Arithmetic

/-- The opposite of a number. -/
def Num.negate : Num → Num
  | .int n => .int (-n)
  | .float x => .float (-x)

def Bitwise.apply (op : Bitwise) (a b : Int64) : Int64 :=
  match op with
  | .and => a &&& b
  | .or => a ||| b
  | .xor => a ^^^ b
  | .shiftLeft => a <<< b
  | .shiftRight => a >>> b

namespace Operator

/-- The operands of a binary operator. -/
def operands (symbol : String) : List CellRef → Run (CellRef × CellRef)
  | [lhs, rhs] => return (lhs, rhs)
  | args => Run.fail (.runtime (.operandCount symbol args.length))

/-- The result of an operator on cells. -/
def apply (op : Operator) (symbol : String) (args : List CellRef) : Run CellRef := do
  match op, args with
  | .not, args =>
    let truthy ← Run.askHeap fun h => args.head?.any h.isTruthy
    HeapM.int (if truthy then 0 else 1)
  | .arithmetic .subtract, [operand] =>
    let n ← Run.askHeap fun h => h.number (h.content operand)
    HeapM.cell n.negate.content
  | op, args =>
    let (lhs, rhs) ← operands symbol args
    let h ← Run.askHeap id
    match op with
    | .arithmetic op =>
      match op.apply (h.number (h.content lhs)) (h.number (h.content rhs)) with
      | .ok n => HeapM.cell n.content
      | .error f => Run.fail f
    | .bitwise op => HeapM.int (op.apply (h.cellInt lhs) (h.cellInt rhs))
    | .concat => HeapM.text (h.text lhs ++ h.text rhs)
    | .repeat => HeapM.text (Text.repeated (h.text lhs) (h.cellInt rhs).toNatClampNeg)
    | .compareNumbers =>
      HeapM.int (orderingInt ((h.number (h.content lhs)).compare (h.number (h.content rhs))))
    | .compareTexts => HeapM.int (orderingInt (CellScript.compareTexts (h.text lhs) (h.text rhs)))
    | .pair =>
      let key ← HeapM.copy lhs
      let value ← HeapM.copy rhs
      HeapM.object (.pair key value)
    | .not => HeapM.null

end Operator

end CellScript
