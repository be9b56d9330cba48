import CellScript.Json.Record
import CellScript.Program.Build
import CellScript.Program.Image

/-!
# Scripts as documents

Expressions, conditions and statements as JSON lists that begin with the name of the form. A body is
a list of statements, or an object with its source, its first line and its statements.

## Main definitions

* `Wire.bits`, `Wire.bitsText` — floats as the hexadecimal digits of their bits.
* `Body.ofDocument?` — the body that a document shows.
-/

namespace CellScript

namespace Wire

/-- The bits that hexadecimal digits stand for. -/
def bits (s : String) : UInt64 :=
  if s = "nan" then 0x7ff8000000000000
  else UInt64.ofNat (s.toList.foldl (fun n c => n * 16 + (Json.hexValue? c).getD 0) 0)

/-- The sixteen hexadecimal digits of a float; all that are not numbers are alike. -/
def bitsText (x : Float) : String :=
  if x.isNaN then "nan"
  else
    let digits := Text.hexDigits x.toBits.toNat
    String.ofList (List.replicate (16 - digits.length) '0') ++ digits

/-- The deepest nesting that is read. -/
def room : Nat := 128

end Wire

def Fragment.ofDocument? : Json → Option Fragment
  | .array [.string "text", .string s] => some (.text s)
  | .array [.string "var", .string s] => some (.var s)
  | _ => none

/-- A string or null. -/
def Wire.name? : Json → Option (Option String) :=
  Json.optional? Json.text?

mutual

/-- An expression nested at most as deep as `room` allows. -/
def Expr.ofDocument? : Nat → Json → Option Expr
  | room + 1, .array (.string form :: parts) =>
    match form, parts with
    | "null", [] => some (.literal .null)
    | "int", [n] => n.int64?.map fun n => .literal (.int n)
    | "float", [.string s] => some (.literal (.float (Wire.bits s)))
    | "str", [.string s] => some (.literal (.str s))
    | "var", [.string s] => some (.var s)
    | "interp", [.array parts] => (parts.mapM Fragment.ofDocument?).map .interpolate
    | "op", [.string op, args] => (exprsOfDocument? room args).map (.op op)
    | "call", [.string f, args] => (exprsOfDocument? room args).map (.call f)
    | "index", [a, b] => do return .index (← Expr.ofDocument? room a) (← Expr.ofDocument? room b)
    | "assign", [t, op, v] => do
      return .assign (← Expr.ofDocument? room t) (← Wire.name? op) (← Expr.ofDocument? room v)
    | "multi", [ts, op, v] => do
      return .assignMulti (← exprsOfDocument? room ts) (← Wire.name? op) (← Expr.ofDocument? room v)
    | "closure", [b] => (Body.ofDocument? room b).map .closure
    | "new", [.string c, args] => (exprsOfDocument? room args).map (.new c)
    | "send", [r, m, args] => do
      return .send (← Expr.ofDocument? room r) (← Wire.name? m) (← exprsOfDocument? room args)
    | "static", [.string c, .string m, args] => (exprsOfDocument? room args).map (.static c m)
    | _, _ => none
  | _, _ => none

/-- A list of expressions. -/
def exprsOfDocument? : Nat → Json → Option (List Expr)
  | room + 1, .array items => items.mapM (Expr.ofDocument? room)
  | _, _ => none

/-- A condition. -/
def Cond.ofDocument? : Nat → Json → Option Cond
  | room + 1, .array (.string form :: parts) =>
    match form, parts with
    | "pred", [.string name, args] => (exprsOfDocument? room args).map (.pred name)
    | "not", [c] => (Cond.ofDocument? room c).map .not
    | "and", [.array cs] => (cs.mapM (Cond.ofDocument? room)).map .and
    | "or", [.array cs] => (cs.mapM (Cond.ofDocument? room)).map .or
    | "truthy", [e] => (Expr.ofDocument? room e).map .truthy
    | "always", [] => some .always
    | _, _ => none
  | _, _ => none

/-- A statement. -/
def Statement.ofDocument? : Nat → Json → Option Statement
  | room + 1, .array (.string form :: parts) =>
    let flow (kind : FlowKind) (e : Json) :=
      (Json.optional? (Expr.ofDocument? room) e).map (Statement.flow kind)
    match form, parts with
    | "expr", [e] => (Expr.ofDocument? room e).map .expr
    | "local", [.array names] => (names.mapM Json.text?).map .declare
    | "ret", [e] => flow .return e
    | "throw", [e] => flow .throw e
    | "yield", [e] => flow .yield e
    | "callcc", [e] => flow .callcc e
    | "break", [] => some (.flow .break none)
    | "continue", [] => some (.flow .continue none)
    | "if", [c, a, b] => do
      return .branch (← Cond.ofDocument? room c) (← Body.ofDocument? room a)
        (← Json.optional? (Body.ofDocument? room) b)
    | "while", [c, b] => do return .while (← Cond.ofDocument? room c) (← Body.ofDocument? room b)
    | "for", [start, c, next, b] => do
      return .for (← exprsOfDocument? room start) (← Cond.ofDocument? room c)
        (← exprsOfDocument? room next)
        (← Body.ofDocument? room b)
    | "foreach", [key, .string value, e, b] => do
      return .foreach (← Wire.name? key) value (← Expr.ofDocument? room e)
        (← Body.ofDocument? room b)
    | "try", [b, .string var, h] => do
      return .try (← Body.ofDocument? room b) var (← Body.ofDocument? room h)
    | "sub", [.string name, b] => (Body.ofDocument? room b).map (.define name · false)
    | "inline", [.string name, b] => (Body.ofDocument? room b).map (.define name · true)
    | "line", [n] => (n.unsigned? 32).map fun n => .line (UInt32.ofNat n)
    | "step", [k] => (Instruction.ofImage? Wire.room k).map .raw
    | _, _ => none
  | _, _ => none

/-- A body. -/
def Body.ofDocument? : Nat → Json → Option Body
  | room + 1, .array statements => (statements.mapM (Statement.ofDocument? room)).map (.mk none 1)
  | room + 2, .object fields => do
    let j := Json.object fields
    let line ← match j.field "line" with
      | .null => some 1
      | n => n.unsigned? 32
    let .array statements := j.field "stmts" | none
    return .mk (← Wire.name? (j.field "source")) (UInt32.ofNat line)
      (← statements.mapM (Statement.ofDocument? room))
  | _, _ => none

end

end CellScript
