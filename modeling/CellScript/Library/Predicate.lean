import CellScript.Machine.Basic
import CellScript.Pattern.Reader
import CellScript.Text.Search

/-!
# Predicates

## Main definitions

* `Predicate`, `Predicate.ofName?` — the predicates and their names.
* `Predicate.decide` — the verdict of a predicate on operand cells.
-/

namespace CellScript

/-- Comparisons. -/
inductive Comparison where
  | equal | unequal | less | greater | atMost | atLeast
  deriving DecidableEq, Repr

/-- Questions about one value. -/
inductive ValueTest where
  | truthy | sequence | table | function | number | null | tainted
  deriving DecidableEq, Repr

/-- The predicates. -/
inductive Predicate where
  | numeric (c : Comparison)
  | textual (c : Comparison)
  | test (t : ValueTest)
  | identical
  | isIn
  | wildcard
  | pattern
  | hasKey
  deriving DecidableEq, Repr

/-- The predicates under their names, in order. -/
def Predicate.table : List (String × Predicate) :=
  [("!=", .numeric .unequal), ("-haskey", .hasKey), ("-isarray", .test .sequence),
    ("-isfunction", .test .function), ("-ishash", .test .table), ("-isnull", .test .null),
    ("-isnumber", .test .number), ("-istainted", .test .tainted), ("-istrue", .test .truthy),
    ("<", .numeric .less), ("<=", .numeric .atMost), ("==", .numeric .equal),
    (">", .numeric .greater), (">=", .numeric .atLeast), ("eq", .textual .equal),
    ("gt", .textual .greater), ("is", .identical), ("isin", .isIn), ("ismatch", .pattern),
    ("iswm", .wildcard), ("lt", .textual .less), ("ne", .textual .unequal)]

/-- The names of all predicates, in order. -/
def Predicate.names : List String :=
  table.map (·.1)

def Predicate.ofName? (name : String) : Option Predicate :=
  table.lookup name

/-- Whether an order satisfies a comparison. -/
def Comparison.holds : Comparison → Ordering → Bool
  | .equal, order => order == .eq
  | .unequal, order => order != .eq
  | .less, order => order == .lt
  | .greater, order => order == .gt
  | .atMost, order => order != .gt
  | .atLeast, order => order != .lt

def ValueTest.holds (h : Heap) (cell : CellRef) : ValueTest → Bool
  | .truthy => h.isTruthy cell
  | .sequence => match h.content cell with | .sequence _ => true | _ => false
  | .table => match h.content cell with | .table _ => true | _ => false
  | .function => match h.content cell with | .function _ => true | _ => false
  | .number => (h.content cell).isNumber
  | .null => h.isNull cell
  | .tainted => h.isTainted cell

/-- Shared values are identical when they are the same, all others when they are in one cell. -/
def Heap.identical (h : Heap) (a b : CellRef) : Bool :=
  match h.content a, h.content b with
  | .sequence x, .sequence y => x == y
  | .table x, .table y => x == y
  | .object x, .object y => x == y
  | .function x, .function y => x == y
  | _, _ => a == b

/-- The pattern of a text that has to fit a whole text. -/
def anchored (source : String) : String :=
  "^(?:" ++ source ++ ")$"

/-- A compiled pattern. -/
def compilePattern (source : String) : Run Pattern :=
  match Pattern.compile? source with
  | some p => return p
  | none => Run.fail (.runtime (.pattern source))

namespace Predicate

/-- The operands of a predicate on two values. -/
def operands (name : String) : List CellRef → Run (CellRef × CellRef)
  | [lhs, rhs] => return (lhs, rhs)
  | args => Run.fail (.runtime (.predicateOperands name 2 args.length))

/-- The verdict of a predicate on cells. -/
def decide (p : Predicate) (name : String) (args : List CellRef) : Run Bool := do
  let h ← Run.askHeap id
  match p with
  | .test t =>
    match args with
    | [cell] => return t.holds h cell
    | _ => Run.fail (.runtime (.predicateOperands name 1 args.length))
  | .numeric c =>
    let (lhs, rhs) ← operands name args
    return c.holds ((h.number (h.content lhs)).compare (h.number (h.content rhs)))
  | .textual c =>
    let (lhs, rhs) ← operands name args
    return c.holds (compareTexts (h.text lhs) (h.text rhs))
  | .identical =>
    let (lhs, rhs) ← operands name args
    return h.identical lhs rhs
  | .isIn =>
    let (needle, haystack) ← operands name args
    let needle := h.text needle
    match h.content haystack with
    | .sequence s =>
      match h.sequences.snapshot s with
      | .error f => Run.fail f
      | .ok cells => return cells.any fun cell => h.text cell == needle
    | content => return Text.holds needle (h.contentText content)
  | .wildcard =>
    let (stars, text) ← operands name args
    return Text.Wildcard.fits (h.text stars) (h.text text)
  | .pattern =>
    let (text, source) ← operands name args
    return (← compilePattern (anchored (h.text source))).occursIn (h.text text)
  | .hasKey =>
    let (map, key) ← operands name args
    match h.content map with
    | .table t => return h.containsKey t (h.text key)
    | content => Run.fail (.badCast (.hashWanted name content.typeName))

end Predicate

end CellScript
