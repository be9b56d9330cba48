import CellScript.Library.Basic
import CellScript.Library.Predicate

/-!
# Strings

The library functions on strings. Positions count characters.

## Main definitions

* `join`, `split`, `upper`, `lower`, `length`, `substring` — the functions.
-/

namespace CellScript.Library

def join (args : List CellRef) : Run CellRef := do
  let separator ← textArgument args 0
  let items ← snapshot (← sequenceArgument "&join" args 1)
  HeapM.text (← Run.askHeap fun h => separator.intercalate (items.map h.text))

/-- The pieces of a text between the matches of a pattern. -/
def split (args : List CellRef) : Run CellRef := do
  let pattern ← compilePattern (← textArgument args 0)
  let text ← textArgument args 1
  HeapM.sequence (← Run.onHeap ((pattern.split text).mapM HeapM.text))

def upper (args : List CellRef) : Run CellRef := do
  HeapM.text (Text.upper (← textArgument args 0))

def lower (args : List CellRef) : Run CellRef := do
  HeapM.text (Text.lower (← textArgument args 0))

def length (args : List CellRef) : Run CellRef := do
  HeapM.int (Int64.ofNat (← textArgument args 0).length)

/-- The position in a text of `length` characters that an index stands for; it never lies outside of
the text. -/
def clampIndex (index : Int) (length : Nat) : Nat :=
  if index < 0 then length - index.natAbs else min index.toNat length

/-- The characters from one index up to, but without, another. -/
def substringOf (text : String) (start : Int) (stop : Option Int) : Except Fault String :=
  let cs := text.toList
  let first := clampIndex start cs.length
  let last := (stop.map (clampIndex · cs.length)).getD cs.length
  if last < first then .error (.badIndex (.substring start last text))
  else .ok (String.ofList ((cs.drop first).take (last - first)))

def substring (args : List CellRef) : Run CellRef := do
  let text ← textArgument args 0
  let stop ← match args[2]? with
    | some cell => pure (some (← Run.askHeap (·.cellInt cell)).toInt)
    | none => pure none
  match substringOf text (← intArgument args 1).toInt stop with
  | .ok s => HeapM.text s
  | .error f => Run.fail f

end CellScript.Library
