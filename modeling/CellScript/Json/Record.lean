import CellScript.Json.Basic
import CellScript.Json.Printer
import CellScript.Json.Reader

/-!
# Records and variants in JSON

How typed data stands in a document. A record is an object with named fields, or a list of the
fields in order; unknown fields are ignored and repeated ones refused. A variant is its name alone,
or an object with its name as the only field.

Readers are given the number of lists and objects that may still be opened. Each one that is opened
takes one from it, so that it bounds the nesting of a document and the recursion of its reader at
once.

Documents that another program sends as requests are read leniently: what is missing or of another
kind reads as empty.

## Main definitions

* `Json.record?` — the fields of a record.
* `Json.variant?` — the name and content of a variant.
* `Json.text?`, `Json.flag?`, `Json.unsigned?`, … — contents of fields.
* `Json.field`, `Json.items`, `Json.asText`, `Json.asInt`, `Json.asNat`, `Json.isTrue` — contents.
* `Json.ofInt`, `Json.ofText?`, `Json.ofList` — documents of values.
-/

namespace CellScript.Json

/-- The value of a named field among the fields of an object, none if it is missing. The outer
answer is none if the field is repeated. -/
def uniqueField? (fields : List (String × Json)) (name : String) : Option (Option Json) :=
  match fields.filter (·.1 = name) with
  | [] => some none
  | [(_, value)] => some (some value)
  | _ => none

/-- The fields of a record in the order of `names`, none for a missing one. -/
def fieldsOf? (names : List String) : Json → Option (List (Option Json))
  | .object fields => names.mapM (uniqueField? fields)
  | .array items =>
    if names.length < items.length then none
    else some (items.map some ++ List.replicate (names.length - items.length) none)
  | _ => none

/-- Read a record with what may still be opened inside it. -/
def record? {α : Type} (names : List String) (room : Nat) (j : Json)
    (read : Nat → List (Option Json) → Option α) : Option α :=
  match room with
  | 0 => none
  | room + 1 => (fieldsOf? names j).bind (read room)

/-- How a variant stands in a document. -/
inductive Variant where
  /-- the name alone -/
  | bare (name : String)
  /-- the name as the only field of an object -/
  | holding (name : String) (content : Json)

/-- The variant that a document shows. -/
def variant? : Json → Option Variant
  | .string name => some (.bare name)
  | .object [(name, content)] => some (.holding name content)
  | _ => none

/-- A text. -/
def text? : Json → Option String
  | .string s => some s
  | _ => none

/-- A truth value. -/
def flag? : Json → Option Bool
  | .bool b => some b
  | _ => none

/-- An integer in a range that includes its lower end only. -/
def integerBetween? (low high : Int) : Json → Option Int
  | .number written => (integer? written).filter fun n => low ≤ n && n < high
  | _ => none

/-- An unsigned integer of some bits. -/
def unsigned? (bits : Nat) (j : Json) : Option Nat :=
  (integerBetween? 0 (Int.pow 2 bits) j).map Int.toNat

/-- A signed integer of 64 bits. -/
def int64? (j : Json) : Option Int64 :=
  (integerBetween? (-(Int.pow 2 63)) (Int.pow 2 63) j).map Int64.ofInt

/-- A float. -/
def number? : Json → Option Float
  | .number written => float? written
  | _ => none

/-- A value that may be null. -/
def optional? {α : Type} (read : Json → Option α) : Json → Option (Option α)
  | .null => some none
  | j => (read j).map some

/-- The content of a field that has a default. -/
def orDefault? {α : Type} (default : α) (read : Json → Option α) : Option Json → Option α
  | none => some default
  | some j => read j

/-! ## Documents as requests -/

/-- The value of a field, null when there is none. -/
def field (j : Json) (name : String) : Json :=
  match j with
  | .object fields => (fields.lookup name).getD .null
  | _ => .null

/-- Whether there is a field of a name. -/
def has (j : Json) (name : String) : Bool :=
  match j with
  | .object fields => fields.any (·.1 == name)
  | _ => false

/-- The items of an array. -/
def items : Json → List Json
  | .array items => items
  | _ => []

/-- A string, the empty one for anything else. -/
def asText (j : Json) : String :=
  j.text?.getD ""

/-- An integer, zero for anything else. -/
def asInt : Json → Int
  | .number text => (integer? text).getD 0
  | _ => 0

def asNat (j : Json) : Nat :=
  j.asInt.toNat

def nat? (j : Json) : Option Nat :=
  (integerBetween? 0 (Int.pow 2 64) j).map Int.toNat

def isTrue : Json → Bool
  | .bool b => b
  | _ => false

def ofInt (n : Int) : Json :=
  .number (toString n)

def ofNat (n : Nat) : Json :=
  .number (toString n)

/-- A string, or null. -/
def ofText? : Option String → Json
  | none => .null
  | some s => .string s

def ofList {α : Type} (f : α → Json) (xs : List α) : Json :=
  .array (xs.map f)

end CellScript.Json
