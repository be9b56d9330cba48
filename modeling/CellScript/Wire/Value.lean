import CellScript.Fault
import CellScript.Heap.Text
import CellScript.Host.Marshal
import CellScript.Wire.Script

/-!
# Values as documents

A value is null or an object whose only field names the kind: `int`, `float` (bits), `str`, `array`,
`hash` (a map as keys and values), `pair`, or `tainted` around another value. Functions and other
objects are shown by their description, a container inside of itself as a cycle, a stale sequence by
its fault.

## Main definitions

* `Wire.cell` — a new cell with the value that a document shows.
* `Heap.document` — the document of the value of a cell.
-/

namespace CellScript

namespace Wire

/-- The fault of a class and a text. -/
def fault (className text : String) : HeapM Fault := do
  if className = "Thrown" then return .thrown (← HeapM.text text)
  else return (Fault.stated? className text).getD (.runtime (.stated text))

mutual

/-- A new cell with a value nested at most as deep as `room` allows. -/
def cell : Nat → Json → HeapM CellRef
  | room + 1, .object ((kind, j) :: _) =>
    match kind, j with
    | "int", n => HeapM.int (Int64.ofInt n.asInt)
    | "float", s => HeapM.cell (.float (Float.ofBits (bits s.asText)))
    | "str", s => HeapM.text s.asText
    | "array", .array items => do HeapM.sequence (← items.mapM (cell room))
    | "hash", .array entries => map room .insertion entries
    | "access_hash", .array entries => map room .access entries
    | "pair", .array [k, v] => do HeapM.object (.pair (← cell room k) (← cell room v))
    | "tainted", v => do
      let c ← cell room v
      HeapM.change fun h => h.set c (h.get c).taint
      return c
    | "obj", .array [c, label] => HeapM.object (.labelled c.asText label.asText)
    | "string_object", s => HeapM.object (.text s.asText)
    | "builder", _ => HeapM.object (.builder "")
    | "fn", .array (name :: does) => do HeapM.cell (.function (← function room name.asText does))
    | _, _ => HeapM.null
  | _, _ => HeapM.null

/-- A new cell with a new map; the entries are put in order. -/
def map : Nat → MapOrder → List Json → HeapM CellRef
  | 0, order, _ => do HeapM.cell (.table (← HeapM.newTable order))
  | room + 1, order, entries => do
    let t ← HeapM.newTable order
    for entry in entries do
      if let .array [k, v] := entry then HeapM.putEntry t k.asText (← cell room v)
    HeapM.cell (.table t)

/-- A function of the host. -/
def function (room : Nat) (name : String) (does : List Json) : HeapM FunctionRef := do
  let reply ← match room, does with
    | _, [.string "message"] => pure HostReply.message
    | _, [.string "count"] => pure .count
    | room + 1, [.string "return", v] => do pure (.give (← cell room v))
    | room + 1, [.string "throw", v] => do pure (.throw (← cell room v))
    | _, [.string "fault", kind, text] => do pure (.fail (← fault kind.asText text.asText))
    | _, _ => pure .first
  HeapM.newFunction (.host name reply)

end

end Wire

namespace Heap

/-- The document of a value, with the document of its content. -/
def mark (v : Value) (j : Json) : Json :=
  if v.tainted then .object [("tainted", j)] else j

/-- The document of content inside of the containers `path`. -/
def documentWithin (h : Heap) : Nat → List Container → Content → Json
  | 0, _, _ => .null
  | n + 1, path, content =>
    let inside (path : List Container) (cell : CellRef) : Json :=
      mark (h.get cell) (h.documentWithin n path (h.get cell).content)
    match content with
    | .null => .null
    | .int i => .object [("int", .ofInt i.toInt)]
    | .float x => .object [("float", .string (Wire.bitsText x))]
    | .text s => .object [("str", .string s)]
    | .function f => .object [("closure", .string (h.callable f).describe)]
    | .object o =>
      match h.object o with
      | .pair k v => .object [("pair", .array [inside path k, inside path v])]
      | object =>
        .object [("object", .string object.className), ("text", .string (h.describeObject o))]
    | .sequence s =>
      if path.contains (.sequence s) then .object [("cycle", .string "array")]
      else
        match h.sequences.snapshot s with
        | .error f => .object [("stale", .string (h.faultMessage f))]
        | .ok cells => .object [("array", .ofList (inside (.sequence s :: path)) cells)]
    | .table t =>
      if path.contains (.table t) then .object [("cycle", .string "hash")]
      else
        let entry := fun (key, v) => Json.array [.string key, inside (.table t :: path) v]
        .object [("hash", .ofList entry (h.entries t))]

/-- The document of the value of a cell. -/
def document (h : Heap) (cell : CellRef) : Json :=
  let v := h.get cell
  mark v (h.documentWithin (h.nesting v.content + 1) [] v.content)

end Heap

end CellScript
