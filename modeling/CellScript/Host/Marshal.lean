import CellScript.Host.Registry

/-!
# Marshaling

Values cross the bridge in both directions. A declared primitive type converts; a function passed
where an interface is declared is wrapped in a proxy, which comes back as the function.

## Main definitions

* `Heap.natural` — the host value of a value when no type is declared.
* `toHost` — the host value of a value for a declared type.
* `fromHost` — a cell with the value of a host value.
-/

namespace CellScript

/-- A conversion to the host, which may make proxies on the heap. -/
abbrev Marshal (α : Type) := ExceptT HostFault (StateM Heap) α

namespace Heap

/-- The host value of content nested at most `n` deep. -/
def naturalWithin (h : Heap) : Nat → Content → Except HostFault HostValue
  | 0, _ => .ok .null
  | n + 1, content =>
    match content with
    | .null => .ok .null
    | .int i => .ok (.int i)
    | .float x => .ok (.float x)
    | .text s => .ok (.text s)
    | .object o => .ok (.object o)
    | .function f => .ok (.function f)
    | .sequence s =>
      match h.sequences.snapshot s with
      | .error fault => .error (.illegalArgument (h.faultMessage fault))
      | .ok cells => do
        return .list (← cells.mapM fun cell => h.naturalWithin n (h.content cell))
    | .table t => do
      return .map (← (h.entries t).mapM fun (key, cell) => do
        return (key, ← h.naturalWithin n (h.content cell)))

/-- The host value of content when no type is declared. -/
def natural (h : Heap) (content : Content) : Except HostFault HostValue :=
  h.naturalWithin (h.nesting content + 1) content

end Heap

/-- The host value of the empty value for a declared type. -/
def HostType.emptyValue : HostType → HostValue
  | .boolean => .bool false
  | .char => .char (Char.ofNat 0)
  | .float | .double => .float 0
  | type => if type.isNumeric then .int 0 else .null

/-- The host value of content for a declared type. -/
def toHost (r : HostRegistry) : HostType → Content → Marshal HostValue
  | type, .null => return type.emptyValue
  | .void, _ => return .null
  | .boolean, content => return .bool content.isTruthy
  | .char, content => do
    match ((← getThe Heap).contentText content).toList with
    | c :: _ => return .char c
    | [] => throw (.illegalArgument "empty string where a char is declared")
  | .byte, content => return .int ((← getThe Heap).toInt content).toInt8.toInt64
  | .short, content => return .int ((← getThe Heap).toInt content).toInt16.toInt64
  | .int, content => return .int ((← getThe Heap).toInt content).toInt32.toInt64
  | .long, content => return .int ((← getThe Heap).toInt content)
  | .float, content => return .float ((← getThe Heap).toFloat content).toFloat32.toFloat
  | .double, content => return .float ((← getThe Heap).toFloat content)
  | .text, content => return .text ((← getThe Heap).contentText content)
  | .array element, .sequence s => do
    let h ← getThe Heap
    match h.sequences.snapshot s with
    | .error fault => throw (.illegalArgument (h.faultMessage fault))
    | .ok cells => return .array (← cells.mapM fun cell => toHost r element (h.content cell))
  | .array element, content =>
    throw (.illegalArgument
      (content.typeName ++ " given where " ++ (HostType.array element).spelling ++ " is declared"))
  | .named name, .function f => do
    if r.isInterface name then
      let h ← getThe Heap
      let o : ObjectRef := ⟨h.objects.size⟩
      set { h with objects := h.objects.push (.proxy f name) }
      return .object o
    else return .function f
  | .named _, content => do
    match (← getThe Heap).natural content with
    | .ok value => return value
    | .error fault => throw fault
  | .object, content | .collection, content | .map, content => do
    match (← getThe Heap).natural content with
    | .ok value => return value
    | .error fault => throw fault

/-- Put a cell under a key of a map that has no policies. -/
def HeapM.putEntry (t : TableRef) (key : String) (cell : CellRef) : HeapM Unit :=
  HeapM.change fun h => h.modifyTable t fun table =>
    match table.entries.get? key with
    | some entry => table.replace key entry cell
    | none => table.append key cell

mutual

/-- A new cell with the value of a host value. A proxy comes back as its function. -/
def fromHost : HostValue → HeapM CellRef
  | .null => HeapM.null
  | .bool b => HeapM.int (if b then 1 else 0)
  | .char c => HeapM.text (String.singleton c)
  | .int n => HeapM.int n
  | .float x => HeapM.cell (.float x)
  | .text s => HeapM.text s
  | .array items => do HeapM.sequence (← fromHostItems items)
  | .list items => do HeapM.sequence (← fromHostItems items)
  | .map entries => do
    let t ← HeapM.newTable .insertion
    fromHostEntries t entries
    HeapM.cell (.table t)
  | .object o => do
    match ← HeapM.ask (·.object o) with
    | .proxy f _ => HeapM.cell (.function f)
    | _ => HeapM.cell (.object o)
  | .function f => HeapM.cell (.function f)

/-- New cells with the values of several host values. -/
def fromHostItems : List HostValue → HeapM (List CellRef)
  | [] => return []
  | item :: rest => do
    let cell ← fromHost item
    return cell :: (← fromHostItems rest)

/-- Put the values of entries into a map. -/
def fromHostEntries (t : TableRef) : List (String × HostValue) → HeapM Unit
  | [] => return ()
  | (key, value) :: rest => do
    HeapM.putEntry t key (← fromHost value)
    fromHostEntries t rest

end

end CellScript
