import CellScript.Proofs.Machine.Frame
import CellScript.Proofs.Map.Order

/-!
# Calm heap operations

A heap operation is calm when it leaves functions and the containers of variables alone and keeps
maps sound. Calm is a class: each operation has an instance, and an operation is calm when instances
for its parts are found. What a call binds goes into a container of its own, so operations are also
calm but for a container.

## Main definitions

* `Heap.Spares` — functions, maps and variables are as they were.
* `HeapM.Calm`, `HeapM.CalmBut` — calm operations, and operations that bind names in one container.

## Main statements

* Instances for the operations of a heap, for sequencing and for loops over lists.
-/

namespace CellScript

/-- Functions, maps and variables are as they were. -/
structure Heap.Spares (h h' : Heap) : Prop where
  functions : h'.functions = h.functions
  tables : h'.tables = h.tables
  vars : h'.vars = h.vars

/-- A heap operation that leaves functions alone, and containers but for one, and keeps maps
sound. -/
class HeapM.CalmBut {α : Type} (but : Option VarsRef) (op : HeapM α) : Prop where
  functions : ∀ h, (op h).2.functions = h.functions
  maps : ∀ h, h.MapsSound → (op h).2.MapsSound
  vars : ∀ h : Heap, h.KeepsBut but (op h).2

/-- A heap operation that leaves functions and containers alone and keeps maps sound. -/
abbrev HeapM.Calm {α : Type} (op : HeapM α) : Prop :=
  op.CalmBut none

namespace HeapM

variable {α β : Type}

theorem bind_run (x : HeapM α) (f : α → HeapM β) (h : Heap) :
    (x >>= f) h = match x h with
      | (.ok a, h) => f a h
      | (.error e, h) => (.error e, h) := by
  change ExceptT.bindCont f (x h).1 (x h).2 = _
  cases x h with
  | mk r h' => cases r <;> rfl

variable {but : Option VarsRef}

/-- An operation that leaves functions and maps alone. -/
theorem CalmBut.of_tables {op : HeapM α} (functions : ∀ h : Heap, (op h).2.functions = h.functions)
    (tables : ∀ h : Heap, (op h).2.tables = h.tables) (vars : ∀ h : Heap, h.KeepsBut but (op h).2) :
    CalmBut but op :=
  ⟨functions, fun h sound => sound.of_tables (tables h), vars⟩

/-- An operation that leaves functions, maps and variables alone. -/
theorem CalmBut.of_spares {op : HeapM α} (h : ∀ h : Heap, h.Spares (op h).2) : CalmBut but op :=
  .of_tables (fun heap => (h heap).functions) (fun heap => (h heap).tables)
    fun heap => .of_vars (h heap).vars

instance (a : α) : CalmBut but (pure a) := .of_spares fun _ => ⟨rfl, rfl, rfl⟩

instance (e : Fault) : CalmBut but (throw e : HeapM α) := .of_spares fun _ => ⟨rfl, rfl, rfl⟩

instance (x : HeapM α) (f : α → HeapM β) [hx : CalmBut but x] [hf : ∀ a, CalmBut but (f a)] :
    CalmBut but (x >>= f) where
  functions h := by
    rw [bind_run, ← hx.functions h]
    cases x h with
    | mk r h' => cases r with
      | ok a => exact (hf a).functions h'
      | error e => rfl
  maps h sound := by
    have between := hx.maps h sound
    rw [bind_run]
    cases run : x h with
    | mk r h' =>
      rw [run] at between
      cases r with
      | ok a => exact (hf a).maps h' between
      | error e => exact between
  vars h := by
    have first := hx.vars h
    rw [bind_run]
    cases run : x h with
    | mk r h' =>
      rw [run] at first
      cases r with
      | ok a => exact first.trans ((hf a).vars h')
      | error e => exact first

/-- An operation and one that depends on its result. -/
theorem CalmBut.andThen {x : HeapM α} {f : α → HeapM β} [CalmBut but x]
    (h : ∀ a, CalmBut but (f a)) :
    CalmBut but (x >>= f) := inferInstance

instance (f : Heap → α) : CalmBut but (ask f) := .of_spares fun _ => ⟨rfl, rfl, rfl⟩

instance (f : Heap → Except Fault α) : CalmBut but (consult f) :=
  .of_spares fun _ => ⟨rfl, rfl, rfl⟩

instance (edit : Sequences.Edit α) : CalmBut but (onSequences edit) :=
  .of_spares fun _ => ⟨rfl, rfl, rfl⟩

instance (value : Value) : CalmBut but (alloc value) := .of_spares fun _ => ⟨rfl, rfl, rfl⟩

instance (content : Content) : CalmBut but (cell content) := inferInstanceAs (CalmBut but (alloc _))

instance : CalmBut but null := inferInstanceAs (CalmBut but (cell _))

instance (s : String) : CalmBut but (text s) := inferInstanceAs (CalmBut but (cell _))

instance (n : Int64) : CalmBut but (int n) := inferInstanceAs (CalmBut but (cell _))

instance (c : CellRef) : CalmBut but (get c) := inferInstanceAs (CalmBut but (ask _))

instance (c : CellRef) : CalmBut but (content c) := inferInstanceAs (CalmBut but (ask _))

instance (c : CellRef) (value : Value) : CalmBut but (set c value) :=
  .of_spares fun _ => ⟨rfl, rfl, rfl⟩

instance (c : CellRef) : CalmBut but (copy c) := inferInstanceAs (CalmBut but (_ >>= _))

instance (target source : CellRef) : CalmBut but (assign target source) := by
  unfold assign
  split <;> infer_instance

instance (cells : List CellRef) : CalmBut but (newSequence cells) :=
  inferInstanceAs (CalmBut but (onSequences _))

instance (cells : List CellRef) : CalmBut but (sequence cells) :=
  inferInstanceAs (CalmBut but (_ >>= _))

instance (mode : MapOrder) : CalmBut but (newTable mode) :=
  ⟨fun _ => rfl, fun _ sound => sound.newTable mode, fun _ => .of_vars rfl⟩

instance (object : HostObject) : CalmBut but (newObject object) :=
  .of_spares fun _ => ⟨rfl, rfl, rfl⟩

instance (object : HostObject) : CalmBut but (HeapM.object object) :=
  inferInstanceAs (CalmBut but (_ >>= _))

instance : CalmBut but newVars :=
  .of_tables (fun _ => rfl) (fun _ => rfl) (Heap.keepsBut_newVars but)

instance (vars : VarsRef) (name : String) (c : CellRef) :
    CalmBut (some vars) (change (·.putVariable vars name c)) :=
  .of_tables (fun _ => rfl) (fun _ => rfl) fun h => h.keepsBut_putVariable vars name c

instance (t : TableRef) (step : Table → Table) [kept : Table.Keeps step] :
    CalmBut but (change (·.modifyTable t step)) :=
  ⟨fun _ => rfl, fun _ sound => sound.modifyTable (kept.sound _ (sound t)), fun _ => .of_vars rfl⟩

instance (f : α → HeapM β) (items : List α) [∀ a, CalmBut but (f a)] :
    CalmBut but (items.mapM f) := by
  induction items with
  | nil =>
    rw [List.mapM_nil]
    infer_instance
  | cons a items ih =>
    rw [List.mapM_cons]
    infer_instance

instance (s : SequenceRef) (value : Value) : CalmBut but (removeEqual s value) :=
  inferInstanceAs (CalmBut but (_ >>= _))

instance (s : SequenceRef) (index : Int) : CalmBut but (element s index) := by
  unfold element
  refine .andThen fun missing => ?_
  split
  · refine .andThen fun cell? => ?_
    split <;> infer_instance
  · infer_instance

instance (t : TableRef) (key : String) : CalmBut but (lookup t key) := by
  refine .andThen fun cell => ?_
  split <;> infer_instance

theorem CalmBut.forIn {items : List α} {b : β} {f : α → β → HeapM (ForInStep β)}
    (h : ∀ a b, CalmBut but (f a b)) :
    CalmBut but (forIn items b f) := by
  induction items generalizing b with
  | nil =>
    rw [List.forIn_nil]
    infer_instance
  | cons a items ih =>
    rw [List.forIn_cons]
    refine .andThen fun next => ?_
    cases next with
    | done b => infer_instance
    | yield b => exact ih

instance (items : List α) (b : β) (f : α → β → HeapM (ForInStep β))
    [h : ∀ a b, CalmBut but (f a b)] :
    CalmBut but (forIn items b f) := .forIn h

end HeapM

end CellScript
