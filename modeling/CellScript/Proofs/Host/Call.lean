import CellScript.Proofs.Host.Proxy
import CellScript.Proofs.Library.Operation

/-!
# Calls into the host

## Main definitions

* `Marshal.Calm` — conversions that leave functions and maps alone.

## Main statements

* Instances of `Run.Related` for `Host.construct`, `Host.invokeStatic` and `Host.invokeMember`.
-/

namespace CellScript

/-! ## Conversions -/

/-- A conversion that leaves functions and maps alone. -/
class Marshal.Calm {α : Type} (conversion : Marshal α) : Prop where
  spares : ∀ h : Heap, h.Spares (conversion h).2

theorem Heap.Proxied.spares {h h' : Heap} (proxied : h.Proxied h') : h.Spares h' := by
  induction proxied with
  | refl => exact ⟨rfl, rfl, rfl⟩
  | wrap _ f interface ih => exact ⟨ih.functions, ih.tables, ih.vars⟩

instance {α : Type} (conversion : Marshal α) [wraps : conversion.Wraps] : conversion.Calm :=
  ⟨fun h => (wraps.proxied h).spares⟩

instance keeps_putEntry (key : String) (cell : CellRef) : Table.Keeps fun table =>
    match table.entries.get? key with
    | some entry => table.replace key entry cell
    | none => table.append key cell where
  sound table h := by
    cases found : table.entries.get? key with
    | some entry => exact h.replace found cell
    | none => exact h.append found cell

instance (t : TableRef) (key : String) (cell : CellRef) : HeapM.Calm (HeapM.putEntry t key cell) :=
  inferInstanceAs (HeapM.Calm (HeapM.change _))

mutual

theorem calm_fromHost : ∀ value : HostValue, HeapM.Calm (fromHost value)
  | .null | .bool _ | .char _ | .int _ | .float _ | .text _ | .function _ => by
    unfold fromHost; infer_instance
  | .array items | .list items => by
    have := calm_fromHostItems items
    unfold fromHost
    infer_instance
  | .map entries => by
    have := fun t => calm_fromHostEntries t entries
    unfold fromHost
    infer_instance
  | .object o => by
    unfold fromHost
    refine .andThen fun object => ?_
    split <;> infer_instance

theorem calm_fromHostItems : ∀ items : List HostValue, HeapM.Calm (fromHostItems items)
  | [] => by unfold fromHostItems; infer_instance
  | item :: rest => by
    have := calm_fromHost item
    have := calm_fromHostItems rest
    unfold fromHostItems
    infer_instance

theorem calm_fromHostEntries (t : TableRef) :
    ∀ entries : List (String × HostValue), HeapM.Calm (fromHostEntries t entries)
  | [] => by unfold fromHostEntries; infer_instance
  | (key, value) :: rest => by
    have := calm_fromHost value
    have := calm_fromHostEntries t rest
    unfold fromHostEntries
    infer_instance

end

attribute [instance] calm_fromHost calm_fromHostItems

/-! ## Host code -/

namespace Host

variable {α β : Type} {ρ : Run.Relation} {s s' : Reentry}

theorem serves_marshal (conversion : Marshal α) [h : conversion.Calm] (m : Machine) :
    m.Serves (marshal conversion m).2 :=
  .of_heap (h.spares m.heap).functions (.of_vars (h.spares m.heap).vars) fun sound =>
    sound.of_tables (h.spares m.heap).tables

instance (conversion : Marshal α) [conversion.Calm] :
    Related ρ (marshal conversion) (marshal conversion) :=
  ⟨fun m => ρ.hostServes (.of_same fun _ _ => rfl) (serves_marshal conversion m) (.of_same rfl)⟩

instance (conversion : Marshal α) [conversion.Calm] :
    Run.Related ρ (marshal conversion).run (marshal conversion).run :=
  .of_serves (serves_marshal conversion)

/-! ## Members -/

instance (interface method : String) (arity : Nat) :
    Machine.Apart (resultType ·.hosts interface method arity) :=
  ⟨fun _ _ => rfl⟩

instance (candidates : List HostMethod) (args : List CellRef) :
    Machine.Apart fun m => resolve m.heap m.hosts candidates (args.map m.heap.content) :=
      ⟨fun _ _ => rfl⟩

/-- A call of a proxy is a call back with a conversion of what it gives. -/
theorem invokeProxy_eq (self : Reentry) (f : FunctionRef) (interface method : String)
    (args : List HostValue) :
    invokeProxy self f interface method args = (do
      let returns ← run (Run.ask fun m => resultType m.hosts interface method args.length)
      let cells ← run (Run.onHeap (fromHostItems args))
      let result ← callBack self f (some method) cells
      let registry ← run (Run.ask (·.hosts))
      let content ← run (Run.askHeap (·.content result))
      marshal (toHost registry returns content)) := by
  unfold invokeProxy callBack
  refine bind_congr fun returns => bind_congr fun cells => ?_
  rw [bind_assoc]
  refine bind_congr fun result => ?_
  cases result with
  | ok result => rw [pure_bind]
  | error f => rfl

section Calls

variable [Reentry.CallsBack ρ s s']

instance (f : FunctionRef) (interface method : String) (args : List HostValue) :
    Related ρ (invokeProxy s f interface method args) (invokeProxy s' f interface method args) := by
  rw [invokeProxy_eq s, invokeProxy_eq s']
  infer_instance

instance (comparator : ObjectRef) (a b : HostValue) :
    Related ρ (comesBefore s comparator a b) (comesBefore s' comparator a b) := by
  refine .andThen fun proxy => ?_
  split <;> infer_instance

instance (args : List HostValue) : Related ρ (sortItems s args) (sortItems s' args) := by
  unfold sortItems
  split
  · split <;> infer_instance
  · infer_instance

instance (receiver : ObjectRef) : Related ρ (builderText receiver) (builderText receiver) := by
  refine .andThen fun object => ?_
  split <;> infer_instance

instance (receiver : ObjectRef) (f : String → String) :
    Related ρ (setBuilder receiver f) (setBuilder receiver f) := by
  have (o : HostObject) :
      Run.Related ρ (Run.changeHeap (·.setObject receiver o))
        (Run.changeHeap (·.setObject receiver o)) :=
    .changeHeap fun _ => ⟨rfl, rfl, rfl⟩
  exact .andThen fun s => inferInstance

instance (object : HostObject) : Related ρ (newObject object) (newObject object) :=
  inferInstanceAs (Related ρ (_ >>= _) (_ >>= _))

instance (receiver : ObjectRef) (part : CellRef × CellRef → CellRef) :
    Related ρ (pairPart receiver part) (pairPart receiver part) := by
  refine .andThen fun object => ?_
  split
  · refine .andThen fun value => ?_
    split <;> infer_instance
  · infer_instance

instance (member : BuiltinMember) (receiver : ObjectRef) (args : List HostValue) :
    Related ρ (runMethod member receiver args) (runMethod member receiver args) := by
  unfold runMethod
  split
  iterate 8 infer_instance
  refine .andThen fun object => ?_
  split
  · refine .andThen fun result => ?_
    split <;> infer_instance
  · infer_instance

instance (method : String) (member : BuiltinMember) (receiver : Option ObjectRef)
    (args : List HostValue) :
    Related ρ (runBuiltin s method member receiver args)
      (runBuiltin s' method member receiver args) := by
  refine .andThen fun result => ?_
  split
  · infer_instance
  · infer_instance
  · split
    iterate 5 infer_instance
    split <;> infer_instance

instance (method : String) (args : List HostValue) :
    Related ρ (runCallback s method args) (runCallback s' method args) := by
  unfold runCallback
  split
  · infer_instance
  · refine .andThen fun proxy => ?_
    split <;> infer_instance
  · infer_instance

instance (name : String) (body : MemberBody) (isStatic : Bool) (receiver : Option ObjectRef)
    (args : List HostValue) :
    Related ρ (runMember s name body isStatic receiver args)
      (runMember s' name body isStatic receiver args) := by
  cases body with
  | forward =>
    refine .andThen fun proxy => ?_
    split <;> infer_instance
  | builtin _ | label _ | echo | list | map | give _ | make _ | callback _ | fail _ | panic _ =>
    unfold runMember
    infer_instance

instance (field : HostField) (receiver : Option ObjectRef) :
    Related ρ (runField s field receiver) (runField s' field receiver) := by
  unfold runField
  infer_instance

/-! ## Scripts and host classes -/

instance (what : String) (candidates : List HostMethod) (args : List CellRef) :
    Run.Related ρ (noMatch what candidates args) (noMatch what candidates args) := by
  unfold noMatch
  infer_instance

instance [recording : ρ.IsRecording] (description text : String) :
    Run.Related ρ (throwText description text) (throwText description text) :=
  ⟨fun _ => recording.throwText⟩

instance [ρ.IsRecording] (method : HostMethod) (receiver : Option ObjectRef) (args : List CellRef)
    (description : String) :
    Run.Related ρ (callMethod s method receiver args description)
      (callMethod s' method receiver args description) := by
  refine .andThen fun registry => .andThen fun contents => .andThen fun values => ?_
  split
  · infer_instance
  · refine Related.ends ⟨fun _ => rfl, fun _ => rfl⟩ fun result => ?_
    split
    · infer_instance
    · exact inferInstanceAs (Run.Related ρ (throwText description _) (throwText description _))
    iterate 3 infer_instance

instance (field : HostField) (receiver : Option ObjectRef) (what : String) :
    Run.Related ρ (readField s field receiver what) (readField s' field receiver what) := by
  refine Related.ends ⟨fun _ => rfl, fun _ => rfl⟩ fun result => ?_
  split <;> infer_instance

instance (candidates : List HostMethod) (args : List CellRef) :
    Run.Related ρ (chosen candidates args) (chosen candidates args) :=
  inferInstanceAs (Run.Related ρ (Run.ask _) (Run.ask _))

instance [ρ.IsRecording] (className : String) (args : List CellRef) :
    Run.Related ρ (construct s className args) (construct s' className args) := by
  refine .andThen fun c? => ?_
  split
  · infer_instance
  · split
    · infer_instance
    · refine .andThen fun constructor? => ?_
      split <;> infer_instance

instance (c : HostClass) (name : String) : Run.Related ρ (findField c name) (findField c name) := by
  refine .andThen fun found => ?_
  split <;> infer_instance

instance [ρ.IsRecording] (className member : String) (args : List CellRef) :
    Run.Related ρ (invokeStatic s className member args)
      (invokeStatic s' className member args) := by
  refine .andThen fun c? => ?_
  split
  · infer_instance
  · refine .andThen fun candidates => .andThen fun method? => ?_
    split
    · infer_instance
    · split <;>
      · refine .andThen fun field? => ?_
        dsimp only
        split <;> infer_instance

instance (receiver : CellRef) (member : String) :
    Run.Related ρ (receiverOf receiver member) (receiverOf receiver member) := by
  refine .andThen fun content => ?_
  split <;> infer_instance

instance [ρ.IsRecording] (receiver : CellRef) (member : String) (args : List CellRef) :
    Run.Related ρ (invokeMember s receiver member args) (invokeMember s' receiver member args) := by
  refine .andThen fun o => .andThen fun className => .andThen fun c? => ?_
  split
  · infer_instance
  · refine .andThen fun candidates => .andThen fun method? => ?_
    split
    · infer_instance
    · split <;>
      · refine .andThen fun field? => ?_
        dsimp only
        split <;> infer_instance

end Calls

end Host

end CellScript
