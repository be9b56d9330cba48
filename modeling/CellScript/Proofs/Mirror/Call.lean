import CellScript.Machine.HostCall
import CellScript.Proofs.Mirror.Library

/-!
# Calls into the host in other places

What scripts do with host classes is the same in other places. Host code that calls a function of a
script calls it through the evaluator, which does the same in other places too.

## Main statements

* `sim_marshal`, `sim_run` — host code works on the heap, and it calls scripts.
* `sim_runMember`, `sim_runCallback` — members of built-in classes, and functions in the place of
  host objects.
* `sim_callMethod`, `sim_readField` — what arguments and results are turned into.
* `sim_construct`, `sim_invokeStatic`, `sim_invokeMember` — what scripts do with host classes.
-/

namespace CellScript.Mirror

open Host

variable {e : Surroundings} {w : Links} {α : Type}

/-! ## Host code -/

instance sim_marshal [Paired α] (x y : Marshal α) [h : Sim e w x y] :
    Sim e w (marshal x) (marshal y) :=
  ⟨fun m m' machines => by
    obtain ⟨v, heaps, results⟩ := h.follows m.heap m'.heap machines.heap
    exact ⟨v, machines.onHeap v heaps, ⟨.ok results.rel⟩⟩⟩

instance sim_run [Paired α] (x y : Run α) [Sim e w x y] : Sim e w (run x) (run y) :=
  inferInstanceAs (Sim e w (ExceptT.lift x : HostRun α) (ExceptT.lift y))

section Members

variable (self : Reentry) [Mirrors e self]

instance (h h' : Heap) (f f' : Fault) [heaps : Heaps e w h h'] [hf : Alike w f f'] :
    Alike w (faultOf h f) (faultOf h' f') := by
  have message : h.faultMessage f = h'.faultMessage f' := Alike.eq (w := w) inferInstance
  cases hf.rel with
  | @thrown c d same =>
    have := Alike.mk same
    have text : h.text c = h'.text d := Alike.eq (w := w) inferInstance
    exact ⟨congrArg HostFault.thrown text⟩
  | other ne =>
    cases f with
    | thrown c => exact absurd rfl (ne c)
    | taintViolation => exact ⟨rfl⟩
    | _ =>
      unfold faultOf
      dsimp only
      rw [message]
      infer_instance

instance (r r' : HostRegistry) (interface method : String) (arity : Nat) [hr : Alike w r r'] :
    Alike w (resultType r interface method arity) (resultType r' interface method arity) := by
  rw [hr.sameRegistry]
  infer_instance

instance (h h' : Heap) (o o' : ObjectRef) [Heaps e w h h'] [Alike w o o'] :
    Alike w (proxy? h o) (proxy? h' o') := by
  have object : Alike w (h.object o) (h'.object o') := inferInstance
  unfold proxy?
  generalize h.object o = x, h'.object o' = y at object
  cases object.rel <;> infer_instance

instance (f f' : FunctionRef) (interface method : String) (args args' : List HostValue)
    [Alike w f f'] [ha : Alike w args args'] :
    Sim e w (invokeProxy self f interface method args)
      (invokeProxy self f' interface method args') := by
  unfold invokeProxy
  rw [ha.length_eq]
  refine .next fun v returns => .andThen fun v' cells => .except (fun v'' f => inferInstance)
    fun v'' c => ?_
  refine .andThen fun v₃ ⟨registry, registry', same⟩ => ?_
  obtain rfl : registry = registry' := (Alike.mk same).sameRegistry
  infer_instance

instance (comparator comparator' : ObjectRef) (a b a' b' : HostValue)
    [Alike w comparator comparator'] [Alike w a a'] [Alike w b b'] :
    Sim e w (comesBefore self comparator a b) (comesBefore self comparator' a' b') := by
  refine .option (fun v => inferInstance) fun v ⟨⟨f, name⟩, ⟨f', name'⟩, same⟩ => ?_
  obtain rfl : name = name' := same.2
  have : Alike v.now f f' := ⟨same.1⟩
  refine .andThen fun v' verdict => ?_
  have number : verdict.left.int? = verdict.right.int? := Alike.eq (w := v'.now) inferInstance
  rw [number]
  infer_instance

instance sim_sortItems (args args' : List HostValue) [ha : Alike w args args'] :
    Sim e w (sortItems self args) (sortItems self args') := by
  unfold sortItems
  have lists : Alike w args.dropLast args'.dropLast := by
    rw [List.dropLast_eq_take, List.dropLast_eq_take, ha.length_eq]
    infer_instance
  obtain ⟨left, right⟩ | ⟨c, c', left, right, same⟩ :=
      (inferInstance : Alike w args.getLast? args'.getLast?).option <;>
    rw [left, right]
  · infer_instance
  · cases same.rel with
    | object same =>
      obtain ⟨left, right⟩ | ⟨v, v', left, right, found⟩ :=
          (inferInstance : Alike w args.dropLast.getLast? args'.dropLast.getLast?).option <;>
            rw [left, right]
      · infer_instance
      · cases found.rel with
        | array items | list items =>
          have := items.alike
          infer_instance
        | _ => infer_instance
    | _ => infer_instance

instance (receiver receiver' : ObjectRef) [Alike w receiver receiver'] :
    Sim e w (builderText receiver) (builderText receiver') := by
  refine .andThen fun v ⟨object, object', same⟩ => ?_
  cases same <;> infer_instance

instance (receiver receiver' : ObjectRef) (f : String → String) [Alike w receiver receiver'] :
    Sim e w (setBuilder receiver f) (setBuilder receiver' f) :=
  inferInstanceAs (Sim e w (_ >>= _) (_ >>= _))

instance (object object' : HostObject) [Alike w object object'] :
    Sim e w (newObject object) (newObject object') :=
  inferInstanceAs (Sim e w (_ >>= _) (_ >>= _))

theorem sim_pairPart {receiver receiver' : ObjectRef} [Alike w receiver receiver']
    {part : CellRef × CellRef → CellRef}
    (h : ∀ (v : Links) (p q : CellRef × CellRef), Alike v p q → Alike v (part p) (part q)) :
    Sim e w (pairPart receiver part) (pairPart receiver' part) := by
  refine .andThen fun v ⟨object, object', same⟩ => ?_
  cases same with
  | @pair k k' x x' key value =>
    have part := h v.now (k, x) (k', x') inferInstance
    exact .except (fun v' f => inferInstance) fun v' c => inferInstance
  | _ => infer_instance

instance (member : BuiltinMember) (receiver receiver' : ObjectRef) (args args' : List HostValue)
    [Alike w receiver receiver'] [ha : Alike w args args'] :
    Sim e w (runMethod member receiver args) (runMethod member receiver' args') := by
  unfold runMethod
  simp only [ha.hostInt_eq, ha.hostFloat_eq]
  split
  iterate 6 infer_instance
  · exact sim_pairPart fun v p q same => inferInstance
  · exact sim_pairPart fun v p q same => inferInstance
  · refine .andThen fun v ⟨object, object', same⟩ => ?_
    cases same with
    | text s =>
      refine .option (fun v' => inferInstance) fun v' ⟨result, result', same⟩ => ?_
      obtain ⟨f, f', rfl, rfl, failed⟩ | ⟨c, c', rfl, rfl, _⟩ :=
          (Alike.mk same).except <;> infer_instance
    | _ => infer_instance

instance sim_runBuiltin (method : String) (member : BuiltinMember)
    (receiver receiver' : Option ObjectRef) (args args' : List HostValue)
    [hr : Alike w receiver receiver'] [ha : Alike w args args'] :
    Sim e w (runBuiltin self method member receiver args)
      (runBuiltin self method member receiver' args') := by
  refine .option (fun v => ?_) fun v ⟨result, result', same⟩ => ?_
  · simp only [ha.hostInt_eq]
    split
    iterate 5 infer_instance
    obtain ⟨rfl, rfl⟩ | ⟨o, o', rfl, rfl, _⟩ := hr.option <;> infer_instance
  · obtain ⟨f, f', rfl, rfl, failed⟩ | ⟨c, c', rfl, rfl, _⟩ :=
        (Alike.mk same).except <;> infer_instance

instance sim_runCallback (method : String) (args args' : List HostValue) [ha : Alike w args args'] :
    Sim e w (runCallback self method args) (runCallback self method args') := by
  unfold runCallback
  obtain ⟨rfl, rfl⟩ | ⟨value, value', rest, rest', rfl, rfl, first, _⟩ := ha.list
  · infer_instance
  · have := first
    cases first.rel with
    | object same =>
      refine .option (fun v => inferInstance) fun v ⟨⟨f, name⟩, ⟨f', name'⟩, same⟩ => ?_
      obtain rfl : name = name' := same.2
      have : Alike v.now f f' := ⟨same.1⟩
      infer_instance
    | _ => infer_instance

instance (h h' : Heap) (args args' : List HostValue) [Heaps e w h h'] [ha : Alike w args args'] :
    Alike w (args.map h.renderHost) (args'.map h'.renderHost) := by
  rw [ha.mapEq (f := h.renderHost) (g := h'.renderHost)
    fun _ _ _ => Alike.eq (w := w) inferInstance]
  infer_instance

instance (p : PanicError) : Alike w p.toFault p.toFault :=
  inferInstanceAs (Alike w (Fault.fatal _) (.fatal _))

instance sim_runMember (name : String) (body body' : MemberBody) (isStatic : Bool)
    (receiver receiver' : Option ObjectRef) (args args' : List HostValue) [hb : Alike w body body']
    [hr : Alike w receiver receiver'] [ha : Alike w args args'] :
    Sim e w (runMember self name body isStatic receiver args)
      (runMember self name body' isStatic receiver' args') := by
  obtain ⟨rfl, plain⟩ := hb.rel
  have isNone : receiver.isNone = receiver'.isNone := Alike.eq (w := w) inferInstance
  cases body with
  | forward =>
    have (p : TwoHeaps e w) :
        Alike w (receiver.bind (proxy? p.left)) (receiver'.bind (proxy? p.right)) := by
      obtain ⟨rfl, rfl⟩ | ⟨o, o', rfl, rfl, _⟩ := hr.option
      · exact ⟨.none⟩
      · exact inferInstanceAs (Alike w (proxy? p.left o) (proxy? p.right o'))
    refine .option (fun v => inferInstance) fun v ⟨⟨f, name⟩, ⟨f', name'⟩, same⟩ => ?_
    obtain rfl : name = name' := same.2
    have : Alike v.now f f' := ⟨same.1⟩
    infer_instance
  | builtin _ =>
    unfold runMember
    infer_instance
  | give value =>
    have value (v : w.Later) : Alike v.now value value := by
      cases value with
      | null | bool _ | char _ | int _ | float _ | text _ => infer_instance
      | _ => cases plain
    unfold runMember
    dsimp only
    rw [isNone]
    infer_instance
  | map =>
    have entries :
        Alike w (args.mapIdx fun i value => (s!"k{i}", value))
          (args'.mapIdx fun i value => (s!"k{i}", value)) :=
      ha.mapIdx fun _ _ _ _ => inferInstance
    unfold runMember
    dsimp only
    rw [isNone]
    infer_instance
  | label _ | echo | list | make _ | callback _ | fail _ | panic _ =>
    unfold runMember
    dsimp only
    rw [isNone]
    infer_instance

end Members

/-! ## Scripts and host classes -/

section Calls

variable (self : Reentry) [Mirrors e self]

theorem sim_marshalArgs (r : HostRegistry) (types : List HostType) {args args' : List Content}
    (ha : Alike w args args') :
    Sim e w (marshalArgs r types args) (marshalArgs r types args') := by
  unfold marshalArgs
  induction args generalizing args' types w with
  | nil =>
    obtain ⟨-, rfl⟩ | ⟨_, _, _, _, ⟨⟩, -⟩ := ha.list
    rw [List.zip_nil_left, List.mapM_nil]
    infer_instance
  | cons a args ih =>
    obtain ⟨⟨⟩, -⟩ | ⟨_, a', _, args', ⟨rfl, rfl⟩, rfl, hd, tl⟩ := ha.list
    cases types with
    | nil =>
      rw [List.zip_nil_right, List.zip_nil_right, List.mapM_nil]
      infer_instance
    | cons type types =>
      have rest (v : w.Later) := ih types (tl.mono v.le)
      rw [List.zip_cons_cons, List.zip_cons_cons, List.mapM_cons, List.mapM_cons]
      infer_instance

instance (r : HostRegistry) (types : List HostType) (args args' : List Content)
    [ha : Alike w args args'] :
    Sim e w (marshalArgs r types args) (marshalArgs r types args') := sim_marshalArgs r types ha

instance sim_runField (field field' : HostField) (receiver receiver' : Option ObjectRef)
    [hf : Alike w field field'] [hr : Alike w receiver receiver'] :
    Sim e w (runField self field receiver) (runField self field' receiver') := by
  have isNone : receiver.isNone = receiver'.isNone := Alike.eq (w := w) inferInstance
  have body : Alike w field.body field'.body := inferInstance
  unfold runField
  obtain rfl := hf.sameField
  rw [isNone]
  infer_instance

instance (what : String) (candidates candidates' : List HostMethod) (args args' : List CellRef)
    [hc : Alike w candidates candidates'] [ha : Alike w args args'] :
    Sim e w (noMatch what candidates args) (noMatch what candidates' args') := by
  have types (p : TwoHeaps e w) : Alike w (typesText p.left args) (typesText p.right args') := by
    unfold typesText
    rw [ha.mapEq (f := p.left.typeName) (g := p.right.typeName)
      fun _ _ _ => Alike.eq (w := w) inferInstance]
    infer_instance
  unfold noMatch
  rw [hc.members]
  infer_instance

instance sim_callMethod (method method' : HostMethod) (receiver receiver' : Option ObjectRef)
    (args args' : List CellRef) (description : String) [hm : Alike w method method']
    [Alike w receiver receiver'] [ha : Alike w args args'] :
    Sim e w (callMethod self method receiver args description)
      (callMethod self method' receiver' args' description) := by
  have body : Alike w method.body method'.body := inferInstance
  have contents (v : w.Later) (p : TwoHeaps e v.now) :
      Alike v.now (args.map p.left.content) (args'.map p.right.content) :=
    (ha.mono v.le).mapList fun _ _ _ => inferInstance
  unfold callMethod
  obtain rfl := hm.sameMethod
  refine .andThen fun v ⟨registry, registry', same⟩ => ?_
  obtain rfl : registry = registry' := (Alike.mk same).sameRegistry
  have := contents v
  refine .andThen fun v' values => .except (fun v'' failure => ?_) fun v'' items =>
    .except (fun v₃ failure => ?_) ?_
  · obtain ⟨f, f', same⟩ := failure
    obtain rfl : f = f' := (Alike.mk same).eq
    infer_instance
  · obtain ⟨f, f', same⟩ := failure
    obtain rfl : f = f' := (Alike.mk same).eq
    cases f with
    | thrown text =>
      refine .andThen fun v₄ c => ?_
      have source : c.left.currentSource = c.right.currentSource :=
        Alike.eq (w := v₄.now) inferInstance
      have line : c.left.line = c.right.line := Alike.eq (w := v₄.now) inferInstance
      rw [source, line]
      infer_instance
    | _ => infer_instance
  · exact fun v₃ value => inferInstance

instance sim_readField (field field' : HostField) (receiver receiver' : Option ObjectRef)
    (what : String) [Alike w field field'] [Alike w receiver receiver'] :
    Sim e w (readField self field receiver what) (readField self field' receiver' what) := by
  refine .except (fun v failure => ?_) fun v value => inferInstance
  obtain ⟨f, f', same⟩ := failure
  obtain rfl : f = f' := (Alike.mk same).eq
  cases f <;> infer_instance

instance sim_chosen (candidates candidates' : List HostMethod) (args args' : List CellRef)
    [Alike w candidates candidates'] [ha : Alike w args args'] :
    Sim e w (chosen candidates args) (chosen candidates' args') := by
  have found (p : TwoMachines e w) :
      Alike w (resolve p.left.heap p.left.hosts candidates (args.map p.left.heap.content))
      (resolve p.right.heap p.right.hosts candidates' (args'.map p.right.heap.content)) := by
    have :=
      ha.mapList (f := p.left.heap.content) (g := p.right.heap.content) fun _ _ _ => inferInstance
    infer_instance
  exact inferInstanceAs (Sim e w (Run.ask _) (Run.ask _))

instance sim_construct (className : String) (args args' : List CellRef) [ha : Alike w args args'] :
    Sim e w (construct self className args) (construct self className args') := by
  refine .option (fun v => inferInstance) fun v ⟨c, c', same⟩ => ?_
  have : Alike v.now c c' := ⟨same⟩
  have constructors : Alike v.now c.constructors c'.constructors := inferInstance
  obtain rfl := this.sameClass
  dsimp only
  infer_instance

instance (c c' : HostClass) (name : String) [Alike w c c'] :
    Sim e w (findField c name) (findField c' name) := by
  refine .andThen fun v ⟨found, found', same⟩ => ?_
  cases same <;> infer_instance

instance (f f' : Option HostField) [h : Alike w f f'] :
    Alike w (f.filter (·.isStatic)) (f'.filter (·.isStatic)) :=
  h.filterOption fun _ _ found => congrArg _ found.sameField

/-- The field that is found, or none. -/
theorem sim_fieldOr (what : String) (receiver receiver' : Option ObjectRef)
    (f f' : Option HostField) (candidates candidates' : List HostMethod) (args args' : List CellRef)
    [Alike w receiver receiver'] [hf : Alike w f f'] [Alike w candidates candidates']
    [Alike w args args'] :
    Sim e w
      (match f with
        | some field => readField self field receiver what
        | none => noMatch what candidates args)
      (match f' with
        | some field => readField self field receiver' what
        | none => noMatch what candidates' args') := by
  obtain ⟨rfl, rfl⟩ | ⟨field, field', rfl, rfl, found⟩ := hf.option <;> infer_instance

instance sim_invokeStatic (className member : String) (args args' : List CellRef)
    [ha : Alike w args args'] :
    Sim e w (invokeStatic self className member args)
      (invokeStatic self className member args') := by
  refine .option (fun v => inferInstance) fun v ⟨c, c', same⟩ => ?_
  have alike : Alike v.now c c' := ⟨same⟩
  have name : c.name = c'.name := congrArg _ alike.sameClass
  dsimp only
  rw [ha.length_eq, ha.isEmpty_eq, name]
  refine .andThen fun v' candidates => .option (fun v'' => ?_) fun v'' method => inferInstance
  dsimp only
  split <;> exact .andThen fun v₃ found => sim_fieldOr ..

instance (receiver receiver' : CellRef) (member : String) [Alike w receiver receiver'] :
    Sim e w (receiverOf receiver member) (receiverOf receiver' member) := by
  refine .andThen fun v ⟨content, content', same⟩ => ?_
  cases same <;> dsimp only [Content.typeName] <;> infer_instance

instance sim_invokeMember (receiver receiver' : CellRef) (member : String)
    (args args' : List CellRef) [Alike w receiver receiver'] [ha : Alike w args args'] :
    Sim e w (invokeMember self receiver member args)
      (invokeMember self receiver' member args') := by
  refine .andThen fun v o => .next fun v' className =>
    .option (fun v'' => inferInstance) fun v'' ⟨c, c', same⟩ => ?_
  have alike : Alike v''.now c c' := ⟨same⟩
  have name : c.name = c'.name := congrArg _ alike.sameClass
  dsimp only
  rw [ha.length_eq, ha.isEmpty_eq, name]
  refine .andThen fun v₃ candidates => .option (fun v₄ => ?_) fun v₄ method => inferInstance
  dsimp only
  split <;> exact .andThen fun v₅ found => sim_fieldOr ..

end Calls

end CellScript.Mirror
