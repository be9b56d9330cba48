import CellScript.Host.Marshal
import CellScript.Host.Builtin
import CellScript.Proofs.Host.Overload
import CellScript.Proofs.Mirror.Reading

/-!
# Marshaling in other places

Values that are alike are marshaled to values of the host that are alike, and back. Which overload a
call chooses does not depend on where its arguments are.

## Main definitions

* `HostValues` — values of the host that are alike.

## Main statements

* Instances of `Alike` for host values and for what is looked up, and of `Sim` for conversions.
-/

namespace CellScript.Mirror

variable {e : Surroundings} {w : Links}

instance : Plain HostFault := ⟨⟩
instance : Plain HostType := ⟨⟩
instance : Plain Match := ⟨⟩

/-! ## Values of the host -/

mutual

/-- Values of the host that are alike. -/
inductive HostValues (w : Links) : HostValue → HostValue → Prop where
  | null : HostValues w .null .null
  | bool (b : Bool) : HostValues w (.bool b) (.bool b)
  | char (c : Char) : HostValues w (.char c) (.char c)
  | int (n : Int64) : HostValues w (.int n) (.int n)
  | float (x : Float) : HostValues w (.float x) (.float x)
  | text (s : String) : HostValues w (.text s) (.text s)
  | array {items items' : List HostValue} :
    HostItems w items items' → HostValues w (.array items) (.array items')
  | list {items items' : List HostValue} :
    HostItems w items items' → HostValues w (.list items) (.list items')
  | map {entries entries' : List (String × HostValue)} : HostEntries w entries entries' →
    HostValues w (.map entries) (.map entries')
  | object {o o' : ObjectRef} : Alike w o o' → HostValues w (.object o) (.object o')
  | function {f f' : FunctionRef} : Alike w f f' → HostValues w (.function f) (.function f')

/-- Lists of such values. -/
inductive HostItems (w : Links) : List HostValue → List HostValue → Prop where
  | nil : HostItems w [] []
  | cons {v v' : HostValue} {rest rest' : List HostValue} :
    HostValues w v v' → HostItems w rest rest' →
    HostItems w (v :: rest) (v' :: rest')

/-- Entries with such values. -/
inductive HostEntries (w : Links) :
    List (String × HostValue) → List (String × HostValue) → Prop where
  | nil : HostEntries w [] []
  | cons (key : String) {v v' : HostValue} {rest rest' : List (String × HostValue)} :
    HostValues w v v' →
    HostEntries w rest rest' → HostEntries w ((key, v) :: rest) ((key, v') :: rest')

end

mutual

theorem HostValues.mono {w w' : Links} (le : w ≤ w') {v v' : HostValue} :
    HostValues w v v' → HostValues w' v v'
  | .null => .null
  | .bool b => .bool b
  | .char c => .char c
  | .int n => .int n
  | .float x => .float x
  | .text s => .text s
  | .array h => .array (h.mono le)
  | .list h => .list (h.mono le)
  | .map h => .map (h.mono le)
  | .object h => .object (h.mono le)
  | .function h => .function (h.mono le)

theorem HostItems.mono {w w' : Links} (le : w ≤ w') {vs vs' : List HostValue} :
    HostItems w vs vs' → HostItems w' vs vs'
  | .nil => .nil
  | .cons h hs => .cons (h.mono le) (hs.mono le)

theorem HostEntries.mono {w w' : Links} (le : w ≤ w') {vs vs' : List (String × HostValue)} :
    HostEntries w vs vs' → HostEntries w' vs vs'
  | .nil => .nil
  | .cons key h hs => .cons key (h.mono le) (hs.mono le)

end

instance : Paired HostValue := ⟨HostValues, fun le h => h.mono le⟩

theorem Alike.items {vs vs' : List HostValue} (h : Alike w vs vs') : HostItems w vs vs' := by
  induction vs generalizing vs' with
  | nil =>
    obtain ⟨-, rfl⟩ | ⟨_, _, _, _, ⟨⟩, -⟩ := h.list
    exact .nil
  | cons v vs ih =>
    obtain ⟨⟨⟩, -⟩ | ⟨_, v', _, vs', ⟨rfl, rfl⟩, rfl, hd, tl⟩ := h.list
    exact .cons hd.rel (ih tl)

theorem HostItems.alike {vs vs' : List HostValue} (h : HostItems w vs vs') : Alike w vs vs' := by
  induction vs generalizing vs' with
  | nil =>
    cases h
    exact ⟨.nil⟩
  | cons v vs ih =>
    cases h with
    | cons h hs =>
      have := Alike.mk (a := v) h
      have := ih hs
      infer_instance

theorem Alike.hostEntries {vs vs' : List (String × HostValue)} (h : Alike w vs vs') :
    HostEntries w vs vs' := by
  induction vs generalizing vs' with
  | nil =>
    obtain ⟨-, rfl⟩ | ⟨_, _, _, _, ⟨⟩, -⟩ := h.list
    exact .nil
  | cons v vs ih =>
    obtain ⟨⟨⟩, -⟩ | ⟨_, v', _, vs', ⟨rfl, rfl⟩, rfl, hd, tl⟩ := h.list
    obtain ⟨key, a, b, rfl, rfl, same⟩ := hd.entry
    exact .cons key same.rel (ih tl)

section Values

instance : Alike w HostValue.null .null := ⟨.null⟩

instance (b b' : Bool) [h : Alike w b b'] : Alike w (HostValue.bool b) (.bool b') :=
  ⟨h.eq ▸ .bool b⟩

instance (c c' : Char) [h : Alike w c c'] : Alike w (HostValue.char c) (.char c') :=
  ⟨h.eq ▸ .char c⟩

instance (n n' : Int64) [h : Alike w n n'] : Alike w (HostValue.int n) (.int n') := ⟨h.eq ▸ .int n⟩

instance (x x' : Float) [h : Alike w x x'] : Alike w (HostValue.float x) (.float x') :=
  ⟨h.eq ▸ .float x⟩

instance (s s' : String) [h : Alike w s s'] : Alike w (HostValue.text s) (.text s') :=
  ⟨h.eq ▸ .text s⟩

instance (vs vs' : List HostValue) [h : Alike w vs vs'] :
    Alike w (HostValue.array vs) (.array vs') := ⟨.array h.items⟩

instance (vs vs' : List HostValue) [h : Alike w vs vs'] : Alike w (HostValue.list vs) (.list vs') :=
  ⟨.list h.items⟩

instance (vs vs' : List (String × HostValue)) [h : Alike w vs vs'] :
    Alike w (HostValue.map vs) (.map vs') :=
  ⟨.map h.hostEntries⟩

instance (o o' : ObjectRef) [h : Alike w o o'] : Alike w (HostValue.object o) (.object o') :=
  ⟨.object h⟩

instance (f f' : FunctionRef) [h : Alike w f f'] : Alike w (HostValue.function f) (.function f') :=
  ⟨.function h⟩

variable (v v' : HostValue) [h : Alike w v v']

instance : Alike w v.int? v'.int? := by
  cases h.rel <;> exact ⟨Discrete.rel_iff.mpr rfl⟩

instance : Alike w v.float? v'.float? := by
  cases h.rel <;> exact ⟨Discrete.rel_iff.mpr rfl⟩

instance (type : HostType) : Alike w type.emptyValue type.emptyValue := by
  unfold HostType.emptyValue
  split <;> infer_instance

end Values

/-! ## Texts -/

section Texts

variable {h h' : Heap}

mutual

theorem Heaps.renderHost_eq (heaps : Heaps e w h h') :
    {v v' : HostValue} → HostValues w v v' → h.renderHost v = h'.renderHost v'
  | _, _, .null => rfl
  | _, _, .bool _ => rfl
  | _, _, .char _ => rfl
  | _, _, .int _ => rfl
  | _, _, .float _ => rfl
  | _, _, .text _ => rfl
  | _, _, .array same => by rw [Heap.renderHost, Heap.renderHost, heaps.renderHostItems_eq same]
  | _, _, .list same => by rw [Heap.renderHost, Heap.renderHost, heaps.renderHostItems_eq same]
  | _, _, .map same => by rw [Heap.renderHost, Heap.renderHost, heaps.renderHostEntries_eq same]
  | _, _, .object same => by
    rw [Heap.renderHost, Heap.renderHost]
    exact Alike.eq (w := w) inferInstance
  | _, _, .function same => by
    rw [Heap.renderHost, Heap.renderHost]
    exact Alike.eq (w := w) inferInstance

theorem Heaps.renderHostItems_eq (heaps : Heaps e w h h') :
    {vs vs' : List HostValue} → HostItems w vs vs' →
    h.renderHostItems vs = h'.renderHostItems vs'
  | _, _, .nil => rfl
  | _, _, .cons same rest => by
    rw [Heap.renderHostItems, Heap.renderHostItems, heaps.renderHost_eq same,
      heaps.renderHostItems_eq rest]

theorem Heaps.renderHostEntries_eq (heaps : Heaps e w h h') :
    {vs vs' : List (String × HostValue)} → HostEntries w vs vs' →
    h.renderHostEntries vs = h'.renderHostEntries vs'
  | _, _, .nil => rfl
  | _, _, .cons _ same rest => by
    rw [Heap.renderHostEntries, Heap.renderHostEntries, heaps.renderHost_eq same,
      heaps.renderHostEntries_eq rest]

end

end Texts

section Printing

variable (h h' : Heap) [heaps : Heaps e w h h'] (v v' : HostValue) [same : Alike w v v']

instance : Alike w (h.renderHost v) (h'.renderHost v') := ⟨heaps.renderHost_eq same.rel⟩

instance : Alike w (h.debugHost v) (h'.debugHost v') := by
  have shown : h.renderHost v = h'.renderHost v' := Alike.eq (w := w) inferInstance
  cases same.rel with
  | @object o o' =>
    have name : (h.object o).className = (h'.object o').className := Alike.eq (w := w) inferInstance
    exact ⟨congrArg (fun name => "Object(" ++ name ++ ")") name⟩
  | @function f f' =>
    have text : (h.callable f).describe = (h'.callable f').describe :=
      Alike.eq (w := w) inferInstance
    exact ⟨congrArg (fun text => "Function(" ++ text ++ ")") text⟩
  | _ => exact ⟨shown⟩

instance (args args' : List HostValue) (i : Nat) [Alike w args args'] :
    Alike w (hostText h args i) (hostText h' args' i) := by
  unfold hostText
  obtain ⟨left, right⟩ | ⟨v, v', left, right, _⟩ :=
      (inferInstance : Alike w args[i]? args'[i]?).option <;>
    rw [left, right] <;> infer_instance

end Printing

/-! ## From scripts to the host -/

section Marshaling

/-- What a value is for the host. -/
theorem Heaps.naturalWithin {h h' : Heap} (heaps : Heaps e w h h') (n : Nat) {c c' : Content}
    (hc : Alike w c c') :
    Alike w (h.naturalWithin n c) (h'.naturalWithin n c') := by
  induction n generalizing c c' with
  | zero => exact inferInstanceAs (Alike w (Except.ok _) (Except.ok _))
  | succ n ih =>
    unfold Heap.naturalWithin
    cases hc.rel with
    | @sequence s s' =>
      have shown : Alike w (h.sequences.snapshot s) (h'.sequences.snapshot s') := inferInstance
      dsimp only
      obtain ⟨f, f', left, right, failed⟩ | ⟨cells, cells', left, right, same⟩ := shown.except
      · have text : h.faultMessage f = h'.faultMessage f' := Alike.eq (w := w) inferInstance
        rw [left, right]
        dsimp only
        rw [text]
        infer_instance
      · have items := same.mapM (f := fun cell => h.naturalWithin n (h.content cell))
          (g := fun cell => h'.naturalWithin n (h'.content cell)) fun _ _ _ => ih inferInstance
        rw [left, right]
        exact items.mapExcept fun _ _ _ =>
          inferInstanceAs (Alike w (HostValue.list _) (HostValue.list _))
    | @table t t' =>
      have items := (inferInstance : Alike w (h.entries t) (h'.entries t')).mapM
        (f := fun entry => (entry.1, ·) <$> h.naturalWithin n (h.content entry.2))
        (g := fun entry => (entry.1, ·) <$> h'.naturalWithin n (h'.content entry.2))
          fun a b same => by
          obtain ⟨key, cell, cell', rfl, rfl, _⟩ := same.entry
          exact (ih (inferInstance : Alike w (h.content cell) (h'.content cell'))).mapExcept
            fun _ _ _ => inferInstance
      exact items.mapExcept fun _ _ _ =>
        inferInstanceAs (Alike w (HostValue.map _) (HostValue.map _))
    | _ => exact inferInstanceAs (Alike w (Except.ok _) (Except.ok _))

instance (h h' : Heap) (c c' : Content) [heaps : Heaps e w h h'] [hc : Alike w c c'] :
    Alike w (h.natural c) (h'.natural c') := by
  unfold Heap.natural
  rw [heaps.nesting_eq hc]
  exact heaps.naturalWithin _ hc

variable {α : Type} [Paired α]

/-- Going on from the heap. -/
theorem sim_getHeap {f g : Heap → Marshal α}
    (h : ∀ p : TwoHeaps e w, Sim e w (f p.left) (g p.right)) :
    Sim e w (getThe Heap >>= f) (getThe Heap >>= g) :=
  ⟨fun l r heaps => (h ⟨l, r, heaps⟩).follows l r heaps⟩

instance (f g : Heap → Marshal α) [h : ∀ p : TwoHeaps e w, Sim e w (f p.left) (g p.right)] :
    Sim e w (getThe Heap >>= f) (getThe Heap >>= g) := sim_getHeap h

/-- The host value of content that is not converted. -/
theorem sim_natural (c c' : Content) [Alike w c c'] :
    Sim e w
      (do match (← getThe Heap).natural c with
        | .ok value => return value
        | .error fault => throw fault : Marshal _)
      (do match (← getThe Heap).natural c' with
        | .ok value => return value
        | .error fault => throw fault) :=
  sim_getHeap fun p => by
    obtain ⟨f, f', left, right, failed⟩ | ⟨v, v', left, right, same⟩ :=
        (inferInstance : Alike w (p.left.natural c) (p.right.natural c')).except <;>
      rw [left, right] <;> infer_instance

/-- A proxy for a function. -/
theorem sim_proxy (f f' : FunctionRef) (name : String) [Alike w f f'] :
    Sim e w (do
        let h ← getThe Heap
        let o : ObjectRef := ⟨h.objects.size⟩
        set { h with objects := h.objects.push (.proxy f name) }
        return .object o : Marshal HostValue)
      (do
        let h ← getThe Heap
        let o : ObjectRef := ⟨h.objects.size⟩
        set { h with objects := h.objects.push (.proxy f' name) }
        return .object o) :=
  ⟨fun _ _ heaps => ⟨heaps.objects.grow, heaps.pushObject (.proxy f name) (.proxy f' name),
    ⟨.ok (.object ⟨heaps.objects.has_grow⟩)⟩⟩⟩

theorem toHost_null (r : HostRegistry) (type : HostType) :
    toHost r type .null = pure type.emptyValue := by
  cases type <;> rfl

/-- The empty value is what its declared type makes of it. -/
theorem sim_toHost_of_full {r : HostRegistry} {type : HostType} {c c' : Content} (hc : Alike w c c')
    (h : c ≠ .null → c' ≠ .null → Sim e w (toHost r type c) (toHost r type c')) :
    Sim e w (toHost r type c) (toHost r type c') := by
  by_cases empty : c = .null
  · subst empty
    obtain ⟨⟨⟩⟩ := hc
    rw [toHost_null]
    infer_instance
  · refine h empty ?_
    rintro rfl
    cases hc.rel
    exact empty rfl

/-- An interface is called through a function; other values are themselves. -/
theorem sim_toHost_named (r : HostRegistry) (interface : String) {c c' : Content}
    (hc : Alike w c c') (full : c ≠ .null) :
    Sim e w (toHost r (.named interface) c) (toHost r (.named interface) c') := by
  cases hc.rel with
  | null => exact absurd rfl full
  | @function f f' =>
    rw [toHost, toHost]
    split
    · exact sim_proxy f f' interface
    · infer_instance
  | int n => exact sim_natural (.int n) (.int n)
  | float x => exact sim_natural (.float x) (.float x)
  | text s => exact sim_natural (.text s) (.text s)
  | @object o o' => exact sim_natural (.object o) (.object o')
  | @sequence s s' => exact sim_natural (.sequence s) (.sequence s')
  | @table t t' => exact sim_natural (.table t) (.table t')

/-- The elements of an array are converted one by one, with the contents from before the first is
converted. -/
theorem sim_toHost_array (r : HostRegistry) (element : HostType) {c c' : Content}
    (hc : Alike w c c') (full : c ≠ .null)
    (elements : ∀ (v : w.Later) (x x' : Content), Alike v.now x x' →
      Sim e v.now (toHost r element x) (toHost r element x')) :
    Sim e w (toHost r (.array element) c) (toHost r (.array element) c') := by
  have name : c.typeName = c'.typeName := Alike.eq (w := w) inferInstance
  cases hc.rel with
  | null => exact absurd rfl full
  | @sequence s s' =>
    refine sim_getHeap fun p => ?_
    obtain ⟨f, f', left, right, failed⟩ | ⟨cells, cells', left, right, same⟩ :=
      (inferInstance : Alike w (p.left.sequences.snapshot s) (p.right.sequences.snapshot s')).except
    · have text : p.left.faultMessage f = p.right.faultMessage f' := Alike.eq (w := w) inferInstance
      rw [left, right]
      dsimp only
      rw [text]
      infer_instance
    · have contents : Alike w (cells.map p.left.content) (cells'.map p.right.content) :=
        same.mapList fun _ _ _ => inferInstance
      have items : Sim e w ((cells.map p.left.content).mapM (toHost r element))
          ((cells'.map p.right.content).mapM (toHost r element)) :=
        sim_mapM w fun v q => elements v q.left q.right inferInstance
      rw [left, right]
      rw [List.mapM_map, List.mapM_map] at items
      exact items.seq fun _ _ => inferInstance
  | _ =>
    unfold toHost
    rw [name]
    infer_instance

instance sim_toHost (r : HostRegistry) (type : HostType) (w : Links) (c c' : Content)
    [hc : Alike w c c'] :
    Sim e w (toHost r type c) (toHost r type c') := by
  induction type generalizing w c c' <;> refine sim_toHost_of_full hc fun empty full => ?_
  case void => rw [toHost, toHost] <;> first | assumption | infer_instance
  case boolean =>
    have truth : c.isTruthy = c'.isTruthy := Alike.eq (w := w) inferInstance
    rw [toHost, toHost, truth] <;> first | assumption | infer_instance
  case byte | short | int | long =>
    rw [toHost, toHost] <;> try assumption
    refine sim_getHeap fun p => ?_
    have number : p.left.toInt c = p.right.toInt c' := Alike.eq (w := w) inferInstance
    rw [number]
    infer_instance
  case float | double =>
    rw [toHost, toHost] <;> try assumption
    refine sim_getHeap fun p => ?_
    have number : p.left.toFloat c = p.right.toFloat c' := Alike.eq (w := w) inferInstance
    rw [number]
    infer_instance
  case text => rw [toHost, toHost] <;> first | assumption | infer_instance
  case char =>
    rw [toHost, toHost] <;> try assumption
    refine sim_getHeap fun p => ?_
    have text : p.left.contentText c = p.right.contentText c' := Alike.eq (w := w) inferInstance
    rw [text]
    split <;> infer_instance
  case object | collection | map =>
    rw [toHost, toHost] <;> first | assumption | exact sim_natural c c'
  case named interface => exact sim_toHost_named r interface hc empty
  case array element ih => exact sim_toHost_array r element hc empty fun v x x' _ => ih v.now x x'

end Marshaling

/-! ## From the host to scripts -/

instance (t t' : TableRef) (key : String) (c c' : CellRef) [Alike w t t'] [hc : Alike w c c'] :
    Sim e w (HeapM.putEntry t key c) (HeapM.putEntry t' key c') := by
  have put (p : Both w Table) : Alike w
      (match p.left.entries.get? key with
        | some entry => p.left.replace key entry c
        | none => p.left.append key c)
      (match p.right.entries.get? key with
        | some entry => p.right.replace key entry c'
        | none => p.right.append key c') := by
    obtain ⟨left, right⟩ | ⟨x, y, left, right, _⟩ :=
        (inferInstance : Alike w (p.left.entries.get? key) (p.right.entries.get? key)).option <;>
      rw [left, right] <;> infer_instance
  exact inferInstanceAs (Sim e w (HeapM.change fun h => h.modifyTable t _)
    (HeapM.change fun h => h.modifyTable t' _))

mutual

theorem sim_fromHost (w : Links) :
    {v v' : HostValue} → HostValues w v v' → Sim e w (fromHost v) (fromHost v')
  | _, _, .null | _, _, .bool _ | _, _, .char _ | _, _, .int _ | _, _, .float _
  | _, _, .text _ => by
    rw [fromHost]
    infer_instance
  | _, _, .array same => by
    have := sim_fromHostItems w same
    rw [fromHost, fromHost]
    infer_instance
  | _, _, .list same => by
    have := sim_fromHostItems w same
    rw [fromHost, fromHost]
    infer_instance
  | _, _, .map same => by
    rw [fromHost, fromHost]
    refine .andThen fun v p => ?_
    have := sim_fromHostEntries v.now p.left p.right (same.mono v.le)
    infer_instance
  | _, _, .object same => by
    rw [fromHost, fromHost]
    refine .andThen fun v ⟨x, x', object⟩ => ?_
    cases object with
    | proxy => infer_instance
    | _ => infer_instance
  | _, _, .function same => by
    rw [fromHost, fromHost]
    infer_instance

theorem sim_fromHostItems (w : Links) : {vs vs' : List HostValue} → HostItems w vs vs' →
    Sim e w (fromHostItems vs) (fromHostItems vs')
  | _, _, .nil => by
    rw [fromHostItems]
    infer_instance
  | _, _, .cons same rest => by
    have := sim_fromHost w same
    rw [fromHostItems, fromHostItems]
    refine .andThen fun v p => ?_
    have := sim_fromHostItems v.now (rest.mono v.le)
    infer_instance

theorem sim_fromHostEntries (w : Links) (t t' : TableRef) [Alike w t t'] :
    {vs vs' : List (String × HostValue)} →
    HostEntries w vs vs' → Sim e w (fromHostEntries t vs) (fromHostEntries t' vs')
  | _, _, .nil => by
    rw [fromHostEntries, fromHostEntries]
    infer_instance
  | _, _, .cons key same rest => by
    have := sim_fromHost w same
    rw [fromHostEntries, fromHostEntries]
    refine .andThen fun v p => ?_
    refine .andThen fun v' _ => ?_
    have := sim_fromHostEntries v'.now t t' ((rest.mono v.le).mono v'.le)
    infer_instance

end

instance (v v' : HostValue) [h : Alike w v v'] : Sim e w (fromHost v) (fromHost v') :=
  sim_fromHost w h.rel

instance (vs vs' : List HostValue) [h : Alike w vs vs'] :
    Sim e w (fromHostItems vs) (fromHostItems vs') :=
  sim_fromHostItems w h.items

/-! ## Classes -/

/-- A body that gives no value with references. -/
def IsPlainBody : MemberBody → Bool
  | .give value =>
    match value with
    | .null | .bool _ | .char _ | .int _ | .float _ | .text _ => true
    | _ => false
  | _ => true

instance : Paired MemberBody := ⟨fun _ b b' => b = b' ∧ IsPlainBody b, fun _ => id⟩

instance : Paired HostMethod := ⟨fun w m m' => m = m' ∧ Paired.rel w m.body m'.body, fun _ => id⟩

instance : Paired HostField := ⟨fun w f f' => f = f' ∧ Paired.rel w f.body f'.body, fun _ => id⟩

instance : Paired HostClass :=
  ⟨fun w c c' => c = c' ∧ Paired.rel w (c.constructors, c.methods, c.fields)
    (c'.constructors, c'.methods, c'.fields), fun le => And.imp_right (Paired.mono le)⟩

instance : Paired HostRegistry :=
  ⟨fun w r r' => r = r' ∧ Paired.rel w r.classes r'.classes,
    fun le => And.imp_right (Paired.mono le)⟩

section Registry

theorem Alike.sameMethod {m m' : HostMethod} (h : Alike w m m') : m = m' := h.rel.1

instance (m m' : HostMethod) [h : Alike w m m'] : Alike w m.body m'.body := ⟨h.rel.2⟩

theorem Alike.sameField {f f' : HostField} (h : Alike w f f') : f = f' := h.rel.1

instance (f f' : HostField) [h : Alike w f f'] : Alike w f.body f'.body := ⟨h.rel.2⟩

theorem Alike.sameClass {c c' : HostClass} (h : Alike w c c') : c = c' := h.rel.1

theorem Alike.sameRegistry {r r' : HostRegistry} (h : Alike w r r') : r = r' := h.rel.1

section Members

variable (c c' : HostClass) [h : Alike w c c']

instance : Alike w c.constructors c'.constructors := ⟨h.rel.2.1⟩

instance : Alike w c.methods c'.methods := ⟨h.rel.2.2.1⟩

instance : Alike w c.fields c'.fields := ⟨h.rel.2.2.2⟩

instance (name : String) (arity : Nat) (isStatic : Bool) :
    Alike w (c.methodsNamed name arity isStatic) (c'.methodsNamed name arity isStatic) :=
  (inferInstance : Alike w c.methods c'.methods).filter fun _ _ same => by rw [same.sameMethod]

instance (name : String) : Alike w (c.fieldNamed? name) (c'.fieldNamed? name) :=
  (inferInstance : Alike w c.fields c'.fields).find? fun _ _ same => by rw [same.sameField]

end Members

/-- Searches for a field that come to the same. -/
inductive FieldSearches (w : Links) : FieldSearch → FieldSearch → Prop where
  | found {f f' : HostField} : Alike w f f' → FieldSearches w (.found f) (.found f')
  | missing : FieldSearches w .missing .missing
  | endless : FieldSearches w .endless .endless

instance : Paired FieldSearch where
  rel := FieldSearches
  mono le
    | .found h => .found (h.mono le)
    | .missing => .missing
    | .endless => .endless

variable (r r' : HostRegistry) [hr : Alike w r r']

instance : Alike w r.classes r'.classes := ⟨hr.rel.2⟩

instance (name : String) : Alike w (r.lookup? name) (r'.lookup? name) := by
  obtain rfl := hr.sameRegistry
  unfold HostRegistry.lookup?
  infer_instance

theorem alike_inheritedMethods (name : String) (arity : Nat) (isStatic : Bool) (n : Nat)
    (seen : List String) (parent : Option String) :
    Alike w (r.inheritedMethods name arity isStatic n seen parent)
      (r'.inheritedMethods name arity isStatic n seen parent) := by
  induction n generalizing seen parent with
  | zero => exact ⟨.nil⟩
  | succ n ih =>
    cases parent with
    | none => exact ⟨.nil⟩
    | some parent =>
      rw [HostRegistry.inheritedMethods, HostRegistry.inheritedMethods]
      split
      · exact ⟨.nil⟩
      · obtain ⟨left, right⟩ | ⟨c, c', left, right, same⟩ :=
          (inferInstance : Alike w (r.lookup? parent) (r'.lookup? parent)).option
        · rw [left, right]
          exact ⟨.nil⟩
        · obtain rfl := same.sameClass
          have := ih (parent :: seen) c.superclass
          rw [left, right]
          infer_instance

variable (c c' : HostClass) [hc : Alike w c c']

instance (name : String) (arity : Nat) (isStatic : Bool) :
    Alike w (r.methods c name arity isStatic) (r'.methods c' name arity isStatic) := by
  have bound : r.nameBound = r'.nameBound := congrArg _ hr.sameRegistry
  obtain rfl := hc.sameClass
  have :=
    alike_inheritedMethods (w := w) r r' name arity isStatic (r'.nameBound + 1) [c.name]
      c.superclass
  unfold HostRegistry.methods
  rw [bound]
  infer_instance

theorem alike_searchField (name : String) (n : Nat) :
    Alike w (r.searchField name n c) (r'.searchField name n c') := by
  induction n generalizing c c' with
  | zero => exact ⟨.endless⟩
  | succ n ih =>
    have known : Alike w (c.fieldNamed? name) (c'.fieldNamed? name) := inferInstance
    have parents : Alike w (c.superclass.bind r.lookup?) (c'.superclass.bind r'.lookup?) := by
      obtain rfl := hc.sameClass
      cases c.superclass with
      | none => exact ⟨.none⟩
      | some parent => exact inferInstanceAs (Alike w (r.lookup? parent) (r'.lookup? parent))
    rw [HostRegistry.searchField, HostRegistry.searchField]
    obtain ⟨left, right⟩ | ⟨_, _, left, right, same⟩ := known.option
    · rw [left, right]
      obtain ⟨left, right⟩ | ⟨p, p', left, right, same⟩ := parents.option
      · rw [left, right]
        exact ⟨.missing⟩
      · rw [left, right]
        dsimp only
        rw [same.sameClass, hc.sameClass]
        split
        · exact ⟨.missing⟩
        · have below := ih p p'
          rwa [same.sameClass] at below
    · rw [left, right]
      exact ⟨.found same⟩

instance (name : String) : Alike w (r.field c name) (r'.field c' name) := by
  have bound : r.nameBound = r'.nameBound := congrArg _ hr.sameRegistry
  unfold HostRegistry.field
  rw [bound]
  exact alike_searchField r r' c c' name _

/-! ### Overloads -/

instance (h h' : Heap) (x x' : Content) (type : HostType) [heaps : Heaps e w h h']
    [hx : Alike w x x'] :
    Alike w (score h r x type) (score h' r x' type) := by
  cases hx.rel with
  | @object o o' =>
    have name : (h.object o).className = (h'.object o').className := Alike.eq (w := w) inferInstance
    cases type with
    | named =>
      rw [score, score, name]
      infer_instance
    | _ => exact ⟨rfl⟩
  | _ => cases type <;> exact ⟨rfl⟩

section Scores

variable {h h' : Heap} {args args' : List Content}

theorem Heaps.map_score_eq (heaps : Heaps e w h h') (ha : Alike w args args')
    (types : List HostType) :
    (args.zip types).map (fun (arg, type) => score h r arg type) =
      (args'.zip types).map fun (arg, type) => score h' r arg type := by
  induction args generalizing args' types with
  | nil =>
    obtain ⟨-, rfl⟩ | ⟨_, _, _, _, ⟨⟩, -⟩ := ha.list
    rfl
  | cons a args ih =>
    obtain ⟨⟨⟩, -⟩ | ⟨_, a', _, args', ⟨rfl, rfl⟩, rfl, hd, tl⟩ := ha.list
    cases types with
    | nil => rfl
    | cons type types =>
      have first : score h r a type = score h' r a' type := Alike.eq (w := w) inferInstance
      rw [List.zip_cons_cons, List.zip_cons_cons, List.map_cons, List.map_cons, ih tl types]
      exact congrArg (· :: _) first

theorem Heaps.scores?_eq (heaps : Heaps e w h h') (ha : Alike w args args') (m : HostMethod) :
    m.scores? h r args = m.scores? h' r args' := by
  unfold HostMethod.scores?
  rw [ha.length_eq, heaps.map_score_eq r ha]

end Scores

theorem Alike.members {ms ms' : List HostMethod} (h : Alike w ms ms') : ms = ms' :=
  (List.map_id ms).symm.trans
  ((h.mapEq (f := id) (g := id) fun _ _ => sameMethod).trans (List.map_id ms'))

theorem Alike.plain {ms ms' : List HostMethod} (h : Alike w ms ms') {m : HostMethod}
    (held : m ∈ ms) : Alike w m m := by
  obtain rfl := h.members
  exact ⟨List.forall₂_same.mp h.rel m held⟩

instance (h h' : Heap) (ms ms' : List HostMethod) (args args' : List Content)
    [heaps : Heaps e w h h'] [hm : Alike w ms ms'] [ha : Alike w args args'] :
    Alike w (resolve h r ms args) (resolve h' r' ms' args') := by
  have same : resolve h r ms args = resolve h' r' ms' args' := by
    obtain rfl := hr.sameRegistry
    unfold resolve
    simp only [hm.members, heaps.scores?_eq r ha]
  rw [← same]
  cases found : resolve h r ms args with
  | none => exact ⟨.none⟩
  | some m =>
    have := hm.plain (chosen_of_resolve found).mem
    infer_instance

end Registry

/-! ## Standard members -/

section Members

variable (args args' : List HostValue) [ha : Alike w args args']

theorem Alike.hostInt_eq {args args' : List HostValue} (ha : Alike w args args') (i : Nat) :
    hostInt args i = hostInt args' i := by
  unfold hostInt
  obtain ⟨left, right⟩ | ⟨v, v', left, right, same⟩ :=
      (inferInstance : Alike w args[i]? args'[i]?).option <;> rw [left, right]
  rw [Option.bind_some, Option.bind_some,
    Alike.eq (w := w) (inferInstance : Alike w v.int? v'.int?)]

theorem Alike.hostFloat_eq {args args' : List HostValue} (ha : Alike w args args') (i : Nat) :
    hostFloat args i = hostFloat args' i := by
  unfold hostFloat
  obtain ⟨left, right⟩ | ⟨v, v', left, right, same⟩ :=
      (inferInstance : Alike w args[i]? args'[i]?).option <;> rw [left, right]
  rw [Option.bind_some, Option.bind_some,
    Alike.eq (w := w) (inferInstance : Alike w v.float? v'.float?)]

variable (h h' : Heap) [heaps : Heaps e w h h'] (member : BuiltinMember)

instance : Alike w (member.onNumbers? h args) (member.onNumbers? h' args') := by
  have text (i : Nat) : hostText h args i = hostText h' args' i := Alike.eq (w := w) inferInstance
  unfold BuiltinMember.onNumbers?
  simp only [text, ha.hostInt_eq, ha.hostFloat_eq]
  cases member with
  | parseInt =>
    dsimp only
    split <;> infer_instance
  | reverse =>
    dsimp only
    obtain ⟨left, right⟩ | ⟨v, v', left, right, same⟩ :=
        (inferInstance : Alike w args.head? args'.head?).option <;>
      rw [left, right]
    · infer_instance
    · cases same.rel with
      | array items | list items =>
        have := items.alike
        infer_instance
      | _ => infer_instance
  | _ => infer_instance

instance (s : String) : Alike w (member.onText? h s args) (member.onText? h' s args') := by
  have text (i : Nat) : hostText h args i = hostText h' args' i := Alike.eq (w := w) inferInstance
  unfold BuiltinMember.onText?
  simp only [text, ha.hostInt_eq]
  cases member with
  | substringFrom | substring =>
    exact ⟨.some ((inferInstance : Alike w (characterRange s _ _) (characterRange s _ _)).mapExcept
      fun _ _ _ => inferInstance).rel⟩
  | indexOf | charAt =>
    dsimp only
    split <;> infer_instance
  | equals =>
    dsimp only
    obtain ⟨left, right⟩ | ⟨v, v', left, right, same⟩ :=
        (inferInstance : Alike w args.head? args'.head?).option <;>
      rw [left, right]
    · infer_instance
    · cases same.rel with
      | @object o o' =>
        have object : Alike w (h.object o) (h'.object o') := inferInstance
        dsimp only
        generalize h.object o = x, h'.object o' = y at object
        cases object.rel <;> infer_instance
      | _ => infer_instance
  | _ => infer_instance

end Members

end CellScript.Mirror
