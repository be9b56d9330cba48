import CellScript.Heap.Container
import CellScript.Proofs.Mirror.Data

/-!
# Heaps in other places

Heaps that are alike hold alike data in places that are linked. What the second one holds besides is
as it was.

## Main definitions

* `Heaps` — heaps that are alike.

## Main statements

* Instances of `Alike` for what is read of heaps, and of `Sim` for operations on them.
-/

namespace CellScript.Mirror

variable {e : Surroundings} {w : Links} {α β : Type}

/-- Heaps that are alike, the first of which has sound sequences. -/
class Heaps (e : outParam Surroundings) (w : Links) (h h' : Heap) : Prop where
  cells : Pool e w .cell e.machine.heap.cells h.cells h'.cells
  sequences : Rows e w h.sequences h'.sequences
  sound : h.sequences.Sound
  tables : Pool e w .table e.machine.heap.tables h.tables h'.tables
  objects : Pool e w .object e.machine.heap.objects h.objects h'.objects
  functions : Pool e w .function e.machine.heap.functions h.functions h'.functions
  vars : Pool e w .vars e.machine.heap.vars h.vars h'.vars

instance : Setting Heap := ⟨fun e w h h' => Heaps e w h h'⟩

/-- Two heaps that are alike. -/
structure TwoHeaps (e : Surroundings) (w : Links) where
  left : Heap
  right : Heap
  heaps : Heaps e w left right

instance (p : TwoHeaps e w) : Heaps e w p.left p.right := p.heaps

theorem Rows.later {w' : Links} {q q' : Sequences} (rows : Rows e w q q') (le : w ≤ w')
    (stores : ∀ {i j}, w'.Has .store i j → w.Has .store i j)
    (views : ∀ {i j}, w'.Has .view i j → w.Has .view i j) :
    Rows e w' q q' :=
  ⟨rows.stores.later le stores, rows.views.later le views, fun h => rows.older (views h)⟩

/-! ## What is read -/

section Reading

variable (h h' : Heap) [heaps : Heaps e w h h']

instance (c c' : CellRef) [hc : Alike w c c'] : Alike w (h.get c) (h'.get c') :=
  heaps.cells.getD hc.rel _ _

instance (t t' : TableRef) [ht : Alike w t t'] : Alike w (h.table t) (h'.table t') :=
  heaps.tables.getD ht.rel _ _

instance (o o' : ObjectRef) [ho : Alike w o o'] : Alike w (h.object o) (h'.object o') :=
  heaps.objects.getD ho.rel _ _

section Sequences

variable (s s' : SequenceRef) [hs : Alike w s s'] (index : Int)

instance : Alike w (h.sequences.snapshot s) (h'.sequences.snapshot s') :=
  heaps.sequences.snapshot heaps.sound hs

instance : Alike w (h.sequences.length s) (h'.sequences.length s') := heaps.sequences.length hs

instance : Alike w (h.sequences.find? s index) (h'.sequences.find? s' index) :=
  heaps.sequences.find? heaps.sound hs index

instance : Alike w (h.sequences.missing s index) (h'.sequences.missing s' index) :=
  heaps.sequences.missing hs index

instance : Alike w (h.elements s) (h'.elements s') := by
  have shown : Alike w (h.sequences.snapshot s) (h'.sequences.snapshot s') := inferInstance
  unfold Heap.elements
  obtain ⟨_, _, left, right, -⟩ | ⟨_, _, left, right, same⟩ := shown.except <;> rw [left, right]
  · exact ⟨.nil⟩
  · exact same

end Sequences

section Cells

variable (c c' : CellRef) [hc : Alike w c c']

instance : Alike w (h.content c) (h'.content c') :=
  inferInstanceAs (Alike w (h.get c).content (h'.get c').content)

instance : Alike w (h.isNull c) (h'.isNull c') :=
  inferInstanceAs (Alike w (h.get c).isNull (h'.get c').isNull)

instance : Alike w (h.isTainted c) (h'.isTainted c') :=
  inferInstanceAs (Alike w (h.get c).tainted (h'.get c').tainted)

instance : Alike w (h.typeName c) (h'.typeName c') :=
  inferInstanceAs (Alike w (h.content c).typeName (h'.content c').typeName)

instance : Alike w (h.isTruthy c) (h'.isTruthy c') :=
  inferInstanceAs (Alike w (h.content c).isTruthy (h'.content c').isTruthy)

end Cells

instance (cells cells' : List CellRef) [hc : Alike w cells cells'] :
    Alike w (h.anyTainted cells) (h'.anyTainted cells') :=
  ⟨hc.any_eq fun _ _ _ => Alike.eq (w := w) inferInstance⟩

section Functions

variable (f f' : FunctionRef) [hf : Alike w f f']

instance : Alike w (h.callable f) (h'.callable f') := heaps.functions.getD hf.rel _ _

instance : Alike w (h.closure? f) (h'.closure? f') := by
  have same : Alike w (h.callable f) (h'.callable f') := inferInstance
  unfold Heap.closure?
  generalize h.callable f = x, h'.callable f' = y at same
  obtain ⟨same | _ | _⟩ := same <;> infer_instance

end Functions

section Variables

variable (vars vars' : VarsRef) [hv : Alike w vars vars'] (name : String)

instance : Alike w (h.findVariable? vars name) (h'.findVariable? vars' name) := by
  have := heaps.vars.getD hv.rel default default
  unfold Heap.findVariable?
  infer_instance

instance : Alike w (h.hasVariable vars name) (h'.hasVariable vars' name) :=
  ⟨(inferInstance : Alike w (h.findVariable? vars name) (h'.findVariable? vars' name)).isSome_eq⟩

variable (s s' : ScopeChain) [hs : Alike w s s']

instance : Alike w (s.find? h name) (s'.find? h' name) :=
  (inferInstance : Alike w s.containers s'.containers).find? fun _ _ _ =>
    Alike.eq (w := w) inferInstance

instance : Alike w (s.lookup? h name) (s'.lookup? h' name) :=
  (inferInstance : Alike w s.containers s'.containers).findSome? fun _ _ _ => inferInstance

end Variables

section Tables

variable (t t' : TableRef) [ht : Alike w t t']

instance : Alike w (h.entries t) (h'.entries t') :=
  (inferInstance : Alike w (h.table t).listing (h'.table t').listing).filter fun a b same => by
    have null : h.isNull a.2 = h'.isNull b.2 := Alike.eq (w := w) inferInstance
    dsimp only
    rw [null]

instance : Alike w (h.count t) (h'.count t') :=
  ⟨((inferInstance : Alike w (h.table t).entries.values (h'.table t').entries.values).filter
    fun a b _ => by
    have null : h.isNull a.cell = h'.isNull b.cell := Alike.eq (w := w) inferInstance
    rw [null]).length_eq⟩

instance (key : String) : Alike w (h.containsKey t key) (h'.containsKey t' key) := by
  have found : Alike w ((h.table t).peek key) ((h'.table t').peek key) := inferInstance
  unfold Heap.containsKey
  obtain ⟨left, right⟩ | ⟨cell, cell', left, right, same⟩ := found.option
  · rw [left, right]
    exact ⟨rfl⟩
  · have null : h.isNull cell = h'.isNull cell' := Alike.eq (w := w) inferInstance
    rw [left, right, Option.any_some, Option.any_some, null]
    infer_instance

end Tables

end Reading

/-! ## What is changed -/

section Changing

variable (h h' : Heap) [heaps : Heaps e w h h']

instance (c c' : CellRef) (v v' : Value) [hc : Alike w c c'] [Alike w v v'] :
    Heaps e w (h.set c v) (h'.set c' v') :=
  { heaps with cells := heaps.cells.set hc.rel }

instance (t t' : TableRef) (f g : Table → Table) [ht : Alike w t t']
    [same : ∀ p : Both w Table, Alike w (f p.left) (g p.right)] :
    Heaps e w (h.modifyTable t f) (h'.modifyTable t' g) :=
  { heaps with tables := heaps.tables.modify ht.rel fun a b alike => same ⟨a, b, alike.rel⟩ }

instance (o o' : ObjectRef) (x x' : HostObject) [ho : Alike w o o'] [Alike w x x'] :
    Heaps e w (h.setObject o x) (h'.setObject o' x') :=
  { heaps with objects := heaps.objects.set ho.rel }

instance (f f' : FunctionRef) (s s' : Option Suspension) [hf : Alike w f f'] [Alike w s s'] :
    Heaps e w (h.setSuspension f s) (h'.setSuspension f' s') := by
  have linked : w.Has .function f.index f'.index := hf.rel
  let kept (s : Option Suspension) : Callable → Callable
    | .closure c => .closure { c with suspension := s }
    | other => other
  have modified := heaps.functions.modify (f := kept s) (g := kept s') linked fun _ _ ⟨same⟩ => by
    cases same with
    | closure _ => exact inferInstanceAs (Alike w (Callable.closure _) (Callable.closure _))
    | named name same => exact ⟨.named name same⟩
    | host name same => exact ⟨.host name same⟩
  exact { heaps with functions := modified }

section Variables

variable (vars vars' : VarsRef) [hv : Alike w vars vars'] (name : String) (cell cell' : CellRef)
  [hc : Alike w cell cell']

instance : Heaps e w (h.putVariable vars name cell) (h'.putVariable vars' name cell') := by
  have linked : w.Has .vars vars.index vars'.index := hv.rel
  have put := heaps.vars.modify (f := (·.insert name cell)) (g := (·.insert name cell')) linked
    fun _ _ _ => inferInstance
  exact { heaps with vars := put }

variable (s s' : ScopeChain) [hs : Alike w s s']

instance : Heaps e w (s.bind h name cell) (s'.bind h' name cell') :=
  inferInstanceAs (Heaps e w (h.putVariable ((s.find? h name).getD s.global) name cell)
    (h'.putVariable ((s'.find? h' name).getD s'.global) name cell'))

instance : Heaps e w (s.declareLocal h name cell) (s'.declareLocal h' name cell') :=
  inferInstanceAs (Heaps e w (h.putVariable s.current.top name cell)
    (h'.putVariable s'.current.top name cell'))

instance : Heaps e w (s.declareThis h name cell).2 (s'.declareThis h' name cell').2 := by
  have this : Alike w s.current.this s'.current.this := inferInstance
  unfold ScopeChain.declareThis
  obtain ⟨left, right⟩ | ⟨v, v', left, right, same⟩ := this.option
  · rw [left, right]
    exact heaps
  · have known : h.hasVariable v name = h'.hasVariable v' name := Alike.eq (w := w) inferInstance
    rw [left, right]
    dsimp only
    rw [known]
    split <;> infer_instance

end Variables

instance (c c' : CellRef) [Alike w c c'] : Heaps e w (h.taint c) (h'.taint c') :=
  inferInstanceAs (Heaps e w (h.set c (h.get c).taint) (h'.set c' (h'.get c').taint))

instance (c c' : CellRef) [Alike w c c'] : Heaps e w (h.untaint c) (h'.untaint c') :=
  inferInstanceAs (Heaps e w (h.set c (h.get c).untaint) (h'.set c' (h'.get c').untaint))

end Changing

/-! ## What is made -/

namespace Heaps

variable {h h' : Heap} (heaps : Heaps e w h h')

theorem pushCell (v v' : Value) [Alike w v v'] :
    Heaps e heaps.cells.grow.now { h with cells := h.cells.push v }
      { h' with cells := h'.cells.push v' } where
  cells := heaps.cells.push inferInstance
  sequences := heaps.sequences.later heaps.cells.grow.le (fun h => heaps.cells.has_other h nofun)
    fun h => heaps.cells.has_other h nofun
  sound := heaps.sound
  tables := heaps.tables.beside heaps.cells nofun
  objects := heaps.objects.beside heaps.cells nofun
  functions := heaps.functions.beside heaps.cells nofun
  vars := heaps.vars.beside heaps.cells nofun

theorem pushTable (t t' : Table) [Alike w t t'] :
    Heaps e heaps.tables.grow.now { h with tables := h.tables.push t }
      { h' with tables := h'.tables.push t' } where
  cells := heaps.cells.beside heaps.tables nofun
  sequences := heaps.sequences.later heaps.tables.grow.le (fun h => heaps.tables.has_other h nofun)
    fun h => heaps.tables.has_other h nofun
  sound := heaps.sound
  tables := heaps.tables.push inferInstance
  objects := heaps.objects.beside heaps.tables nofun
  functions := heaps.functions.beside heaps.tables nofun
  vars := heaps.vars.beside heaps.tables nofun

theorem pushObject (o o' : HostObject) [Alike w o o'] :
    Heaps e heaps.objects.grow.now { h with objects := h.objects.push o }
      { h' with objects := h'.objects.push o' } where
  cells := heaps.cells.beside heaps.objects nofun
  sequences :=
    heaps.sequences.later heaps.objects.grow.le (fun h => heaps.objects.has_other h nofun)
      fun h => heaps.objects.has_other h nofun
  sound := heaps.sound
  tables := heaps.tables.beside heaps.objects nofun
  objects := heaps.objects.push inferInstance
  functions := heaps.functions.beside heaps.objects nofun
  vars := heaps.vars.beside heaps.objects nofun

theorem pushFunction (f f' : Callable) [Alike w f f'] :
    Heaps e heaps.functions.grow.now { h with functions := h.functions.push f }
      { h' with functions := h'.functions.push f' } where
  cells := heaps.cells.beside heaps.functions nofun
  sequences :=
    heaps.sequences.later heaps.functions.grow.le (fun h => heaps.functions.has_other h nofun)
      fun h => heaps.functions.has_other h nofun
  sound := heaps.sound
  tables := heaps.tables.beside heaps.functions nofun
  objects := heaps.objects.beside heaps.functions nofun
  functions := heaps.functions.push inferInstance
  vars := heaps.vars.beside heaps.functions nofun

theorem pushVars (vars vars' : Dictionary CellRef) [Alike w vars vars'] :
    Heaps e heaps.vars.grow.now { h with vars := h.vars.push vars }
      { h' with vars := h'.vars.push vars' } where
  cells := heaps.cells.beside heaps.vars nofun
  sequences := heaps.sequences.later heaps.vars.grow.le (fun h => heaps.vars.has_other h nofun)
    fun h => heaps.vars.has_other h nofun
  sound := heaps.sound
  tables := heaps.tables.beside heaps.vars nofun
  objects := heaps.objects.beside heaps.vars nofun
  functions := heaps.functions.beside heaps.vars nofun
  vars := heaps.vars.push inferInstance

end Heaps

/-! ## Operations -/

section Operations

variable [Paired α]

instance (f g : Heap → α) [same : ∀ p : TwoHeaps e w, Alike w (f p.left) (g p.right)] :
    Sim e w (HeapM.ask f) (HeapM.ask g) :=
  ⟨fun h h' heaps => ⟨w.here, heaps, ⟨.ok (same ⟨h, h', heaps⟩).rel⟩⟩⟩

instance (f g : Heap → Except Fault α) [same : ∀ p : TwoHeaps e w, Alike w (f p.left) (g p.right)] :
    Sim e w (HeapM.consult f) (HeapM.consult g) :=
  ⟨fun h h' heaps => ⟨w.here, heaps, same ⟨h, h', heaps⟩⟩⟩

instance (f g : Heap → Heap) [same : ∀ p : TwoHeaps e w, Heaps e w (f p.left) (g p.right)] :
    Sim e w (HeapM.change f) (HeapM.change g) :=
  ⟨fun h h' heaps => ⟨w.here, same ⟨h, h', heaps⟩, ⟨.ok rfl⟩⟩⟩

/-- Going on from the heap. -/
theorem sim_withHeap {f g : Heap → HeapM α}
    (h : ∀ p : TwoHeaps e w, Sim e w (f p.left) (g p.right)) :
    Sim e w (HeapM.ask id >>= f) (HeapM.ask id >>= g) :=
  ⟨fun l r heaps => (h ⟨l, r, heaps⟩).follows l r heaps⟩

instance (x y : Sequences.Edit α) [edits : Edits e w x y] :
    Sim e w (HeapM.onSequences x) (HeapM.onSequences y) :=
  ⟨fun h h' heaps => by
    obtain ⟨v, rows, same, others⟩ := edits.comes _ _ heaps.sequences heaps.sound
    exact ⟨v,
      { cells := heaps.cells.later v.le (others nofun nofun)
        sequences := rows
        sound := edits.sound _ _ heaps.sequences heaps.sound
        tables := heaps.tables.later v.le (others nofun nofun)
        objects := heaps.objects.later v.le (others nofun nofun)
        functions := heaps.functions.later v.le (others nofun nofun)
        vars := heaps.vars.later v.le (others nofun nofun) }, same⟩⟩

/-! ### Cells -/

section Cells

instance (v v' : Value) [Alike w v v'] : Sim e w (HeapM.alloc v) (HeapM.alloc v') :=
  ⟨fun _ _ heaps => ⟨heaps.cells.grow, heaps.pushCell v v', ⟨.ok heaps.cells.has_grow⟩⟩⟩

instance (c c' : Content) [Alike w c c'] : Sim e w (HeapM.cell c) (HeapM.cell c') :=
  inferInstanceAs (Sim e w (HeapM.alloc (.clean c)) (HeapM.alloc (.clean c')))

instance : Sim e w HeapM.null HeapM.null :=
  inferInstanceAs (Sim e w (HeapM.cell .null) (HeapM.cell .null))

instance (s s' : String) [Alike w s s'] : Sim e w (HeapM.text s) (HeapM.text s') :=
  inferInstanceAs (Sim e w (HeapM.cell (.text s)) (HeapM.cell (.text s')))

instance (n n' : Int64) [Alike w n n'] : Sim e w (HeapM.int n) (HeapM.int n') :=
  inferInstanceAs (Sim e w (HeapM.cell (.int n)) (HeapM.cell (.int n')))

variable (c c' d d' : CellRef) [hc : Alike w c c'] [hd : Alike w d d']

instance : Sim e w (HeapM.get c) (HeapM.get c') :=
  inferInstanceAs (Sim e w (HeapM.ask _) (HeapM.ask _))

instance : Sim e w (HeapM.content c) (HeapM.content c') :=
  inferInstanceAs (Sim e w (HeapM.ask _) (HeapM.ask _))

instance (v v' : Value) [Alike w v v'] : Sim e w (HeapM.set c v) (HeapM.set c' v') :=
  inferInstanceAs (Sim e w (HeapM.change _) (HeapM.change _))

instance : Sim e w (HeapM.copy c) (HeapM.copy c') := inferInstanceAs (Sim e w (_ >>= _) (_ >>= _))

instance : Sim e w (HeapM.assign c d) (HeapM.assign c' d') := by
  have same : (c' != d') = (c != d) := congrArg not (hc.beq_eq hd)
  unfold HeapM.assign
  rw [same]
  infer_instance

end Cells

/-! ### Containers, objects and functions -/

instance (mode : MapOrder) : Sim e w (HeapM.newTable mode) (HeapM.newTable mode) :=
  ⟨fun _ _ heaps => ⟨heaps.tables.grow, heaps.pushTable (.empty mode) (.empty mode),
    ⟨.ok heaps.tables.has_grow⟩⟩⟩

instance (o o' : HostObject) [Alike w o o'] : Sim e w (HeapM.newObject o) (HeapM.newObject o') :=
  ⟨fun _ _ heaps => ⟨heaps.objects.grow, heaps.pushObject o o', ⟨.ok heaps.objects.has_grow⟩⟩⟩

instance (o o' : HostObject) [Alike w o o'] : Sim e w (HeapM.object o) (HeapM.object o') :=
  inferInstanceAs (Sim e w (_ >>= _) (_ >>= _))

instance (f f' : Callable) [Alike w f f'] : Sim e w (HeapM.newFunction f) (HeapM.newFunction f') :=
  ⟨fun _ _ heaps => ⟨heaps.functions.grow, heaps.pushFunction f f', ⟨.ok heaps.functions.has_grow⟩⟩⟩

instance : Sim e w HeapM.newVars HeapM.newVars :=
  ⟨fun _ _ heaps => ⟨heaps.vars.grow, heaps.pushVars .empty .empty, ⟨.ok heaps.vars.has_grow⟩⟩⟩

instance (cells cells' : List CellRef) [Alike w cells cells'] :
    Sim e w (HeapM.newSequence cells) (HeapM.newSequence cells') :=
  inferInstanceAs (Sim e w (HeapM.onSequences _) (HeapM.onSequences _))

instance (cells cells' : List CellRef) [Alike w cells cells'] :
    Sim e w (HeapM.sequence cells) (HeapM.sequence cells') :=
  inferInstanceAs (Sim e w (_ >>= _) (_ >>= _))

instance (s s' : SequenceRef) (index : Int) [Alike w s s'] :
    Sim e w (HeapM.element s index) (HeapM.element s' index) := by
  refine .next fun v missing => ?_
  cases missing with
  | zero =>
    refine .andThen fun v' ⟨found, found', same⟩ => ?_
    obtain ⟨rfl, rfl⟩ | ⟨cell, cell', rfl, rfl, _⟩ :=
        (Alike.mk same).option <;> exact inferInstanceAs (Sim e _ _ _)
  | succ n =>
    rw [if_neg (Nat.succ_ne_zero n), if_neg (Nat.succ_ne_zero n), List.replicate_succ,
      List.mapM_cons]
    simp only [bind_assoc, pure_bind, List.getLastD_cons]
    infer_instance

instance (s s' : SequenceRef) (value value' : Value) [Alike w s s'] [Alike w value value'] :
    Sim e w (HeapM.removeEqual s value) (HeapM.removeEqual s' value') :=
  sim_withHeap fun p =>
    have same (c c' : CellRef) (_ : Alike w c c') :
        (p.left.get c).same value = (p.right.get c').same value' :=
      Alike.eq (w := w) inferInstance
    have := edits_removeWhere (e := e) s s' same
    inferInstance

instance (t t' : TableRef) (key : String) [Alike w t t'] :
    Sim e w (HeapM.lookup t key) (HeapM.lookup t' key) := by
  refine .andThen fun v ⟨found, found', same⟩ => ?_
  obtain ⟨rfl, rfl⟩ | ⟨cell, cell', rfl, rfl, _⟩ := (Alike.mk same).option
  · exact inferInstanceAs (Sim e v.now (pure none) (pure none))
  · infer_instance

end Operations

end CellScript.Mirror
