import CellScript.Proofs.Eval.Target
import CellScript.Proofs.Heap.Walk
import CellScript.Proofs.Mirror.Eval

/-!
# Assignment to several targets

An assignment to several targets stores the elements of a container one after the other. It has the
cells of the elements, not what they held when it began, and the block of a target is evaluated when
its turn comes. So a target gets what the cell of its element holds then: what it held in the
beginning, unless a store before or the evaluation of a target has written it. It keeps that unless
it is written later. Variables as targets do not write cells when they are evaluated, so that it is
the stores alone that matter. Where all is there that can be reached, a target stands for a cell
that is there.

## Main definitions

* `Heap.elements?` — what a container hands out.
* `Landing` — one store.
* `Eval.Fans` — stores one after the other.

## Main statements

* `Eval.storeAll_eq_ok_iff` — an assignment is such a run of stores.
* `Eval.Fans.get_of_misses` — a cell that is not written holds what it held.
* `Eval.Fans.get_variable` — what variables hold in the end.
* `Eval.targetCell_inside` — the cell of a target is there.
* `Eval.assignMulti_in_order` — what the targets hold in the end.
-/

namespace CellScript

open Mirror (Alike Heaps Links Machines Sim Surroundings Whole)

variable {h : Heap} {m m' : Machine} {cell source : CellRef} {elements : List CellRef}

namespace Heap

/-- The cells that a container hands out, in order; a sequence has to be there as it was. -/
def elements? (h : Heap) (source : CellRef) : Option (List CellRef) :=
  match h.content source with
  | .sequence s => (h.sequences.snapshot s).toOption
  | .table t => some ((h.entries t).map (·.2))
  | _ => none

/-- The next element and the heap with it; where there is none it is a new empty cell. -/
def supply (h : Heap) : List CellRef → CellRef × Heap
  | [] => h.alloc .null
  | element :: _ => (element, h)

/-- A cell gets what another one holds. -/
def assigned (h : Heap) (target source : CellRef) : Heap :=
  if target = source then h else h.set target (h.get source)

/-- A new empty cell does not show in what cells hold. -/
theorem get_alloc_null (h : Heap) (cell : CellRef) : (h.alloc .null).2.get cell = h.get cell := by
  obtain ⟨i⟩ := cell
  simp only [alloc, get, Array.getD_eq_getD_getElem?, Array.getElem?_push]
  split
  case isTrue last => simp [last]
  case isFalse => rfl

theorem get_supply (h : Heap) (elements : List CellRef) (cell : CellRef) :
    (h.supply elements).2.get cell = h.get cell := by
  cases elements with
  | nil => exact get_alloc_null h cell
  | cons => rfl

theorem get_assigned_of_ne (h : Heap) (source : CellRef) {target : CellRef}
    (apart : target ≠ cell) :
    (h.assigned target source).get cell = h.get cell := by
  unfold assigned
  split
  · rfl
  · rw [get_set, if_neg fun same => apart same.1.symm]

theorem get_assigned_self (h : Heap) (source : CellRef) {target : CellRef}
    (inside : target.index < h.cells.size) :
    (h.assigned target source).get target = h.get source := by
  unfold assigned
  split
  case isTrue same => rw [same]
  case isFalse => rw [get_set, if_pos ⟨rfl, inside⟩]

theorem size_assigned (h : Heap) (target source : CellRef) :
    (h.assigned target source).cells.size = h.cells.size := by
  unfold assigned
  split
  · rfl
  · exact size_set _ _ _

theorem grows_supply (h : Heap) (elements : List CellRef) : h.Grows (h.supply elements).2 := by
  cases elements with
  | nil => exact .alloc h .null
  | cons => exact .refl h

end Heap

instance {e : Surroundings} {w : Links} (h h' : Heap) (c c' : CellRef) [Heaps e w h h']
    [Alike w c c'] :
    Alike w (h.elements? c) (h'.elements? c') := by
  have content : Alike w (h.content c) (h'.content c') := inferInstance
  unfold Heap.elements?
  generalize h.content c = x, h'.content c' = x' at content
  cases content.rel with
  | @sequence s s' =>
    dsimp only
    obtain ⟨_, _, left, right, -⟩ | ⟨cells, cells', left, right, same⟩ :=
      (inferInstance : Alike w (h.sequences.snapshot s) (h'.sequences.snapshot s')).except <;>
        rw [left, right]
    · exact ⟨.none⟩
    · exact ⟨.some same.rel⟩
  | table =>
    dsimp only
    infer_instance
  | _ => exact ⟨.none⟩

theorem HeapM.assign_run (target source : CellRef) (m : Machine) :
    (HeapM.assign target source : Run Unit) m =
    (.ok (), { m with heap := m.heap.assigned target source }) := by
  rw [Run.liftM_heap, Run.onHeap_run, HeapM.assign, Heap.assigned]
  by_cases same : target = source
  · simp only [same, bne_self_eq_false]
    rfl
  · rw [if_neg same, if_pos (bne_iff_ne.mpr same)]
    rfl

/-- One store: the cell of a target, the cell whose value it gets, and the heap before and after the
evaluation of the target. The value is stored after that. -/
structure Landing where
  target : CellRef
  element : CellRef
  before : Heap
  after : Heap

namespace Landing

/-- The evaluation of the target leaves a cell as it is. -/
def Spares (l : Landing) (cell : CellRef) : Prop :=
  l.after.get cell = l.before.get cell

/-- Neither the evaluation of the target nor the store changes a cell. -/
def Misses (l : Landing) (cell : CellRef) : Prop :=
  l.Spares cell ∧ l.target ≠ cell

end Landing

namespace Eval

variable {self : Reentry} {targets : List Block} {m₀ : Machine}
  {landings earlier later : List Landing} {l : Landing}

/-- The stores of an assignment, one after the other: the elements are taken in order, and then new
empty cells. -/
inductive Fans (self : Reentry) :
    List Block → List CellRef → Machine → List Landing → Machine → Prop
  | done (elements : List CellRef) (m : Machine) : Fans self [] elements m [] m
  | store {target : Block} {targets : List Block} {elements : List CellRef} {m m₁ m' : Machine}
    {cell : CellRef} {landings : List Landing}
    (evaluated : targetCell self target { m with heap := (m.heap.supply elements).2 } =
      (.ok cell, m₁))
    (rest : Fans self targets elements.tail
      { m₁ with heap := m₁.heap.assigned cell (m.heap.supply elements).1 } landings m') :
    Fans self (target :: targets) elements m
      (⟨cell, (m.heap.supply elements).1, (m.heap.supply elements).2, m₁.heap⟩ :: landings) m'

/-- Elements are taken, or made, without fail. -/
theorem supply_run (elements : List CellRef) (m : Machine) :
    (elements.map pure).headD (HeapM.null : Run CellRef) m =
      (.ok (m.heap.supply elements).1, { m with heap := (m.heap.supply elements).2 }) := by
  cases elements <;> rfl

theorem storeAll_eq_ok_iff : storeAll self none targets (elements.map pure) m = (.ok (), m') ↔
    ∃ landings, Fans self targets elements m landings m' := by
  induction targets generalizing elements m with
  | nil =>
    constructor
    · intro run
      cases run
      exact ⟨[], .done elements _⟩
    · rintro ⟨_, fans⟩
      cases fans
      rfl
  | cons target targets ih =>
    rw [storeAll, Run.bind_run, supply_run]
    dsimp only
    rw [Run.bind_run]
    rcases run : targetCell self target { m with heap := (m.heap.supply elements).2 } with
      ⟨stop | cell, m₁⟩
    · constructor
      · rintro ⟨⟩
      · rintro ⟨_, fans⟩
        cases fans with
        | store evaluated => cases run.symm.trans evaluated
    · dsimp only
      rw [store, Run.bind_run, HeapM.assign_run]
      dsimp only
      rw [← List.map_tail, ih]
      constructor
      · rintro ⟨landings, rest⟩
        exact ⟨_, .store run rest⟩
      · rintro ⟨_, fans⟩
        cases fans with
        | store evaluated rest =>
          cases run.symm.trans evaluated
          exact ⟨_, rest⟩

namespace Fans

/-- There is a store for each target. -/
theorem length_eq (fans : Fans self targets elements m landings m') :
    landings.length = targets.length := by
  induction fans with
  | done => rfl
  | store _ _ ih => rw [List.length_cons, List.length_cons, ih]

/-- A cell that is not written holds what it held. -/
theorem get_of_misses (fans : Fans self targets elements m landings m')
    (misses : ∀ l ∈ landings, l.Misses cell) :
    m'.heap.get cell = m.heap.get cell := by
  induction fans with
  | done => rfl
  | @store _ _ elements m m₁ _ target _ _ _ ih =>
    obtain ⟨spares, apart⟩ := misses _ List.mem_cons_self
    rw [ih fun l later => misses l (List.mem_cons_of_mem _ later),
      Heap.get_assigned_of_ne _ _ apart, spares, Heap.get_supply]

/-- The stores before and after one of them, and its target. -/
theorem split (fans : Fans self targets elements m (earlier ++ l :: later) m') :
    ∃ front target back m₀ m₁ m₂, targets = front ++ target :: back ∧
      Fans self front elements m earlier m₀ ∧
      l.element = (m₀.heap.supply (elements.drop earlier.length)).1 ∧
      l.before = (m₀.heap.supply (elements.drop earlier.length)).2 ∧
      targetCell self target { m₀ with heap := l.before } = (.ok l.target, m₁) ∧ m₁.heap = l.after ∧
      m₂.heap = l.after.assigned l.target l.element ∧
      Fans self back (elements.drop earlier.length).tail m₂ later m' := by
  induction earlier generalizing targets elements m with
  | nil =>
    cases fans with
    | store evaluated rest =>
      exact ⟨[], _, _, m, _, _, rfl, .done elements m, rfl, rfl, evaluated, rfl, rfl, rest⟩
  | cons first earlier ih =>
    cases fans with
    | store evaluated rest =>
      obtain ⟨front, target, back, m₀, m₁, m₂, rfl, before, element, heap, found, left_,
        stored, after⟩ := ih rest
      rw [List.drop_tail] at element heap after
      exact ⟨_ :: front, target, back, m₀, m₁, m₂, rfl, .store evaluated before, element,
        heap, found, left_, stored, after⟩

/-- The cell of an element that was not written before its store holds what it held in the
beginning. -/
theorem get_element {e : CellRef} (fans : Fans self targets elements m (earlier ++ l :: later) m')
    (taken : elements[earlier.length]? = some e) :
    l.element = e ∧ ((∀ o ∈ earlier, o.Misses e) → l.Spares e → l.after.get e = m.heap.get e) := by
  obtain ⟨_, _, _, m₀, _, _, -, fansBefore, element, heap, -⟩ := fans.split
  rw [← List.head?_drop, List.head?_eq_some_iff] at taken
  obtain ⟨rest, dropped⟩ := taken
  rw [dropped] at element heap
  refine ⟨element, fun misses spares => ?_⟩
  calc l.after.get e = l.before.get e := spares
    _ = m₀.heap.get e := by rw [heap]; rfl
    _ = m.heap.get e := fansBefore.get_of_misses misses

/-- A cell that is made because there is no element is empty. -/
theorem get_made (fans : Fans self targets elements m (earlier ++ l :: later) m')
    (past : elements.length ≤ earlier.length) (spares : l.Spares l.element) :
    l.after.get l.element = .null := by
  obtain ⟨_, _, _, m₀, _, _, -, -, element, heap, -⟩ := fans.split
  rw [List.drop_eq_nil_of_le past] at element heap
  calc l.after.get l.element = l.before.get l.element := spares
    _ = m₀.heap.get l.element := by rw [heap]; exact Heap.get_alloc_null _ _
    _ = .null := by rw [element]; simp [Heap.supply, Heap.alloc, Heap.get]

/-- To evaluate a variable may add cells, and does nothing else to them. -/
theorem grows_of_var {n : Nat} {line : UInt32} {name : String}
    (fans : Fans (reentry n) targets elements m (earlier ++ l :: later) m')
    (named : targets[earlier.length]? = some (.mk none (Expr.lower line (.var name)))) :
    l.before.Grows l.after := by
  obtain ⟨front, target, _, m₀, _, _, rfl, before, -, -, evaluated, left_, -⟩ := fans.split
  rw [before.length_eq, List.getElem?_append_right (Nat.le_refl _), Nat.sub_self,
    List.getElem?_cons_zero] at named
  cases named
  have grows := (adds_targetCell_var n line name).grows { m₀ with heap := l.before }
  rwa [evaluated, left_] at grows

/-- A target that is not written later keeps what the cell of its element held when its turn
came. -/
theorem get_target (fans : Fans self targets elements m (earlier ++ l :: later) m')
    (inside : l.target.index < l.after.cells.size) (misses : ∀ o ∈ later, o.Misses l.target) :
    m'.heap.get l.target = l.after.get l.element := by
  obtain ⟨_, _, _, _, _, m₂, -, -, -, -, -, -, stored, fansAfter⟩ := fans.split
  rw [fansAfter.get_of_misses misses, stored, Heap.get_assigned_self _ _ inside]

/-- When all targets are variables, cells that were there in the beginning are there at each
store. -/
theorem inside_of_vars {n : Nat} (fans : Fans (reentry n) targets elements m landings m')
    (vars : ∀ target ∈ targets, ∃ line name, target = .mk none (Expr.lower line (.var name))) :
    ∀ l ∈ landings, m.heap.cells.size ≤ l.before.cells.size ∧ l.before.Grows l.after := by
  induction fans with
  | done => exact nofun
  | @store target targets elements m m₁ m' cell landings evaluated rest ih =>
    obtain ⟨line, name, rfl⟩ := vars target List.mem_cons_self
    have supplied := m.heap.grows_supply elements
    have grows :=
      (adds_targetCell_var n line name).grows { m with heap := (m.heap.supply elements).2 }
    rw [evaluated] at grows
    intro l among
    rcases List.mem_cons.mp among with rfl | late
    · exact ⟨supplied.size, grows⟩
    · obtain ⟨size, grows'⟩ :=
          ih (fun target later => vars target (List.mem_cons_of_mem _ later)) l late
      rw [Heap.size_assigned] at size
      exact ⟨(supplied.size.trans grows.size).trans size, grows'⟩

/-- When all targets are variables, a variable that is not written later holds what the cell of its
element held in the beginning, unless that cell is itself one of the variables before. -/
theorem get_variable {n : Nat} {e : CellRef}
    (fans : Fans (reentry n) targets elements m (earlier ++ l :: later) m')
    (vars : ∀ target ∈ targets, ∃ line name, target = .mk none (Expr.lower line (.var name)))
    (taken : elements[earlier.length]? = some e) (there : e.index < m.heap.cells.size)
    (unwritten : ∀ o ∈ earlier, o.target ≠ e) (found : l.target.index < l.after.cells.size)
    (last : ∀ o ∈ later, o.target ≠ l.target) : m'.heap.get l.target = m.heap.get e := by
  obtain ⟨element, held⟩ := fans.get_element taken
  obtain ⟨front, target, back, _, _, m₂, rfl, -, -, -, -, -, stored, fansAfter⟩ := fans.split
  have spares : ∀ o ∈ earlier ++ l :: later, o.Spares e := fun o among =>
    have ⟨size, grows⟩ := fans.inside_of_vars vars o among
    grows.get e (there.trans_le size)
  have spares' : ∀ o ∈ later, o.Spares l.target := fun o late =>
    have ⟨size, grows⟩ := fansAfter.inside_of_vars
      (fun target among => vars target (List.mem_append_right _ (List.mem_cons_of_mem _ among)))
      o late
    grows.get l.target (found.trans_le (by rwa [stored, Heap.size_assigned] at size))
  calc m'.heap.get l.target
    _ = l.after.get l.element :=
      fans.get_target found fun o late => ⟨spares' o late, last o late⟩
    _ = l.after.get e := by rw [element]
    _ = m.heap.get e := held
      (fun o early => ⟨spares o (List.mem_append_left _ early), unwritten o early⟩)
      (spares l (List.mem_append_right _ List.mem_cons_self))

end Fans

/-- The cell of a target is there, where all is there that can be reached. -/
theorem targetCell_inside {n : Nat} {target : Block} (whole : Whole m)
    (run : targetCell (reentry n) target m = (.ok cell, m')) : cell.index < m'.heap.cells.size := by
  obtain ⟨e, w, _, machines⟩ := whole
  have evaluation : Sim e w (targetCell (reentry n) target) (targetCell (reentry n) target) :=
    inferInstance
  obtain ⟨v, _, _, later, same⟩ := evaluation.ok machines run
  exact later.inside same

/-- So are the cells of all targets of an assignment. -/
theorem Fans.inside {n : Nat} (fans : Fans (reentry n) targets elements m landings m')
    {e : Surroundings} {w : Links} {m₂ : Machine} {elements' : List CellRef}
    (machines : Machines e w m₂ m) (same : Alike w elements' elements) :
    ∀ l ∈ landings, l.target.index < l.after.cells.size := by
  induction fans generalizing w m₂ elements' with
  | done => exact nofun
  | @store target targets elements m m₁ m' cell landings evaluated rest ih =>
    have taken : Sim e w ((elements'.map pure).headD (HeapM.null : Run CellRef))
        ((elements.map pure).headD (HeapM.null : Run CellRef)) := by
      obtain ⟨rfl, rfl⟩ | ⟨_, _, _, _, rfl, rfl, _, _⟩ := same.list <;>
        simp only [List.map_nil, List.map_cons, List.headD_nil, List.headD_cons] <;> infer_instance
    obtain ⟨v, element', _, supplied, element⟩ := taken.ok machines (supply_run elements m)
    have evaluation : Sim e v.now (targetCell (reentry n) target) (targetCell (reentry n) target) :=
      inferInstance
    obtain ⟨v', cell', _, reached, found⟩ := evaluation.ok supplied evaluated
    have element := element.mono v'.le
    have assigning : Sim e v'.now (HeapM.assign cell' element' : Run Unit)
        (HeapM.assign cell (m.heap.supply elements).1) := inferInstance
    obtain ⟨v'', _, _, stored, -⟩ :=
        assigning.ok reached (HeapM.assign_run cell (m.heap.supply elements).1 m₁)
    have rest : Alike w elements'.tail elements.tail := inferInstance
    exact List.forall_mem_cons.mpr
      ⟨reached.inside found, ih stored (rest.mono (v.after (v'.after v'')).le)⟩

/-- The elements of a container are there when it is. -/
theorem Fans.inside_of_whole {n : Nat}
    (fans : Fans (reentry n) targets elements { m₀ with context := m₀.context.killFrame.2 }
      landings m')
    (popped : Run.pop m = (.ok source, m₀)) (fanned : m₀.heap.elements? source = some elements)
    (whole : Whole m) :
    ∀ l ∈ landings, l.target.index < l.after.cells.size := by
  obtain ⟨e, w, _, machines⟩ := whole
  have popping : Sim e w Run.pop Run.pop := inferInstance
  obtain ⟨v, source', m₀', later, found⟩ := popping.ok machines popped
  have killing : Sim e v.now Run.killFrame Run.killFrame := inferInstance
  obtain ⟨v', _, _, begun, -⟩ := killing.ok later (Run.killFrame_run m₀)
  have taken : Alike v.now (m₀'.heap.elements? source') (m₀.heap.elements? source) := inferInstance
  rw [fanned] at taken
  obtain ⟨-, ⟨⟩⟩ | ⟨elements', _, -, ⟨⟩, same⟩ := taken.option
  exact fans.inside begun (same.mono v'.le)

/-- An assignment takes the elements of the container when it begins. -/
theorem assignMulti_run (popped : Run.pop m = (.ok source, m₀))
    (fanned : m₀.heap.elements? source = some elements) (op : Option String) :
    assignMulti self targets op m = (storeAll self op targets (elements.map pure) >>=
      fun _ => Run.push source)
      { m₀ with context := m₀.context.killFrame.2 } := by
  rw [assignMulti, Run.bind_run, popped]
  dsimp only
  rw [Run.bind_run, Run.killFrame_run]
  dsimp only
  rw [Run.bind_run (Run.askHeap _), Run.askHeap_run]
  rw [Heap.elements?] at fanned
  dsimp only
  cases content : m₀.heap.content source <;> simp only [content] at fanned
  case sequence s =>
    obtain taken : m₀.heap.sequences.snapshot s = .ok elements := by
      cases taken : m₀.heap.sequences.snapshot s with
      | error e => rw [taken] at fanned; cases fanned
      | ok cells => rw [taken] at fanned; cases fanned; rfl
    dsimp only
    rw [Run.bind_run, Library.snapshot, Run.liftM_heap, Run.onHeap_run, HeapM.consult]
    dsimp only
    rw [taken]
  case table t =>
    cases fanned
    rfl
  all_goals cases fanned

/-- An assignment ends when its stores do. -/
theorem Fans.assignMulti_eq
    (fans : Fans self targets elements { m₀ with context := m₀.context.killFrame.2 } landings m')
    (popped : Run.pop m = (.ok source, m₀)) (fanned : m₀.heap.elements? source = some elements) :
    assignMulti self targets none m = (.ok (), { m' with context := m'.context.push source }) := by
  rw [assignMulti_run popped fanned, Run.bind_run, storeAll_eq_ok_iff.mpr ⟨landings, fans⟩]
  rfl

/-- An assignment to several targets stores the elements of the container one after the other, each
after the block of its target has been evaluated. A target that is not written later keeps what the
cell of its element holds at its store. That is what the cell held in the beginning, unless a store
or an evaluation of a target before has written it; past the end of the container it is the empty
value. The evaluation of a variable does not write a cell. All targets are cells that are there, as
soon as all is there that can be reached when the assignment begins. -/
theorem assignMulti_in_order (n : Nat) (run : assignMulti (reentry n) targets none m = (.ok (), m'))
    (popped : Run.pop m = (.ok source, m₀)) (fanned : m₀.heap.elements? source = some elements) :
    ∃ landings m₁, Fans (reentry n) targets elements { m₀ with context := m₀.context.killFrame.2 }
      landings m₁ ∧
      landings.length = targets.length ∧ m' = { m₁ with context := m₁.context.push source } ∧
      (Whole m → ∀ l ∈ landings, l.target.index < l.after.cells.size) ∧
      ∀ earlier l later, landings = earlier ++ l :: later →
        (l.target.index < l.after.cells.size → (∀ o ∈ later, o.Misses l.target) →
          m'.heap.get l.target = l.after.get l.element) ∧
        (∀ e, elements[earlier.length]? = some e →
          l.element = e ∧
          ((∀ o ∈ earlier, o.Misses e) → l.Spares e → l.after.get e = m₀.heap.get e)) ∧
        (elements.length ≤ earlier.length → l.Spares l.element → l.after.get l.element = .null) ∧
        ∀ line name, targets[earlier.length]? = some (.mk none (Expr.lower line (.var name))) →
          l.before.Grows l.after := by
  rw [assignMulti_run popped fanned, Run.bind_run] at run
  rcases stored : storeAll (reentry n) none targets (elements.map pure)
    { m₀ with context := m₀.context.killFrame.2 } with ⟨stop | _, m₁⟩
  · rw [stored] at run
    cases run
  · rw [stored] at run
    cases run
    obtain ⟨landings, fans⟩ := storeAll_eq_ok_iff.mp stored
    refine ⟨landings, m₁, fans, fans.length_eq, rfl, fans.inside_of_whole popped fanned, ?_⟩
    rintro earlier l later rfl
    exact ⟨fans.get_target, fun e taken => fans.get_element taken, fans.get_made,
      fun _ _ => fans.grows_of_var⟩

/-! ## Lists of two elements -/

/-- A machine with a list in a global variable, which is the operand. It has a number and something
else. -/
def pairOperand (other : Content) : Machine :=
  { (default : Machine) with
    heap :=
      ((do HeapM.change (·.putVariable ⟨1⟩ "@x"
        (← HeapM.sequence [← HeapM.int 1, ← HeapM.cell other])) : HeapM Unit)
        { Heap.empty with vars := #[.empty, .empty] }).2
    context :=
      (Context.start ⟨0⟩ ⟨.ofBase ⟨0⟩ none, [], ⟨1⟩⟩ default false 10).createFrame.push ⟨2⟩ }

/-- The same machine when the operand has been popped. -/
def pairPopped (other : Content) : Machine :=
  { pairOperand other with context := (pairOperand other).context.pop.2 }

/-- The same machine when the stores begin. -/
def pairTaken (other : Content) : Machine :=
  { pairPopped other with context := (pairPopped other).context.killFrame.2 }

theorem pop_pairOperand (other : Content) :
    Run.pop (pairOperand other) = (.ok ⟨2⟩, pairPopped other) := rfl

theorem elements?_of_number : (pairPopped (.int 2)).heap.elements? ⟨2⟩ = some [⟨0⟩, ⟨1⟩] := by
  decide +kernel

theorem elements?_of_null : (pairPopped .null).heap.elements? ⟨2⟩ = some [⟨0⟩, ⟨1⟩] := by
  decide +kernel

/-- The two elements are stored into variables, and a third variable gets the empty value. -/
theorem assignMulti_in_order_variables : ∃ m' landings m₁,
    assignMulti (reentry 5) (lowerTargets 1 [.var "$a", .var "$b", .var "$c"]) none
      (pairOperand (.int 2)) =
      (.ok (), m') ∧
      Fans (reentry 5) (lowerTargets 1 [.var "$a", .var "$b", .var "$c"])
        [⟨0⟩, ⟨1⟩] (pairTaken (.int 2)) landings m₁ ∧
      landings.length = 3 := by
  have ends : (assignMulti (reentry 5) (lowerTargets 1 [.var "$a", .var "$b", .var "$c"]) none
    (pairOperand (.int 2))).1.toOption = some () := by decide +kernel
  have run := Run.run_of_toOption ends
  obtain ⟨landings, m₁, fans, length, -⟩ :=
      assignMulti_in_order 5 run (pop_pairOperand _) elements?_of_number
  exact ⟨_, landings, m₁, run, fans, length⟩

/-! ### Cells that are written on the way -/

/-- Two stores. -/
theorem Fans.pair {first second : Block} {e₁ e₂ c₁ c₂ : CellRef} {m₁ m₂ : Machine}
    (evaluated₁ : targetCell self first m = (.ok c₁, m₁))
    (evaluated₂ : targetCell self second { m₁ with heap := m₁.heap.assigned c₁ e₁ } =
      (.ok c₂, m₂)) :
    Fans self [first, second] [e₁, e₂] m
      [⟨c₁, e₁, m.heap, m₁.heap⟩, ⟨c₂, e₂, m₁.heap.assigned c₁ e₁, m₂.heap⟩]
      { m₂ with heap := m₂.heap.assigned c₂ e₂ } :=
  .store evaluated₁ (.store evaluated₂ (.done _ _))

/-- The machine after the store of a cell into a target that stands for another one. -/
def afterStore (m : Machine) (target : Block) (cell element : CellRef) : Machine :=
  let m := (targetCell (reentry 5) target m).2
  { m with heap := m.heap.assigned cell element }

/-- The block of an element of a container. -/
def elementTarget (container : Expr) (n : Int64) : Block :=
  .mk none (Expr.lower 1 (.index container (.literal (.int n))))

/-- The two elements are stored into two targets. Each is stored into once, and the second one does
not get what the second element held in the beginning. -/
def SecondMissed (other : Content) (first second : Block) : Prop :=
  ∃ landings m₁ c₁ c₂, Fans (reentry 5) [first, second] [⟨0⟩, ⟨1⟩] (pairTaken other) landings m₁ ∧
    assignMulti (reentry 5) [first, second] none (pairOperand other) =
      (.ok (), { m₁ with context := m₁.context.push ⟨2⟩ }) ∧
    landings.map (·.target) = [c₁, c₂] ∧ c₁ ≠ c₂ ∧ m₁.heap.get c₂ ≠ (pairTaken other).heap.get ⟨1⟩

theorem secondMissed_of {other : Content} {first second : Block} (c₁ c₂ : CellRef)
    (test : Value → Bool) (listed : (pairPopped other).heap.elements? ⟨2⟩ = some [⟨0⟩, ⟨1⟩])
    (found₁ : (targetCell (reentry 5) first (pairTaken other)).1.toOption = some c₁)
    (found₂ :
      (targetCell (reentry 5) second (afterStore (pairTaken other) first c₁ ⟨0⟩)).1.toOption =
        some c₂)
    (apart : c₁ ≠ c₂)
    (differs :
      test ((afterStore (afterStore (pairTaken other) first c₁ ⟨0⟩) second c₂ ⟨1⟩).heap.get c₂) ≠
        test ((pairTaken other).heap.get ⟨1⟩)) :
    SecondMissed other first second := by
  have fans : Fans (reentry 5) [first, second] [⟨0⟩, ⟨1⟩] (pairTaken other) _ _ :=
    .pair (Run.run_of_toOption found₁) (Run.run_of_toOption found₂)
  exact ⟨_, _, c₁, c₂, fans, fans.assignMulti_eq (pop_pairOperand other) listed, rfl, apart,
    fun same => differs (congrArg test same)⟩

/-- Whether a value is a number. -/
def isNumber (n : Int64) (value : Value) : Bool :=
  match value.content with
  | .int k => k == n
  | _ => false

/-- The elements of a list are stored into the list itself in the opposite order, and the second
store takes what the first has written. Or the first target is an element of the second element,
which is empty: that element becomes a list when the target is evaluated, and this list is what is
stored into a variable. -/
theorem assignMulti_not_simultaneous :
    SecondMissed (.int 2) (elementTarget (.var "@x") 1) (elementTarget (.var "@x") 0) ∧
    SecondMissed .null (elementTarget (.index (.var "@x") (.literal (.int 1))) 0)
      (.mk none (Expr.lower 1 (.var "$b"))) := by
  refine ⟨secondMissed_of ⟨1⟩ ⟨0⟩ (isNumber 2) elements?_of_number ?_ ?_ ?_ ?_,
    secondMissed_of ⟨5⟩ ⟨6⟩ (·.content.isNull) elements?_of_null ?_ ?_ ?_ ?_⟩ <;> decide +kernel

end Eval

end CellScript
