import CellScript.Engine
import CellScript.Proofs.Eval.Call
import CellScript.Proofs.Eval.Hook
import CellScript.Proofs.Sequence.Request

/-!
# Taint goes on to results

Where taint is watched, a step that computes a value from operands hands their taint on to it:
operators, text with names in it, calls of functions that do not settle taint themselves, new host
objects and messages. It looks at the marks of the operands themselves. What is marked inside of a
container does not count, and an element of a container is handed on as it is, with its own mark.

## Main definitions

* `Run.upheld` — computations after which taint is watched as before.
* `Instruction.handsOn`, `Instruction.inputs` — steps that hand taint on, and what they compute
  from.
* `Machine.TaintPassed` — the last operand is tainted if one of some cells is.

## Main statements

* `Heap.isTainted_taintDeep` — marking all that a cell reaches marks the cell.
* `Eval.upheld_reentry` — whatever is run, taint is watched as before.
* `Eval.taint_handed_on` — steps hand taint on.
-/

namespace CellScript

/-! ## Marking -/

namespace Heap

variable {h : Heap} {cell : CellRef}

/-- Marking all that a cell reaches marks the cell. -/
theorem isTainted_taintDeep (allocated : cell.index < h.cells.size) :
    (h.taintDeep cell).isTainted cell := by
  unfold isTainted taintDeep
  rw [get_walk (t := .marking) (fun _ => rfl) allocated, if_pos .refl]
  rfl

end Heap

/-- The last operand is tainted if one of the cells is. -/
def Machine.TaintPassed (inputs : List CellRef) (m : Machine) : Prop :=
  ∃ cell, m.context.operands.head? = some cell ∧ (m.heap.anyTainted inputs → m.heap.isTainted cell)

/-- The same after a step, unless it has failed. -/
def Run.PassesTaint {α : Type} (inputs : List CellRef) : Post α
  | .ok _, m => m.TaintPassed inputs
  | .error _, _ => True

@[simp] theorem Context.operands_push (c : Context) (cell : CellRef) :
    (c.push cell).operands = cell :: c.operands := by
  cases h : c.frames <;> simp [push, modifyFrame, operands, h]

namespace Run

variable {α β : Type}

/-- A marked copy is marked. -/
theorem agrees_taintedCopy (cell : CellRef) (m : Machine) :
    Agrees False (liftM (HeapM.taintedCopy cell) : Run CellRef) (liftM (HeapM.taintedCopy cell))
      (fun r m' => ∀ new, r = .ok new → m'.heap.isTainted new) m := by
  refine .inr ⟨rfl, ?_⟩
  rintro _ ⟨⟩
  exact Heap.isTainted_taintDeep (by simp)

/-- What is pushed for a result of given inputs. -/
theorem agrees_push_propagate (inputs : List CellRef) (result : CellRef) (what : String)
    {m : Machine} (watched : m.context.taint) :
    Agrees False (propagate inputs result what >>= push) (propagate inputs result what >>= push)
      (PassesTaint inputs) m := by
  refine .bind (.bind (.askHeap (.bind (.askContext ?_))))
  dsimp only
  rw [watched, Bool.true_and]
  split
  · -- the copy is marked, whatever marking it has done to the inputs
    refine .andThen (agrees_taintedCopy result m) (fun new m₁ marked => ?_) fun _ _ _ => trivial
    exact (reports_traceTaint _).andThen fun logs =>
      .pure (.changeContext ⟨new, by simp, fun _ => marked new rfl⟩)
  · rename_i unmarked
    refine .pure (.changeContext ⟨result, by simp, fun tainted => ?_⟩)
    simpa [tainted] using unmarked

/-! ## Taint mode stays -/

/-- Taint is watched afterwards as it was before. -/
def Upholds (x : Run α) (m : Machine) : Prop :=
  Agrees False x x (fun _ m' => m.Upholds m') m

theorem Upholds.bind {x : Run α} {f : α → Run β} {m : Machine} (hx : Upholds x m)
    (hf : ∀ a m', x m = (.ok a, m') → Upholds (f a) m') : Upholds (x >>= f) m :=
  hx.andAfter (fun a m' run upheld => (hf a m' run).mono fun _ _ => upheld.trans) fun _ _ h => h

/-- Taint is watched afterwards as before, as a relation that computations pass on. -/
def upheld : Relation :=
  .plain (fun x _ m => Upholds x m)
    (fun _ serves _ => .inr ⟨rfl, .of_forall fun _ => .of_quiet serves.quiet⟩) Upholds.bind

instance : upheld.IsBroad where
  keeps _ upholds := .inr ⟨rfl, .of_forall fun _ => upholds⟩
  attempt h _ next := Upholds.bind (.attempt h) next
  within h := Eval.agrees_inside h fun _ _ h => ⟨rfl, rfl, h.scripts, h.functions⟩

instance (x y : Run α) [h : Related upheld x y] : Related upheld (attempt x) (attempt y) :=
  ⟨fun m => Agrees.attempt (h.holds m)⟩

/-- Without a hook evaluators uphold taint mode, also where host code calls back. -/
instance : Eval.Hook.none.Related upheld Eval.Hook.none where
  block _ _ := id
  step _ _ := id
  call := id
  invoke := id
  callBack h := by
    refine .andThen fun result => ?_
    split <;> infer_instance

end Run

/-! ## Elements -/

/-- The cell of the element at a position of a sequence or a map, when it is there. -/
def Heap.element? (h : Heap) (container position : CellRef) : Option CellRef :=
  match h.content container with
  | .sequence s => (h.sequences.find? s (h.cellInt position).toInt).toOption.join
  | .table t => (h.table t).peek (h.text position)
  | _ => none

/-- Nothing has to be added for an element that is there. -/
theorem Sequences.missing_of_find? {q : Sequences} {s : SequenceRef} {index : Int} {cell : CellRef}
    (found : q.find? s index = .ok (some cell)) : q.missing s index = .ok 0 := by
  unfold find? at found
  unfold missing
  cases window : q.window s with
  | error f => simp [window, Except.map] at found
  | ok w =>
    rw [window] at found
    cases resolved : resolveIndex index w.length with
    | error f => simp [Except.map, resolved] at found
    | ok i =>
      simp only [Except.map, resolved, Except.ok.injEq, Option.ite_none_right_eq_some] at found
      change (resolveIndex index w.length >>= fun i => _) = _
      rw [resolved]
      exact congrArg Except.ok (by omega)

theorem HeapM.element_of_find? {h : Heap} {s : SequenceRef} {index : Int} {cell : CellRef}
    (found : h.sequences.find? s index = .ok (some cell)) : element s index h = (.ok cell, h) := by
  rw [element, Sequences.bind_ok (consult_run (Sequences.missing_of_find? found)), if_pos rfl,
    Sequences.bind_ok (consult_run found)]
  rfl

theorem HeapM.lookup_of_peek {h : Heap} {t : TableRef} {key : String} {cell : CellRef}
    (found : (h.table t).peek key = some cell) :
    lookup t key h = (.ok (some cell), h.modifyTable t (·.touchIfAccessed key)) := by
  have asked : ask (fun h => (h.table t).peek key) h = (.ok (some cell), h) := by rw [ask, found]
  rw [lookup, Sequences.bind_ok asked]
  rfl

namespace Eval

variable {m : Machine}

/-- An element that is there is handed on as it is. -/
theorem elementAt_run (self : Reentry) {container position cell : CellRef}
    (found : m.heap.element? container position = some cell) :
    ∃ tables, elementAt self container position m =
      (.ok cell, { m with heap := { m.heap with tables } }) := by
  unfold Heap.element? at found
  unfold elementAt
  rw [Run.bind_run, Run.askHeap_run]
  dsimp only
  split at found
  · rename_i s sequence
    rw [sequence]
    dsimp only
    rw [elementOf, Run.bind_run, Run.askHeap_run]
    dsimp only
    cases run : m.heap.sequences.find? s (m.heap.cellInt position).toInt with
    | error f => simp [run, Except.toOption] at found
    | ok cell? =>
      obtain rfl : cell? = some cell := by simpa [run, Except.toOption] using found
      exact ⟨m.heap.tables, by rw [Run.liftM_heap, Run.onHeap_run, HeapM.element_of_find? run]⟩
  · rename_i t table
    rw [table]
    dsimp only
    rw [elementOf, Run.bind_run, Run.askHeap_run]
    dsimp only
    rw [Table.getOrCreate, Run.bind_run, Run.liftM_heap, Run.onHeap_run, HeapM.lookup_of_peek found]
    exact ⟨_, rfl⟩
  · cases found

/-- The element that is there is pushed. -/
theorem index_run (self : Reentry) {front : List CellRef} {container position cell : CellRef}
    (operands : m.context.killFrame.1 = front ++ [container, position])
    (found : m.heap.element? container position = some cell) :
    ∃ tables, index self m =
      (.ok (),
        { m with heap := { m.heap with tables }, context := m.context.killFrame.2.push cell }) := by
  obtain ⟨tables, run⟩ :=
    elementAt_run (m := { m with context := m.context.killFrame.2 }) self found
  refine ⟨tables, ?_⟩
  unfold index
  rw [Run.bind_run, Run.killFrame_run, operands]
  simp only [List.reverse_append, List.reverse_cons, List.reverse_nil, List.nil_append,
    List.cons_append]
  change (elementAt self container position >>= Run.push) _ = _
  rw [Run.bind_run, run]
  rfl

end Eval

/-! ## Steps -/

/-- The cells of the variables among fragments, as far as there are any. -/
def Machine.named (m : Machine) (fragments : List Fragment) : List CellRef :=
  fragments.filterMap fun
    | .text _ => none
    | .var name => m.context.scope.lookup? m.heap name

namespace Instruction

/-- Whether a step hands taint on: an operator, text with names in it, a call unless the function
settles taint itself, a new host object or a message. -/
def handsOn (m : Machine) : Instruction → Bool
  | .operate _ | .interpolate _ | .objectNew _ | .objectAccess _ _ => true
  | .call function => m.isPermeable m.context.script function
  | _ => false

/-- What a step computes from: the operands of the frame that it takes away, or the variables that
it names. -/
def inputs (m : Machine) : Instruction → List CellRef
  | .interpolate fragments => m.named fragments
  | _ => m.context.killFrame.1

end Instruction

namespace Eval

open Run (Agrees PassesTaint agrees_push_propagate)

instance whole_upheld (n : Nat) : Reentry.Whole Run.upheld (reentry n) (reentry n) := by
  rw [← hooked_none]
  infer_instance

/-- Whatever is run, taint is watched afterwards as before, and functions that hand taint on still
do. -/
theorem agrees_upheld {α : Type} (x : Run α) [h : Run.Related Run.upheld x x] (m : Machine) :
    Agrees False x x (fun _ m' => m.Upholds m') m :=
  h.holds m

variable {self : Reentry} [Reentry.Whole Run.upheld self self] {m : Machine}

/-- The variables among fragments are looked up without a change of the machine, apart from
reports. -/
theorem interpolated_run (fragments : List Fragment) (m : Machine) :
    ∃ text logs, interpolated fragments m = (.ok (text, m.named fragments), { m with logs }) := by
  induction fragments generalizing m with
  | nil => exact ⟨"", m.logs, rfl⟩
  | cons fragment rest ih =>
    cases fragment with
    | text s =>
      obtain ⟨text, logs, run⟩ := ih m
      exact ⟨s ++ text, logs, by rw [interpolated, Run.bind_run, run]; rfl⟩
    | var name =>
      rw [interpolated, Run.bind_run,
        show lookup? name m = (.ok (m.context.scope.lookup? m.heap name), m) from rfl]
      dsimp only
      cases found : m.context.scope.lookup? m.heap name with
      | none =>
        obtain ⟨logs, warned⟩ := (reports_warnUndeclared name).run m
        obtain ⟨text, logs', run⟩ := ih { m with logs }
        refine ⟨text, logs', ?_⟩
        dsimp only
        rw [Run.bind_run, warned]
        simpa [Machine.named, found] using run
      | some cell =>
        obtain ⟨text, logs, run⟩ := ih m
        refine ⟨m.heap.text cell ++ text, logs, ?_⟩
        dsimp only
        rw [Run.bind_run, Run.askHeap_run]
        dsimp only
        rw [Run.bind_run, run]
        simp [Machine.named, found]

/-- The result of a computation is pushed, and taint of the inputs handed on. -/
theorem agrees_handOn (inputs : List CellRef) (x : Run CellRef) [Run.Related Run.upheld x x]
    (what : String) (watched : m.context.taint) :
    Agrees False (do Run.push (← Run.propagate inputs (← x) what))
      (do Run.push (← Run.propagate inputs (← x) what))
      (PassesTaint inputs) m :=
  (agrees_upheld x m).andThen
    (fun result _ upheld => agrees_push_propagate inputs result what (upheld.taint.trans watched))
    fun _ _ _ => trivial

theorem agrees_interpolate (fragments : List Fragment) (watched : m.context.taint) :
    Agrees False (interpolate fragments) (interpolate fragments) (PassesTaint (m.named fragments))
      m := by
  obtain ⟨text, logs, run⟩ := interpolated_run fragments m
  exact .bind (.of_run run (agrees_handOn _ (HeapM.text text) _ watched))

theorem agrees_operate (op : String) (watched : m.context.taint) :
    Agrees False (operate op) (operate op) (PassesTaint m.context.killFrame.1) m := by
  refine .bind (.killFrame ?_)
  dsimp only
  unfold applyOperator
  split
  · exact .bind (.fail trivial)
  · rw [bind_assoc]
    exact agrees_handOn _ _ _ watched

theorem agrees_handOn_call (name : String) (watched : m.context.taint)
    (permeable : m.isPermeable m.context.script name) :
    Agrees False (call self name) (call self name) (PassesTaint m.context.killFrame.1) m := by
  refine .bind
    (.killFrame ((agrees_upheld _ _).andThen (fun result m₁ upheld => ?_) fun _ _ _ => trivial))
  have still : m₁.isPermeable m₁.context.script name :=
    upheld.script ▸ upheld.permeable _ _ permeable
  refine .bind (.ask ?_)
  dsimp only
  unfold Machine.isPermeable at still
  revert still
  cases (m₁.scripts.getD m₁.context.script.index default).environment.functions.get? name with
  | none =>
    intro _
    rw [if_pos rfl]
    exact agrees_push_propagate _ result name (upheld.taint.trans watched)
  | some f =>
    intro still
    rw [if_pos (by simpa using still)]
    exact agrees_push_propagate _ result name (upheld.taint.trans watched)

theorem agrees_handOn_objectNew (className : String) (watched : m.context.taint) :
    Agrees False (objectNew self className) (objectNew self className)
      (PassesTaint m.context.killFrame.1) m :=
  .bind (.killFrame (agrees_handOn _ _ _ watched))

theorem agrees_handOn_objectAccess (member className : Option String) (watched : m.context.taint) :
    Agrees False (objectAccess self member className) (objectAccess self member className)
      (PassesTaint m.context.killFrame.1) m := by
  refine .bind (.killFrame ?_)
  dsimp only
  split
  · exact agrees_handOn _ _ _ watched
  · exact .bind (.fail trivial)
  · exact agrees_handOn _ _ _ watched

theorem agrees_handOn_thenNormal {x : Run Unit} {inputs : List CellRef}
    (h : Agrees False x x (PassesTaint inputs) m) :
    Agrees False (thenNormal x) (thenNormal x) (PassesTaint inputs) m :=
  h.andThen (fun _ _ passed => .pure passed) fun _ _ _ => trivial

/-- A step that hands taint on, in any machine in which taint is watched. -/
theorem agrees_step_handsOn (resume : Option Cursor) {i : Instruction} (watched : m.context.taint)
    (handsOn : i.handsOn m) :
    Agrees False (step self resume i) (step self resume i) (PassesTaint (i.inputs m)) m := by
  cases i with
  | operate op => exact agrees_handOn_thenNormal (agrees_operate op watched)
  | interpolate fragments => exact agrees_handOn_thenNormal (agrees_interpolate fragments watched)
  | call function => exact agrees_handOn_thenNormal (agrees_handOn_call function watched handsOn)
  | objectNew className =>
    exact agrees_handOn_thenNormal (agrees_handOn_objectNew className watched)
  | objectAccess member className =>
    exact agrees_handOn_thenNormal (agrees_handOn_objectAccess member className watched)
  | _ => cases handsOn

/-- Where taint is watched, whatever machine a step begins in: the value that a step pushes which
hands taint on is tainted if one of its inputs is when it is pushed. An element of a sequence or a
map that is there is pushed as it is: the marks of the container and of the position do not matter,
and its own mark is as it was. -/
theorem taint_handed_on (n : Nat) (resume : Option Cursor) (i : Instruction) {m m' : Machine}
    {flow : Flow} (watched : m.context.taint) (run : step (reentry n) resume i m = (.ok flow, m')) :
    (i.handsOn m → m'.TaintPassed (i.inputs m)) ∧
    ∀ front container position cell, i = .index → i.inputs m = front ++ [container, position] →
      m.heap.element? container position = some cell →
      m'.context.operands.head? = some cell ∧ m'.heap.isTainted cell = m.heap.isTainted cell := by
  refine ⟨fun handsOn => ?_, ?_⟩
  · obtain ⟨r, same, passed⟩ := (agrees_step_handsOn resume watched handsOn).ends run nofun
    cases r with
    | ok _ => exact passed
    | error f => cases same
  · rintro front container position cell rfl operands found
    obtain ⟨tables, pushed⟩ := index_run (reentry n) operands found
    have steps : step (reentry n) resume .index m = (.ok .normal,
        { m with heap := { m.heap with tables }, context := m.context.killFrame.2.push cell }) := by
      rw [step, thenNormal, Run.bind_run, pushed]
      rfl
    cases run.symm.trans steps
    exact ⟨by simp, rfl⟩

/-- A tainted text and a clean one, as operands of a frame. -/
def textOperands : Machine :=
  { (default : Machine) with
    heap := { Heap.empty with cells := #[⟨.text "in", true⟩, .clean (.text "x")] }
    context := ((Context.start ⟨0⟩ default default true 1).createFrame.push ⟨0⟩).push ⟨1⟩ }

theorem taint_handed_on_text :
    textOperands.context.taint ∧ (step (reentry 1) none (.operate ".") textOperands).1 =
      .ok .normal ∧
    Instruction.inputs textOperands (.operate ".") = [⟨0⟩, ⟨1⟩] ∧
    (step (reentry 1) none (.operate ".") textOperands).2.TaintPassed [⟨0⟩, ⟨1⟩] :=
  have ends : (step (reentry 1) none (.operate ".") textOperands).1 = .ok .normal := rfl
  ⟨rfl, ends, rfl, (taint_handed_on 1 none (.operate ".") rfl (Prod.ext ends rfl)).1 rfl⟩

/-- A line of input is put into a list, and the list joined to a text. -/
def joinedList : Body :=
  .mk none 1
    [.expr (.assign (.var "@a") none (.call "&array" [.literal (.int 1)])),
      .expr (.call "&push" [.var "@a", .call "&readln" []]),
      .flow .return (some (.op "." [.var "@a", .literal (.str "x")]))]

/-- A clean value is put into a tainted list, and taken out again. -/
def indexedList : Body :=
  .mk none 1
    [.expr (.assign (.var "@a") none (.call "&taint" [.call "&array" [.literal (.int 1)]])),
      .expr (.call "&push" [.var "@a", .literal (.int 2)]),
      .flow .return (some (.index (.var "@a") (.literal (.int 1))))]

/-- A program that has been loaded by an engine that watches taint. -/
def loadedWatching (body : Body) : Engine :=
  (Engine.load (.ofBlock "main" body.build)
    (.create { EngineConfig.standard with taint := true } (.ofInput ["in"]))).2

/-- Run a program and look at its result and at the global variable `@a`. -/
def endsWith (body : Body) (test : Heap → CellRef → CellRef → Bool) : Bool :=
  match runScript (reentry 20) ⟨0⟩ (loadedWatching body).machine with
  | (.ok result, m) =>
    (m.heap.findVariable? (m.scripts.getD 0 default).globals "@a").any
      fun list => test m.heap result list
  | _ => false

/-- The marks inside of an operand do not count, and those of a list do not go on to an element: a
text made of a list that reaches a tainted cell is clean, and so is an element of a list that is
tainted itself. -/
theorem taint_not_handed_on :
    endsWith joinedList (fun h result list => !h.isTainted result &&
      h.anyTainted (h.reach (fun _ => true) list)) ∧
    endsWith indexedList (fun h result list => !h.isTainted result && h.isTainted list) := by
  decide +kernel

end Eval

end CellScript
